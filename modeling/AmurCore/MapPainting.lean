import Mathlib.Algebra.Group.Nat.Defs
import Mathlib.Data.List.Basic

/-!
# Painting the map

The image that `MapWidget::setMapData` makes of the cells of an occupancy grid:
the loops that set every pixel, row by row, and the vertical mirroring. The
shade of a cell is computed in doubles, so the product is rounded before it is
cut off to an integer. A cell above 100 has no shade, and its pixel stays white.
-/

namespace MapPainting

/-- `QColor`; one with a component outside 0..255 is invalid. -/
inductive QColor where
  | invalid
  | rgb (r g b : Int)
  deriving DecidableEq

def QColor.ofComponents (r g b : Int) : QColor :=
  if (0 ≤ r ∧ r ≤ 255) ∧ (0 ≤ g ∧ g ≤ 255) ∧ 0 ≤ b ∧ b ≤ 255 then .rgb r g b else .invalid

def QColor.white : QColor := .rgb 255 255 255

/-- The colour of a pixel that was `below` and is set to `color`. -/
def QColor.over (color below : QColor) : QColor := if color = .invalid then below else color

/-- `QImage`; of the pixel function only the values inside the image matter. -/
structure QImage where
  width : Nat
  height : Nat
  pixelColor : Nat → Nat → QColor

namespace QImage

def filled (width height : Nat) (color : QColor) : QImage := ⟨width, height, fun _ _ => color⟩

/-- An invalid colour is refused like a place outside the image. -/
def setPixelColor (x y : Nat) (color : QColor) (image : QImage) : QImage :=
  if (x < image.width ∧ y < image.height) ∧ color ≠ .invalid then
    { image with
      pixelColor := fun x' y' => if x' = x ∧ y' = y then color else image.pixelColor x' y' }
  else image

theorem setPixelColor_inside {x y : Nat} {image : QImage}
    (inside : x < image.width ∧ y < image.height) (color : QColor) :
    image.setPixelColor x y color
      = { image with pixelColor := fun x' y' =>
            if x' = x ∧ y' = y then color.over (image.pixelColor x' y')
            else image.pixelColor x' y' } := by
  rw [setPixelColor]
  by_cases refused : color = .invalid
  · rw [if_neg fun both => both.2 refused]
    simp only [QColor.over, refused, if_true, ite_self]
  · rw [if_pos ⟨inside, refused⟩]
    simp only [QColor.over, refused, if_false]

/-- `mirrored(false, true)`. -/
def mirrored (image : QImage) : QImage :=
  { image with pixelColor := fun x y => image.pixelColor x (image.height - 1 - y) }

end QImage

/-! ### The colour of a cell -/

/-- A number rounded to the 53 bits of a double, ties to even. -/
def roundToDouble (n : Nat) : Nat :=
  let unit := 2 ^ (n.log2 + 1 - 53)
  let down := n / unit
  let rest := n % unit
  let rounded := if 2 * rest > unit ∨ (2 * rest = unit ∧ down % 2 = 1) then down + 1 else down
  rounded * unit

/-- `static_cast<int>(2.55 * val)`: the double 2.55 is the numerator over `2 ^ 51`. -/
def scaledValue (val : Nat) : Nat := roundToDouble (5742089524897382 * val) / 2 ^ 51

def cellColor (val : Int8) : QColor :=
  if val < 0 then .ofComponents 128 128 128
  else
    let shade : Int := 255 - scaledValue val.toInt.toNat
    .ofComponents shade shade shade

theorem scaledValue_large : ∀ n < 128, 255 < scaledValue n ↔ 100 < n := by decide +kernel

/-- A cell has a colour unless it is above 100. -/
theorem cellColor_eq_invalid {val : Int8} : cellColor val = .invalid ↔ 100 < val := by
  have above : 100 < val ↔ 100 < val.toInt := Int8.lt_iff_toInt_lt
  have most : val.toInt ≤ 127 := Int8.toInt_le val
  rw [above, cellColor]
  split
  · rename_i unknown
    have negative : val.toInt < 0 := Int8.lt_iff_toInt_lt.mp unknown
    exact iff_of_false (by decide) (by omega)
  · rename_i known
    have positive : ¬val.toInt < 0 := fun h => known (Int8.lt_iff_toInt_lt.mpr h)
    have scaled := scaledValue_large val.toInt.toNat (by omega)
    dsimp only [QColor.ofComponents]
    split
    · exact iff_of_false QColor.noConfusion (by omega)
    · exact iff_of_true rfl (by omega)

/-- The colour that is left of it on a new image. -/
def drawnColor (val : Int8) : QColor := (cellColor val).over .white

theorem drawnColor_eq_iff {val : Int8} : drawnColor val = cellColor val ↔ val ≤ 100 := by
  rw [drawnColor, QColor.over, ← Int8.not_lt, ← cellColor_eq_invalid]
  split
  · rename_i refused
    rw [refused]
    exact iff_of_false QColor.noConfusion fun shown => shown rfl
  · rename_i shown
    exact iff_of_true rfl shown

/-! ### The loops -/

section Loops
variable (data : List Int8) (width : Nat)

def cellAt (x y : Nat) : Int8 := data.getD (y * width + x) 0

def paintRow (image : QImage) (y : Nat) : QImage :=
  (List.range width).foldl
    (fun image x => image.setPixelColor x y (cellColor (cellAt data width x y))) image

def paintRows (height : Nat) (image : QImage) : QImage :=
  (List.range height).foldl (paintRow data width) image

/-- The new `m_mapImage`. -/
def paint (height : Nat) : QImage :=
  (paintRows data width height (.filled width height .white)).mirrored

end Loops

variable {data : List Int8} {width height : Nat}

/-- The first `n` turns of the inner loop paint the first `n` pixels of the row. -/
theorem paintRow_prefix (image : QImage) (y n : Nat) (row : y < image.height)
    (columns : n ≤ image.width) :
    (List.range n).foldl
        (fun image x => image.setPixelColor x y (cellColor (cellAt data width x y))) image
      = { image with pixelColor := fun x' y' =>
            if x' < n ∧ y' = y then
              (cellColor (cellAt data width x' y')).over (image.pixelColor x' y')
            else image.pixelColor x' y' } := by
  induction n with
  | zero => simp
  | succ n ih =>
    rw [List.range_succ, List.foldl_append, ih (by omega), List.foldl_cons, List.foldl_nil,
      QImage.setPixelColor_inside]
    · congr 1
      funext x' y'
      by_cases last : x' = n ∧ y' = y
      · obtain ⟨rfl, rfl⟩ := last
        simp
      · have sameRange : (x' < n + 1 ∧ y' = y) ↔ (x' < n ∧ y' = y) := by omega
        simp only [last, sameRange, if_false]
    · exact ⟨columns, row⟩

theorem paintRow_eq (image : QImage) (y : Nat) (row : y < image.height)
    (columns : width ≤ image.width) :
    paintRow data width image y
      = { image with pixelColor := fun x' y' =>
            if x' < width ∧ y' = y then
              (cellColor (cellAt data width x' y')).over (image.pixelColor x' y')
            else image.pixelColor x' y' } :=
  paintRow_prefix image y width row columns

theorem paintRows_prefix (image : QImage) (n : Nat) (rows : n ≤ image.height)
    (columns : width ≤ image.width) :
    paintRows data width n image
      = { image with pixelColor := fun x' y' =>
            if x' < width ∧ y' < n then
              (cellColor (cellAt data width x' y')).over (image.pixelColor x' y')
            else image.pixelColor x' y' } := by
  unfold paintRows
  induction n with
  | zero => simp
  | succ n ih =>
    rw [List.range_succ, List.foldl_append, ih (by omega), List.foldl_cons, List.foldl_nil,
      paintRow_eq]
    · congr 1
      funext x' y'
      by_cases last : x' < width ∧ y' = n
      · obtain ⟨inside, rfl⟩ := last
        simp [inside]
      · have sameRange : (x' < width ∧ y' < n + 1) ↔ (x' < width ∧ y' < n) := by omega
        simp only [last, sameRange, if_false]
    · exact rows
    · exact columns

/-- The image in closed form: the last row of cells is at its top. -/
theorem paint_eq : paint data width height
    = ⟨width, height, fun x y =>
        if x < width ∧ height - 1 - y < height then
          drawnColor (cellAt data width x (height - 1 - y))
        else .white⟩ := by
  have painted : paintRows data width height (.filled width height .white) = _ :=
    paintRows_prefix _ height (Nat.le_refl _) (Nat.le_refl _)
  rw [paint, painted]
  rfl

@[simp] theorem paint_width : (paint data width height).width = width := by
  rw [paint_eq]

@[simp] theorem paint_height : (paint data width height).height = height := by
  rw [paint_eq]

theorem paint_pixelColor {x y : Nat} (hx : x < width) (hy : y < height) :
    (paint data width height).pixelColor x y
      = drawnColor (cellAt data width x (height - 1 - y)) := by
  have row : height - 1 - y < height := by omega
  rw [paint_eq]
  exact if_pos ⟨hx, row⟩

example : [(0 : Int8), 20, 100, -1].map cellColor
    = [.rgb 255 255 255, .rgb 204 204 204, .rgb 1 1 1, .rgb 128 128 128] := by decide

end MapPainting
