import AmurCore.MapGeometry

/-!
# The cells that the loops read

The loops of `setMapData` compute the index of a cell in an `int`. Here they are
run with the indexes that they read written down, in the 32 bits that the
machine has for them: the indexes are those of the data from the first to the
last, and the image is the one that the widget shows.
-/

namespace MapCells

open MapPainting MapWidget MapGeometry

/-- `int index = y * width + x`. -/
def loopIndex (width y x : Int32) : Int32 := y * width + x

section Loops
variable (data : List Int8) (width : Int32)

/-- A turn of the inner loop: the image and the indexes read so far. -/
def readCell (y : Nat) (s : QImage × List Int32) (x : Nat) : QImage × List Int32 :=
  let index := loopIndex width (.ofNat y) (.ofNat x)
  let val := data.getD index.toInt.toNat 0
  (s.1.setPixelColor x y (cellColor val), s.2 ++ [index])

def readRow (s : QImage × List Int32) (y : Nat) : QImage × List Int32 :=
  (List.range width.toInt.toNat).foldl (readCell data width y) s

def readRows (height : Int32) (image : QImage) : QImage × List Int32 :=
  (List.range height.toInt.toNat).foldl (readRow data width) (image, [])

end Loops

variable {data : List Int8} {width height : Int32}

/-! ### The indexes -/

theorem bmod_small {n : Int} (low : 0 ≤ n) (high : n < 2 ^ 31) : n.bmod (2 ^ 32) = n := by
  apply Int.bmod_eq_of_le_mul_two <;> omega

/-- The cells of a grid that is smaller than an `int` are counted within it. -/
theorem cell_fits {w h x y : Nat} (small : h * w < 2 ^ 31) (hx : x < w) (hy : y < h) :
    y * w + x < h * w ∧ y < 2 ^ 31 := by
  have row : (y + 1) * w ≤ h * w := Nat.mul_le_mul_right w hy
  have column : y ≤ y * w := Nat.le_mul_of_pos_right y (by omega)
  rw [Nat.succ_mul] at row
  omega

/-- No product and no sum of the loops leaves the range of an `int`. -/
theorem loopIndex_toInt {w h x y : Nat} (columns : width.toInt = w) (small : h * w < 2 ^ 31)
    (hx : x < w) (hy : y < h) :
    (loopIndex width (.ofNat y) (.ofNat x)).toInt = ((y * w + x : Nat) : Int) := by
  obtain ⟨inside, row⟩ := cell_fits small hx hy
  have product : (y : Int) * w < 2 ^ 31 := by
    have below : y * w < 2 ^ 31 := by omega
    exact_mod_cast below
  have sum : (y : Int) * w + x < 2 ^ 31 := by
    have below : y * w + x < 2 ^ 31 := by omega
    exact_mod_cast below
  rw [loopIndex, Int32.toInt_add, Int32.toInt_mul, Int32.toInt_ofNat_of_lt row,
    Int32.toInt_ofNat_of_lt (by omega), columns, bmod_small (by positivity) product,
    bmod_small (by positivity) sum]
  push_cast
  rfl

/-! ### The loops -/

/-- The indexes of a row, in the order of the inner loop. -/
def rowIndexes (width : Int32) (columns y : Nat) : List Int32 :=
  (List.range columns).map fun x => loopIndex width (.ofNat y) (.ofNat x)

section Run
variable {w h : Nat} (columns : width.toInt = w) (small : h * w < 2 ^ 31)
include columns small

/-- The first `n` turns of the inner loop paint what the loop without indexes paints. -/
theorem readCells_eq {y : Nat} (hy : y < h) (s : QImage × List Int32) {n : Nat} (hn : n ≤ w) :
    (List.range n).foldl (readCell data width y) s
      = ((List.range n).foldl
          (fun image x => image.setPixelColor x y (cellColor (cellAt data w x y))) s.1,
        s.2 ++ rowIndexes width n y) := by
  induction n with
  | zero => simp [rowIndexes]
  | succ n ih =>
    have index := loopIndex_toInt columns small (by omega : n < w) hy
    have cell : data.getD (loopIndex width (.ofNat y) (.ofNat n)).toInt.toNat 0
        = cellAt data w n y := by
      rw [index, Int.toNat_natCast, cellAt]
    rw [List.range_succ, List.foldl_append, List.foldl_append, ih (by omega)]
    simp only [List.foldl_cons, List.foldl_nil, readCell, cell, rowIndexes, List.range_succ,
      List.map_append, List.map_cons, List.map_nil, List.append_assoc]

theorem readRow_eq {y : Nat} (hy : y < h) (s : QImage × List Int32) :
    readRow data width s y = (paintRow data w s.1 y, s.2 ++ rowIndexes width w y) := by
  have turns : width.toInt.toNat = w := by rw [columns, Int.toNat_natCast]
  rw [readRow, turns]
  exact readCells_eq columns small hy s (Nat.le_refl w)

/-- The first `n` turns of the outer loop. -/
theorem readRows_prefix (image : QImage) {n : Nat} (hn : n ≤ h) :
    (List.range n).foldl (readRow data width) (image, [])
      = (paintRows data w n image, (List.range n).flatMap (rowIndexes width w)) := by
  induction n with
  | zero => rfl
  | succ n ih =>
    rw [List.range_succ, List.foldl_append, ih (by omega), List.foldl_cons, List.foldl_nil,
      readRow_eq columns small (by omega), paintRows, paintRows, List.range_succ,
      List.foldl_append, List.flatMap_append]
    simp

/-- Row after row the indexes count through the grid. -/
theorem indexes_count {n : Nat} (hn : n ≤ h) :
    ((List.range n).flatMap (rowIndexes width w)).map Int32.toInt
      = (List.range (n * w)).map fun i : Nat => (i : Int) := by
  induction n with
  | zero => simp
  | succ n ih =>
    have row : (rowIndexes width w n).map Int32.toInt
        = ((List.range w).map (n * w + ·)).map fun i : Nat => (i : Int) := by
      rw [rowIndexes, List.map_map, List.map_map]
      apply List.map_congr_left
      intro x mem
      exact loopIndex_toInt columns small (List.mem_range.mp mem) (by omega)
    rw [List.range_succ, List.flatMap_append, List.map_append, ih (by omega), Nat.succ_mul,
      List.range_add, List.map_append, ← row]
    simp

end Run

/-! ### The widget -/

theorem accepted_sizes (accepted : accepts data width.toInt height.toInt = true) :
    width.toInt = width.toInt.toNat ∧ height.toInt.toNat * width.toInt.toNat = data.length := by
  obtain ⟨hw, hh, cells⟩ := accepts_iff.mp accepted
  have columns : width.toInt = width.toInt.toNat := (Int.toNat_of_nonneg hw.le).symm
  have rows : height.toInt = height.toInt.toNat := (Int.toNat_of_nonneg hh.le).symm
  rw [columns, rows, mul_comm] at cells
  exact ⟨columns, by exact_mod_cast cells.symm⟩

/-- The traced loops make the image that `setMapData` makes. -/
theorem readRows_mirrored (accepted : accepts data width.toInt height.toInt = true)
    (short : data.length < 2 ^ 31) :
    let w := width.toInt.toNat
    let h := height.toInt.toNat
    let read := readRows data width height (.filled w h .white)
    read.1.mirrored = paint data w h ∧
      read.2.map Int32.toInt = (List.range data.length).map fun i : Nat => (i : Int) := by
  intro w h read
  obtain ⟨columns, size⟩ := accepted_sizes accepted
  have run : read = _ := readRows_prefix columns (size ▸ short) (.filled w h .white) (Nat.le_refl h)
  rw [run]
  refine ⟨rfl, ?_⟩
  rw [indexes_count columns (size ▸ short) (Nat.le_refl h), size]

/-- Every cell of an accepted map is read once, at an index that an `int` holds
and the data has, and the pixel in its place in the image of the widget has its colour.
A rejected map takes the image away and leaves the rest of the widget. -/
def PaintsCells (colorOf : Int8 → QColor) (data : List Int8) (width height : Int32)
    (resolution originX originY : ℚ) (s : State) : Prop :=
  let w := width.toInt.toNat
  let h := height.toInt.toNat
  let read := readRows data width height (.filled w h .white)
  let t := setMapData data width.toInt height.toInt resolution originX originY s
  (accepts data width.toInt height.toInt = true →
    read.2.map Int32.toInt = ((List.range data.length).map fun i : Nat => (i : Int)) ∧
    t.mapImage = some read.1.mirrored ∧
    (read.1.mirrored.width = w ∧ read.1.mirrored.height = h) ∧
    ∀ x y, x < w → y < h →
      (loopIndex width (.ofNat y) (.ofNat x)).toInt = ((y * w + x : Nat) : Int) ∧
      y * w + x < data.length ∧
      some (read.1.mirrored.pixelColor x (h - 1 - y)) = data[y * w + x]?.map colorOf) ∧
  (accepts data width.toInt height.toInt = false → t = { s with mapImage := none })

section Widget
variable (short : data.length < 2 ^ 31) (resolution originX originY : ℚ) (s : State)
include short

/-- The pixels have the colours of the cells that are left on a new image. -/
theorem paintsCells_drawn :
    PaintsCells drawnColor data width height resolution originX originY s := by
  unfold PaintsCells
  intro w h read t
  constructor
  · intro accepted
    obtain ⟨painted, counted⟩ := readRows_mirrored accepted short
    obtain ⟨columns, size⟩ := accepted_sizes accepted
    change read.1.mirrored = paint data w h at painted
    rw [painted]
    refine ⟨counted, (setMapData_shows accepted _ _ _ s).image, ⟨paint_width, paint_height⟩, ?_⟩
    intro x y hx hy
    have inside : y * w + x < data.length := size ▸ (cell_fits (size ▸ short) hx hy).1
    have place : h - 1 - (h - 1 - y) = y := by omega
    refine ⟨loopIndex_toInt columns (size ▸ short) hx hy, inside, ?_⟩
    rw [paint_pixelColor hx (by omega), place, cellAt, List.getElem?_eq_getElem inside,
      Option.map_some, List.getD_eq_getElem?_getD,
      List.getElem?_eq_getElem inside, Option.getD_some]
  · intro refused
    simp [t, setMapData, refused]

/-- A cell that is painted in its own colour is not above 100. -/
theorem PaintsCells.shaded (accepted : accepts data width.toInt height.toInt = true)
    (painted : PaintsCells cellColor data width height resolution originX originY s)
    {val : Int8} (mem : val ∈ data) : val ≤ 100 := by
  obtain ⟨i, inside, rfl⟩ := List.getElem_of_mem mem
  obtain ⟨-, size⟩ := accepted_sizes accepted
  obtain ⟨positive, -, -⟩ := accepts_iff.mp accepted
  have wide : 0 < width.toInt.toNat := by omega
  -- the cell is found again in its row and column
  have column := Nat.mod_lt i wide
  have row : i / width.toInt.toNat < height.toInt.toNat :=
    (Nat.div_lt_iff_lt_mul wide).mpr (size ▸ inside)
  have place : i / width.toInt.toNat * width.toInt.toNat + i % width.toInt.toNat = i :=
    Nat.div_add_mod' i _
  have drawn := ((paintsCells_drawn short resolution originX originY s).1 accepted).2.2.2 _ _
    column row
  have shown := (painted.1 accepted).2.2.2 _ _ column row
  rw [place, List.getElem?_eq_getElem inside, Option.map_some] at drawn shown
  exact drawnColor_eq_iff.mp (Option.some.inj (drawn.2.2.symm.trans shown.2.2))

/-- An accepted map is painted in the colours of its cells exactly if none of them is
above 100. -/
theorem paintsCells_iff :
    PaintsCells cellColor data width height resolution originX originY s ↔
      (accepts data width.toInt height.toInt = true → ∀ val ∈ data, val ≤ 100) := by
  constructor
  · exact fun painted accepted val mem => painted.shaded short _ _ _ s accepted mem
  · intro shaded
    have painted : PaintsCells drawnColor data width height resolution originX originY s :=
      paintsCells_drawn short resolution originX originY s
    obtain ⟨drawn, refused⟩ := painted
    refine ⟨fun accepted => ?_, refused⟩
    obtain ⟨counted, image, size, cells⟩ := drawn accepted
    refine ⟨counted, image, size, fun x y hx hy => ?_⟩
    obtain ⟨index, inside, pixel⟩ := cells x y hx hy
    refine ⟨index, inside, ?_⟩
    rw [pixel, List.getElem?_eq_getElem inside, Option.map_some, Option.map_some,
      drawnColor_eq_iff.mpr (shaded accepted _ (List.getElem_mem inside))]

end Widget

/-- A map of two rows, of which the first row of cells is drawn below the other. -/
theorem twoRows_painted :
    PaintsCells cellColor [0, 100, -1, 20] 2 2 1 0 0 (construct ⟨2, 2⟩ 0 0) := by
  refine (paintsCells_iff (by decide) 1 0 0 _).mpr fun _ val mem => ?_
  have shaded : [(0 : Int8), 100, -1, 20].all (· ≤ 100) = true := by decide
  exact of_decide_eq_true (List.all_eq_true.mp shaded val mem)

/-- The pixel of a cell above 100 stays white. -/
theorem fullCell_unpainted :
    ((setMapData [101] 1 1 1 0 0 (construct ⟨1, 1⟩ 0 0)).mapImage.map fun image =>
        image.pixelColor 0 0) = some .white ∧
      ¬PaintsCells cellColor [101] 1 1 1 0 0 (construct ⟨1, 1⟩ 0 0) := by
  refine ⟨by decide, fun painted => ?_⟩
  have shaded := painted.shaded (by decide) 1 0 0 _ (by decide) (List.mem_singleton_self 101)
  exact absurd shaded (by decide)

end MapCells
