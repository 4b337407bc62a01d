import AmurCore.MapDrawing
import AmurCore.MapGeometry

/-!
# Fitting the map into the widget

`updateScaleOnResize` takes the smaller of two ratios, brings it between the
limits and splits what is left of the widget in two halves that it cuts off
towards zero. Both axes follow the same argument about one length and the part
of it that is drawn on.
-/

namespace MapFitting

open MapPainting MapWidget MapDrawing MapGeometry

/-! ### Cutting off -/

theorem truncate_of_nonneg {q : ℚ} (h : 0 ≤ q) : truncate q = ⌊q⌋ := by
  have num : 0 ≤ q.num := Rat.num_nonneg.mpr h
  rw [truncate, Int.tdiv_eq_ediv_of_nonneg num]
  exact (Rat.floor_def q).symm

theorem truncate_neg (q : ℚ) : truncate (-q) = -truncate q := by
  rw [truncate, truncate, Rat.neg_num, Rat.neg_den, Int.neg_tdiv]

theorem truncate_nonneg {q : ℚ} (h : 0 ≤ q) : 0 ≤ truncate q := by
  rw [truncate_of_nonneg h]
  exact Int.floor_nonneg.mpr h

theorem truncate_le {q : ℚ} (h : 0 ≤ q) : (truncate q : ℚ) ≤ q := by
  rw [truncate_of_nonneg h]
  exact Int.floor_le q

/-- Less than 1 is cut off, on either side of zero. -/
theorem abs_sub_truncate_lt (q : ℚ) : |q - truncate q| < 1 := by
  have positive {p : ℚ} (h : 0 ≤ p) : |p - truncate p| < 1 := by
    have low := truncate_le h
    have high : p < truncate p + 1 := by
      rw [truncate_of_nonneg h]
      exact Int.lt_floor_add_one p
    apply abs_lt.mpr
    constructor <;> linarith
  rcases le_total 0 q with h | h
  · exact positive h
  · have mirrored : q - truncate q = -(-q - truncate (-q)) := by
      rw [truncate_neg]
      push_cast
      ring
    rw [mirrored, abs_neg]
    exact positive (neg_nonneg.mpr h)

/-! ### One axis -/

/-- What `updateScaleOnResize` leaves on one axis before and after the map. -/
def near (length drawn : ℚ) : ℚ := truncate ((length - drawn) / 2)

def far (length drawn : ℚ) : ℚ := length - (near length drawn + drawn)

/-- The two differ by what is cut off twice. -/
theorem near_far_close (length drawn : ℚ) : |near length drawn - far length drawn| < 2 := by
  have cut := abs_lt.mp (abs_sub_truncate_lt ((length - drawn) / 2))
  have low := cut.1
  have high := cut.2
  apply abs_lt.mpr
  simp only [far, near]
  constructor <;> linarith

theorem near_far_nonneg {length drawn : ℚ} (fits : drawn ≤ length) :
    0 ≤ near length drawn ∧ 0 ≤ far length drawn := by
  have half : 0 ≤ (length - drawn) / 2 := by linarith
  have low : (0 : ℚ) ≤ truncate ((length - drawn) / 2) := by
    exact_mod_cast truncate_nonneg half
  have high := truncate_le half
  refine ⟨low, ?_⟩
  rw [far, near]
  linarith

theorem near_far_zero (length : ℚ) : near length length = 0 ∧ far length length = 0 := by
  have none_left : near length length = 0 := by
    rw [near, sub_self, zero_div, truncate_of_nonneg (le_refl 0), Int.floor_zero, Int.cast_zero]
  refine ⟨none_left, ?_⟩
  rw [far, none_left, zero_add, sub_self]

/-! ### The margins -/

/-- The distances between a rectangle and the edges of the widget. -/
structure Margins where
  left : ℚ
  right : ℚ
  top : ℚ
  bottom : ℚ

def margins (widgetWidth widgetHeight : ℤ) (r : Rect) : Margins :=
  ⟨r.left, widgetWidth - r.right, r.top, widgetHeight - r.bottom⟩

section Fitting
variable {s : State} {image : QImage} (widgetWidth widgetHeight : ℤ)

/-- The margins of the fitted map, axis by axis. -/
theorem fitted_margins (shown : s.mapImage = some image) :
    let t := updateScaleOnResize widgetWidth widgetHeight s
    let ratio := min ((widgetWidth : ℚ) / image.width) ((widgetHeight : ℚ) / image.height)
    t.scaleFactor = clamp ratio minScale maxScale ∧
    (drawMapLayer t).map (margins widgetWidth widgetHeight) = some
      ⟨near widgetWidth (image.width * t.scaleFactor),
        far widgetWidth (image.width * t.scaleFactor),
        near widgetHeight (image.height * t.scaleFactor),
        far widgetHeight (image.height * t.scaleFactor)⟩ := by
  intro t ratio
  have fitted : t = updateScaleOnResize widgetWidth widgetHeight s := rfl
  simp only [updateScaleOnResize, shown] at fitted
  rw [fitted]
  refine ⟨rfl, ?_⟩
  simp [drawMapLayer, mapToWidget, margins, State.view, near, far, add_comm]

/-- Up to the largest scale the map is as wide or as high as the widget. -/
theorem touches_of_ratio {w h : ℚ} (hw : 0 < w) (hh : 0 < h) (width height : ℚ) :
    w * min (width / w) (height / h) = width ∨ h * min (width / w) (height / h) = height := by
  rcases min_choice (width / w) (height / h) with wide | high
  · exact Or.inl (by rw [wide, mul_div_cancel₀ _ (ne_of_gt hw)])
  · exact Or.inr (by rw [high, mul_div_cancel₀ _ (ne_of_gt hh)])

theorem drawn_le {w ratio scale length : ℚ} (hw : 0 < w) (small : scale ≤ ratio)
    (fits : ratio ≤ length / w) : w * scale ≤ length := by
  have bound : scale ≤ length / w := small.trans fits
  rw [le_div_iff₀ hw, mul_comm] at bound
  exact bound

/-- The whole map is shown in the middle of the widget: the margins of an axis
are equal up to 2 pixels, none is negative unless the smallest scale is too
large, and an axis has none at all unless the largest is too small. -/
theorem fitted_map_centred (shown : s.mapImage = some image) (hw : 1 ≤ image.width)
    (hh : 1 ≤ image.height) :
    let t := updateScaleOnResize widgetWidth widgetHeight s
    let ratio := min ((widgetWidth : ℚ) / image.width) ((widgetHeight : ℚ) / image.height)
    ∃ m, (drawMapLayer t).map (margins widgetWidth widgetHeight) = some m ∧
      (1 / 10 ≤ t.scaleFactor ∧ t.scaleFactor ≤ 10) ∧
      (|m.left - m.right| < 2 ∧ |m.top - m.bottom| < 2) ∧
      (1 / 10 ≤ ratio → (0 ≤ m.left ∧ 0 ≤ m.right) ∧ 0 ≤ m.top ∧ 0 ≤ m.bottom) ∧
      (1 / 10 ≤ ratio → ratio ≤ 10 →
        (m.left = 0 ∧ m.right = 0) ∨ (m.top = 0 ∧ m.bottom = 0)) := by
  intro t ratio
  obtain ⟨scale, drawn⟩ := fitted_margins widgetWidth widgetHeight shown
  change t.scaleFactor = clamp ratio minScale maxScale at scale
  have width : (0 : ℚ) < image.width := by exact_mod_cast hw
  have height : (0 : ℚ) < image.height := by exact_mod_cast hh
  refine ⟨_, drawn, ?_, ⟨near_far_close _ _, near_far_close _ _⟩, ?_, ?_⟩
  · have bounded := clamp_bounded ratio
    rw [← scale] at bounded
    exact bounded
  · intro large
    have small : t.scaleFactor ≤ ratio := by
      rw [scale]
      exact clamp_le large
    exact ⟨near_far_nonneg (drawn_le width small (min_le_left _ _)),
      near_far_nonneg (drawn_le height small (min_le_right _ _))⟩
  · intro large small
    have exactly : t.scaleFactor = ratio := by
      rw [scale]
      exact clamp_of_mem large small
    rcases touches_of_ratio width height (widgetWidth : ℚ) widgetHeight with wide | high
    · left
      rw [exactly, wide]
      exact near_far_zero _
    · right
      rw [exactly, high]
      exact near_far_zero _

end Fitting

/-- A map of one cell in a widget three times as wide as high. -/
theorem oneCell_fitted : ∃ m, (drawMapLayer (updateScaleOnResize 6 2 oneCell)).map (margins 6 2)
    = some m ∧ |m.left - m.right| < 2 ∧ (0 ≤ m.left ∧ 0 ≤ m.right) ∧
      ((m.left = 0 ∧ m.right = 0) ∨ (m.top = 0 ∧ m.bottom = 0)) := by
  have shown : oneCell.mapImage = some (paint [0] 1 1) := rfl
  obtain ⟨m, drawn, -, close, inside, touches⟩ :=
    fitted_map_centred 6 2 shown (by decide) (by decide)
  have large : (1 : ℚ) / 10 ≤ min (((6 : ℤ) : ℚ) / (paint [0] 1 1).width)
      (((2 : ℤ) : ℚ) / (paint [0] 1 1).height) := by
    rw [paint_width, paint_height]
    norm_num
  have small : min (((6 : ℤ) : ℚ) / (paint [0] 1 1).width)
      (((2 : ℤ) : ℚ) / (paint [0] 1 1).height) ≤ 10 := by
    rw [paint_width, paint_height]
    norm_num
  exact ⟨m, drawn, close.1, (inside large).1, touches large small⟩

end MapFitting
