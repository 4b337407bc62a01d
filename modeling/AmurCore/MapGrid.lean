import Mathlib.Data.List.Nodup
import AmurCore.MapDrawing
import AmurCore.MapGeometry

/-!
# The grid of metres

Both loops of `drawGrid` run over the whole metres around the map and skip what
falls outside the image. The columns are counted from 0 and the rows from
`height() - 1`, so the test on the rows is off by one map pixel: it skips the
metres of the topmost row, and it may let one below the map pass.
-/

namespace MapGrid

open MapPainting MapWidget MapDrawing MapGeometry

variable {s : State} {image : QImage}

/-! ### The lines of a loop -/

def metres (lines : List GridLine) : List ℤ := lines.map GridLine.metre

theorem metres_filterMap {turn : ℤ → Option GridLine}
    (marks : ∀ i line, turn i = some line → line.metre = i) (is : List ℤ) :
    metres (is.filterMap turn) = is.filter fun i => (turn i).isSome := by
  induction is with
  | nil => rfl
  | cons i is ih =>
    cases drawn : turn i with
    | none =>
      rw [List.filterMap_cons_none drawn, List.filter_cons_of_neg (by simp [drawn])]
      exact ih
    | some line =>
      rw [List.filterMap_cons_some drawn, List.filter_cons_of_pos (by simp [drawn])]
      exact congrArg₂ List.cons (marks i line drawn) ih

theorem range_nodup (m n : ℤ) : (Int.range m n).Nodup := by
  have injective : Function.Injective fun k : ℕ => m + (k : ℤ) := by
    intro a b same
    have casts : m + (a : ℤ) = m + b := same
    omega
  exact List.Nodup.map injective List.nodup_range

/-- A loop draws each of its lines once, at the turns that do not skip. -/
theorem loop_lines {turn : ℤ → Option GridLine}
    (marks : ∀ i line, turn i = some line → line.metre = i) (m n : ℤ) :
    (metres ((Int.range m (n + 1)).filterMap turn)).Nodup ∧
    ∀ i, i ∈ metres ((Int.range m (n + 1)).filterMap turn) ↔
      (m ≤ i ∧ i ≤ n) ∧ (turn i).isSome = true := by
  rw [metres_filterMap marks]
  refine ⟨(range_nodup m (n + 1)).filter _, fun i => ?_⟩
  rw [List.mem_filter, Int.mem_range_iff, Int.lt_add_one_iff]

theorem verticalLine_metre (i : ℤ) (line : GridLine) (drawn : verticalLine s image i = some line) :
    line.metre = i := by
  obtain ⟨-, same⟩ := Option.ite_none_left_eq_some.mp drawn
  cases same
  rfl

theorem horizontalLine_metre (j : ℤ) (line : GridLine)
    (drawn : horizontalLine s image j = some line) : line.metre = j := by
  obtain ⟨-, same⟩ := Option.ite_none_left_eq_some.mp drawn
  cases same
  rfl

/-! ### The skip tests in metres -/

theorem verticalLine_isSome_iff (positive : 0 < s.mapResolution) (i : ℤ) :
    (verticalLine s image i).isSome = true ↔
      s.originX ≤ i ∧ i ≤ s.originX + image.width * s.mapResolution := by
  have inside : ¬ ((i - s.originX) / s.mapResolution < 0 ∨
        (i - s.originX) / s.mapResolution > image.width) ↔
      s.originX ≤ i ∧ i ≤ s.originX + image.width * s.mapResolution := by
    rw [not_or, not_lt, gt_iff_lt, not_lt, le_div_iff₀ positive, div_le_iff₀ positive, zero_mul,
      sub_nonneg, sub_le_iff_le_add']
  rw [← inside]
  exact Option.isSome_ite'

theorem horizontalLine_isSome_iff (positive : 0 < s.mapResolution) (j : ℤ) :
    (horizontalLine s image j).isSome = true ↔
      s.originY - s.mapResolution ≤ j ∧
        j ≤ s.originY + ((image.height : ℚ) - 1) * s.mapResolution := by
  have inside : ¬ (((image.height : ℚ) - 1) - (j - s.originY) / s.mapResolution < 0 ∨
        ((image.height : ℚ) - 1) - (j - s.originY) / s.mapResolution > image.height) ↔
      s.originY - s.mapResolution ≤ j ∧
        j ≤ s.originY + ((image.height : ℚ) - 1) * s.mapResolution := by
    have low : ((image.height : ℚ) - 1) - (j - s.originY) / s.mapResolution ≤ image.height ↔
        s.originY - s.mapResolution ≤ j := by
      rw [sub_le_iff_le_add, ← sub_le_iff_le_add', sub_sub_cancel_left, le_div_iff₀ positive]
      constructor <;> intro h <;> linarith
    rw [not_or, not_lt, gt_iff_lt, not_lt, sub_nonneg, div_le_iff₀ positive, low,
      sub_le_iff_le_add', and_comm]
  rw [← inside]
  exact Option.isSome_ite'

/-! ### The grid -/

/-- Each of the whole metres from `low` to `high` has a line, and only these have one. -/
def MarksMetres (lines : List GridLine) (low high : ℚ) : Prop :=
  (metres lines).Nodup ∧ ∀ i : ℤ, i ∈ metres lines ↔ low ≤ i ∧ i ≤ high

theorem verticals_marked (shown : s.mapImage = some image) (positive : 0 < s.mapResolution) :
    MarksMetres (drawGrid s).1 s.originX (s.originX + image.width * s.mapResolution) := by
  rw [drawGrid, shown]
  have lines := loop_lines (@verticalLine_metre s image) ⌊s.originX⌋
    ⌈s.originX + image.width * s.mapResolution⌉
  refine ⟨lines.1, fun i => (lines.2 i).trans ?_⟩
  rw [verticalLine_isSome_iff positive]
  refine and_iff_right_of_imp fun inside => ⟨?_, ?_⟩
  · exact_mod_cast (Int.floor_le s.originX).trans inside.1
  · exact_mod_cast inside.2.trans (Int.le_ceil _)

/-- The metres of the rows that are drawn. -/
theorem horizontals_marked (shown : s.mapImage = some image) (positive : 0 < s.mapResolution) :
    (metres (drawGrid s).2).Nodup ∧ ∀ j : ℤ, j ∈ metres (drawGrid s).2 ↔
      ⌊s.originY⌋ ≤ j ∧ s.originY - s.mapResolution ≤ j ∧
        j ≤ s.originY + ((image.height : ℚ) - 1) * s.mapResolution := by
  rw [drawGrid, shown]
  have lines := loop_lines (@horizontalLine_metre s image) ⌊s.originY⌋
    ⌈s.originY + image.height * s.mapResolution⌉
  refine ⟨lines.1, fun j => (lines.2 j).trans ?_⟩
  rw [horizontalLine_isSome_iff positive, and_assoc]
  refine and_congr_right fun _ => and_iff_right_of_imp fun inside => ?_
  have below : (j : ℚ) ≤ s.originY + image.height * s.mapResolution := by
    linarith [inside.2]
  exact_mod_cast below.trans (Int.le_ceil _)

/-- No whole metre lies in the topmost row of the map, and none that is not on
the map lies within a row below it. -/
def RowsAgree (originY height resolution : ℚ) : Prop :=
  ⌊originY + height * resolution⌋ = ⌊originY + (height - 1) * resolution⌋ ∧
    (Int.fract originY = 0 ∨ resolution < Int.fract originY)

/-- The skip test in pixels and the map itself select the same metres. -/
theorem rowsAgree_iff {originY height resolution : ℚ} (positive : 0 < resolution)
    (rows : 1 ≤ height) :
    (∀ j : ℤ, (⌊originY⌋ ≤ j ∧ originY - resolution ≤ j ∧
        j ≤ originY + (height - 1) * resolution) ↔
      originY ≤ j ∧ j ≤ originY + height * resolution) ↔
    RowsAgree originY height resolution := by
  have lower : originY + (height - 1) * resolution < originY + height * resolution := by
    linarith
  have start : originY ≤ originY + (height - 1) * resolution := by
    linarith [mul_nonneg (sub_nonneg.mpr rows) positive.le]
  have split := Int.floor_add_fract originY
  constructor
  · intro same
    constructor
    · apply le_antisymm
      · -- the last metre of the map is drawn, unless it lies below the map
        by_cases inside : originY ≤ ⌊originY + height * resolution⌋
        · exact Int.le_floor.mpr ((same _).mpr ⟨inside, Int.floor_le _⟩).2.2
        · have below : (⌊originY + height * resolution⌋ : ℚ) ≤ originY := by linarith
          exact Int.le_floor.mpr (below.trans start)
      · exact Int.floor_le_floor lower.le
    · by_contra outside
      rw [not_or, not_lt] at outside
      have positive_part := lt_of_le_of_ne (Int.fract_nonneg originY) (Ne.symm outside.1)
      -- the metre below the map is drawn
      have drawn := (same ⌊originY⌋).mp ⟨le_refl _, by linarith, by linarith⟩
      linarith [drawn.1]
  · rintro ⟨top, bottom⟩ j
    constructor
    · rintro ⟨first, low, high⟩
      refine ⟨?_, high.trans lower.le⟩
      have first' : (⌊originY⌋ : ℚ) ≤ j := by exact_mod_cast first
      rcases bottom with whole | large
      · linarith
      · have above : (⌊originY⌋ : ℚ) < j := by linarith
        have next : (⌊originY⌋ : ℚ) + 1 ≤ j := by exact_mod_cast above
        linarith [Int.fract_lt_one originY]
    · rintro ⟨low, high⟩
      have last : j ≤ ⌊originY + (height - 1) * resolution⌋ := by
        rw [← top]
        exact Int.le_floor.mpr high
      refine ⟨?_, by linarith, Int.le_floor.mp last⟩
      exact_mod_cast (Int.floor_le originY).trans low

/-- The whole metres of the map have their lines, each one, and no other has one. -/
def GridExact (s : State) (width height : ℤ) (resolution originX originY : ℚ) : Prop :=
  MarksMetres (drawGrid s).1 originX (originX + width * resolution) ∧
    MarksMetres (drawGrid s).2 originY (originY + height * resolution)

/-- The grid of a map is exact exactly when the row by which its lines are shifted
makes no difference to a whole metre. -/
theorem gridExact_iff {data : List Int8} {width height : ℤ} {resolution originX originY : ℚ}
    (accepted : accepts data width height = true) (positive : 0 < resolution)
    (shows : Shows s data width height resolution originX originY) :
    GridExact s width height resolution originX originY ↔
      RowsAgree originY height resolution := by
  obtain ⟨columns, rows, -⟩ := accepts_iff.mp accepted
  obtain ⟨shown, rfl, rfl, rfl⟩ := shows
  have imageWidth : ((paint data width.toNat height.toNat).width : ℚ) = width := by
    rw [paint_width]
    exact_mod_cast Int.toNat_of_nonneg columns.le
  have imageHeight : ((paint data width.toNat height.toNat).height : ℚ) = height := by
    rw [paint_height]
    exact_mod_cast Int.toNat_of_nonneg rows.le
  have vertical := verticals_marked shown positive
  have horizontal := horizontals_marked shown positive
  rw [imageWidth] at vertical
  rw [imageHeight] at horizontal
  rw [← rowsAgree_iff positive (by exact_mod_cast rows)]
  constructor
  · rintro ⟨-, -, marked⟩ j
    exact (horizontal.2 j).symm.trans (marked j)
  · intro same
    exact ⟨vertical, horizontal.1, fun j => (horizontal.2 j).trans (same j)⟩

/-- A map of one cell of half a metre. -/
def halfCell : State := setMapData [0] 1 1 (1 / 2) 0 0 (construct ⟨1, 1⟩ 0 0)

theorem halfCell_grid_exact : GridExact halfCell 1 1 (1 / 2) 0 0 := by
  have accepted : accepts [0] 1 1 = true := by decide
  have shows : Shows halfCell [0] 1 1 (1 / 2) 0 0 := setMapData_shows accepted _ _ _ _
  exact (gridExact_iff accepted (by norm_num) shows).mpr
    ⟨by decide +kernel, Or.inl (by decide +kernel)⟩

/-- The metre at the upper edge of a map of one metre has no line. -/
theorem oneCell_grid_incomplete : accepts [0] 1 1 = true ∧ Shows oneCell [0] 1 1 1 0 0 ∧
    metres (drawGrid oneCell).1 = [0, 1] ∧ metres (drawGrid oneCell).2 = [0] ∧
    ¬ GridExact oneCell 1 1 1 0 0 := by
  have drawn : metres (drawGrid oneCell).2 = [0] := by decide +kernel
  refine ⟨by decide, ⟨rfl, rfl, rfl, rfl⟩, by decide +kernel, drawn, ?_⟩
  rintro ⟨-, -, marked⟩
  have missing : (1 : ℤ) ∈ metres (drawGrid oneCell).2 := (marked 1).mpr ⟨by norm_num, by norm_num⟩
  rw [drawn] at missing
  revert missing
  decide

end MapGrid
