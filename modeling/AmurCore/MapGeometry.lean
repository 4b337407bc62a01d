import Mathlib.Algebra.Order.Floor.Ring
import Mathlib.Tactic.FieldSimp
import Mathlib.Tactic.Linarith
import AmurCore.MapWidget

/-!
# Clicks, cells and markers

What the coordinate formulas of the widget do to each other. A click goes to
the world with the pixel row counted from `height() - 1`, while a marker comes
back with the row counted from `height()`, and a cell covers the whole of its
pixel. Both are about views that runs of the widget reach.
-/

namespace MapGeometry

open EventRuns NavCommands MapPainting MapWidget
open MapClicks hiding mousePressEvent

variable {round : ℚ → ℤ} {toFloat : ℚ → ℚ} {s : State}

/-! ### What the events keep -/

/-- The widget shows the map: its image, its resolution and its origin. -/
structure Shows (s : State) (data : List Int8) (width height : ℤ)
    (resolution originX originY : ℚ) : Prop where
  image : s.mapImage = some (paint data width.toNat height.toNat)
  resolution : s.mapResolution = resolution
  originX : s.originX = originX
  originY : s.originY = originY

/-- The members that only `setMapData` changes. -/
def SameMap (s t : State) : Prop :=
  t.mapImage = s.mapImage ∧ t.mapResolution = s.mapResolution ∧
  t.originX = s.originX ∧ t.originY = s.originY

theorem SameMap.refl (s : State) : SameMap s s := ⟨rfl, rfl, rfl, rfl⟩

theorem Shows.of_sameMap {data : List Int8} {width height : ℤ}
    {resolution originX originY : ℚ} {t : State}
    (h : Shows s data width height resolution originX originY) (same : SameMap s t) :
    Shows t data width height resolution originX originY :=
  ⟨same.1.trans h.image, same.2.1.trans h.resolution, same.2.2.1.trans h.originX,
    same.2.2.2.trans h.originY⟩

/-- What an event other than a map does: it leaves the map and the scale, or it
sets a scale between the limits. -/
inductive Effect (s : State) : State → Prop
  | moved (size : ImageSize) (offset : QPoint) (panning : Bool) (lastMousePos : QPoint)
      (robotX robotY : ℚ) (robotOrientation : Option PoseQuaternion)
      (zones : List ZoneOverlay) (goals : List (QPointF ℚ)) :
      Effect s { s with
        size := size, offset := offset, panning := panning, lastMousePos := lastMousePos
        robotX := robotX, robotY := robotY, robotOrientation := robotOrientation
        zones := zones, goals := goals }
  | scaled (size : ImageSize) (v : ℚ) (offset : QPoint) :
      Effect s { s with
        size := size, scaleFactor := clamp v minScale maxScale, offset := offset }

theorem Effect.refl (s : State) : Effect s s := .moved _ _ _ _ _ _ _ _ _

theorem Effect.sameMap {s t : State} (h : Effect s t) : SameMap s t := by
  cases h with
  | moved => exact .refl s
  | scaled => exact .refl s

theorem resize_effect (size : ImageSize) (width height : ℤ) (s : State) :
    Effect s (updateScaleOnResize width height { s with size := size }) := by
  unfold updateScaleOnResize
  split
  · exact .moved size _ _ _ _ _ _ _ _
  · exact .scaled size _ _

theorem updateScaleOnResize_effect (width height : ℤ) (s : State) :
    Effect s (updateScaleOnResize width height s) :=
  resize_effect s.size width height s

theorem wheelEvent_effect (mousePos : QPointF ℚ) (angleDeltaY : ℤ) (s : State) :
    Effect s (wheelEvent round mousePos angleDeltaY s) := by
  unfold wheelEvent
  split
  · exact .refl s
  · dsimp only
    split
    · exact .refl s
    · exact .scaled s.size _ _

theorem mousePressEvent_effect (button : MouseButton) (pos : QPoint) (s : State) :
    Effect s (mousePressEvent button pos s) := by
  unfold mousePressEvent
  split
  · exact .refl s
  · by_cases left : button = .left
    · simp only [left, if_true]
      split <;> exact .moved _ _ _ _ _ _ _ _ _
    · simp only [left, if_false]
      split <;> exact .moved _ _ _ _ _ _ _ _ _

theorem step_effect (s : State) (e : Event)
    (other : ∀ data width height resolution originX originY,
      e ≠ .setMapData data width height resolution originX originY) :
    Effect s (step round toFloat s e) := by
  cases e with
  | setMapData data width height resolution originX originY => exact absurd rfl (other _ _ _ _ _ _)
  | setRobotPose posX posY quaternion => exact .moved _ _ _ _ _ _ _ _ _
  | setZones zones => exact .moved _ _ _ _ _ _ _ _ _
  | resize width height => exact resize_effect _ width height s
  | wheel mousePos angleDeltaY => exact wheelEvent_effect mousePos angleDeltaY s
  | mousePress button pos => exact mousePressEvent_effect button pos s
  | mouseMove pos =>
    rw [step, mouseMoveEvent]
    split <;> exact .moved _ _ _ _ _ _ _ _ _
  | mouseRelease button =>
    rw [step, mouseReleaseEvent]
    split <;> exact .moved _ _ _ _ _ _ _ _ _
  | centerOnRobot =>
    rw [step, centerOnRobot]
    split <;> exact .moved _ _ _ _ _ _ _ _ _
  | goals goals => exact .moved _ _ _ _ _ _ _ _ _

theorem setMapData_shows {data : List Int8} {width height : ℤ}
    (accepted : accepts data width height = true) (resolution originX originY : ℚ) (s : State) :
    Shows (setMapData data width height resolution originX originY s)
      data width height resolution originX originY := by
  have stored : Shows { s with
      mapResolution := resolution
      originX := originX
      originY := originY
      mapImage := some (paint data width.toNat height.toNat) }
      data width height resolution originX originY := ⟨rfl, rfl, rfl, rfl⟩
  unfold setMapData
  rw [if_pos accepted]
  dsimp only
  split
  · exact stored
  · exact stored.of_sameMap (updateScaleOnResize_effect _ _ _).sameMap

theorem setMapData_refused {data : List Int8} {width height : ℤ}
    (refused : accepts data width height = false) (resolution originX originY : ℚ) (s : State) :
    (setMapData data width height resolution originX originY s).mapImage = none := by
  simp [setMapData, refused]

/-- A reachable widget with an image shows a map that it accepted. -/
theorem reaches_shows {events : List Event} (reached : Reaches round toFloat events s)
    (shown : s.mapImage.isSome = true) :
    ∃ data width height resolution originX originY, accepts data width height = true ∧
      Shows s data width height resolution originX originY := by
  obtain ⟨size, originX, originY, rfl⟩ := reached
  induction events using List.reverseRecOn with
  | nil => cases shown
  | append_singleton events e ih =>
    rw [run_concat] at shown ⊢
    by_cases map : ∃ data width height resolution originX originY,
        e = .setMapData data width height resolution originX originY
    · obtain ⟨data, width, height, resolution, originX, originY, rfl⟩ := map
      cases accepted : accepts data width height with
      | true => exact ⟨data, width, height, _, _, _, accepted, setMapData_shows accepted _ _ _ _⟩
      | false =>
        rw [step, setMapData_refused accepted] at shown
        cases shown
    · generalize run (step round toFloat) (construct size originX originY) events = s at *
      have effect : Effect s (step round toFloat s e) :=
        step_effect s e fun _ _ _ _ _ _ h => map ⟨_, _, _, _, _, _, h⟩
      have same := effect.sameMap
      rw [same.1] at shown
      obtain ⟨data, width, height, resolution, originX, originY, accepted, before⟩ := ih shown
      exact ⟨data, width, height, resolution, originX, originY, accepted, before.of_sameMap same⟩

/-! ### The scale -/

def ScaleBounded (s : State) : Prop := minScale ≤ s.scaleFactor ∧ s.scaleFactor ≤ maxScale

theorem clamp_bounded (v : ℚ) :
    minScale ≤ clamp v minScale maxScale ∧ clamp v minScale maxScale ≤ maxScale := by
  unfold clamp
  split
  · exact ⟨le_refl _, by norm_num [minScale, maxScale]⟩
  · rename_i low
    split
    · exact ⟨by norm_num [minScale, maxScale], le_refl _⟩
    · rename_i high
      exact ⟨not_lt.mp low, not_lt.mp high⟩

theorem clamp_le {v lo hi : ℚ} (h : lo ≤ v) : clamp v lo hi ≤ v := by
  rw [clamp, if_neg (not_lt.mpr h)]
  split
  · rename_i high
    exact le_of_lt high
  · exact le_refl v

theorem clamp_of_mem {v lo hi : ℚ} (low : lo ≤ v) (high : v ≤ hi) : clamp v lo hi = v := by
  rw [clamp, if_neg (not_lt.mpr low), if_neg (not_lt.mpr high)]

theorem Effect.bounded {s t : State} (h : Effect s t) (before : ScaleBounded s) :
    ScaleBounded t := by
  cases h with
  | moved => exact before
  | scaled => exact clamp_bounded _

theorem setMapData_bounded (data : List Int8) (width height : ℤ) (resolution originX originY : ℚ)
    {s : State} (h : ScaleBounded s) :
    ScaleBounded (setMapData data width height resolution originX originY s) := by
  unfold setMapData
  split
  · dsimp only
    split
    · exact h
    · exact (updateScaleOnResize_effect _ _ _).bounded h
  · exact h

theorem step_bounded (s : State) (e : Event) (h : ScaleBounded s) :
    ScaleBounded (step round toFloat s e) := by
  by_cases map : ∃ data width height resolution originX originY,
      e = .setMapData data width height resolution originX originY
  · obtain ⟨data, width, height, resolution, originX, originY, rfl⟩ := map
    exact setMapData_bounded data width height resolution originX originY h
  · exact (step_effect s e fun _ _ _ _ _ _ hm => map ⟨_, _, _, _, _, _, hm⟩).bounded h

theorem reaches_bounded {events : List Event} (reached : Reaches round toFloat events s) :
    ScaleBounded s := by
  obtain ⟨size, originX, originY, rfl⟩ := reached
  exact run_invariant step_bounded ⟨by norm_num [minScale, construct],
    by norm_num [maxScale, construct]⟩ events

theorem reaches_scale_pos {events : List Event} (reached : Reaches round toFloat events s) :
    0 < s.scaleFactor :=
  lt_of_lt_of_le (by norm_num [minScale]) (reaches_bounded reached).1

/-! ### Markers -/

/-- A goal taken at a point is drawn a map pixel below it. -/
theorem drawWaypoint_widgetToWorld {v : MapView ℚ} (scale : v.scaleFactor ≠ 0)
    (resolution : v.mapResolution ≠ 0) (p : QPointF ℚ) :
    drawWaypoint v (widgetToWorld v p) = ⟨p.x, p.y + v.scaleFactor⟩ := by
  simp only [drawWaypoint, widgetToWorld, QPointF.mk.injEq]
  constructor
  · field_simp
    ring
  · push_cast
    field_simp
    ring

/-- The marker of the goal that a right click appends. -/
theorem drawWaypoints_click (shown : s.mapImage.isSome = true) (p : QPoint) :
    (drawWaypoints (mousePressEvent .right p s)).getLast?.map Marker.centre
      = some (drawWaypoint s.view (widgetToWorld s.view p.toPointF)) := by
  obtain ⟨image, himage⟩ := Option.isSome_iff_exists.mp shown
  have size : s.view.mapImage = some ⟨image.width, image.height⟩ := by
    simp [State.view, State.imageSize, himage]
  have appended : mousePressEvent .right p s
      = { s with goals := s.goals ++ [widgetToWorld s.view p.toPointF] } := by
    simp [mousePressEvent, himage, MapClicks.mousePressEvent, size]
  rw [appended]
  simp [drawWaypoints, List.zipIdx_append, State.view, State.imageSize]

/-- No goal is drawn where it was clicked. -/
theorem marker_off_click {events : List Event} (reached : Reaches round toFloat events s)
    (shown : s.mapImage.isSome = true) (positive : 0 < s.mapResolution) (p : QPoint) :
    (drawWaypoints (mousePressEvent .right p s)).getLast?.map Marker.centre
      ≠ some p.toPointF := by
  have scale : 0 < s.scaleFactor := reaches_scale_pos reached
  have centre := drawWaypoint_widgetToWorld (v := s.view) (ne_of_gt scale) (ne_of_gt positive)
    p.toPointF
  rw [drawWaypoints_click shown, centre]
  intro same
  have rows : (p.toPointF (α := ℚ)).y + s.scaleFactor = (p.toPointF (α := ℚ)).y :=
    congrArg QPointF.y (Option.some.inj same)
  linarith

/-- The conversion of `toPoint` in Qt 6, half up. -/
def roundHalfUp (q : ℚ) : ℤ := ⌊q + 1 / 2⌋

/-- A widget of one pixel that shows a map of one cell. -/
def oneCell : State :=
  run (step roundHalfUp id) (construct ⟨1, 1⟩ 0 0) [.setMapData [0] 1 1 1 0 0]

theorem oneCell_marker_off_click : Reaches roundHalfUp id [.setMapData [0] 1 1 1 0 0] oneCell ∧
    (drawWaypoints (mousePressEvent .right ⟨0, 0⟩ oneCell)).getLast?.map Marker.centre
      ≠ some (QPoint.toPointF ⟨0, 0⟩) := by
  have reached : Reaches roundHalfUp id [.setMapData [0] 1 1 1 0 0] oneCell :=
    ⟨⟨1, 1⟩, 0, 0, rfl⟩
  exact ⟨reached, marker_off_click reached (by decide) (by decide) ⟨0, 0⟩⟩

theorem oneCell_marker_below : Reaches roundHalfUp id [.setMapData [0] 1 1 1 0 0] oneCell ∧
    oneCell.mapImage.isSome = true ∧ 0 < oneCell.mapResolution ∧
    (drawWaypoints (mousePressEvent .right ⟨0, 0⟩ oneCell)).getLast?.map Marker.centre
      = some ⟨0, 1⟩ :=
  ⟨⟨⟨1, 1⟩, 0, 0, rfl⟩, by decide, by decide, by decide +kernel⟩

/-! ### Cells -/

/-- The occupancy cell of a point of the world. -/
def cellOf (s : State) (world : QPointF ℚ) : ℤ × ℤ :=
  (⌊(world.x - s.originX) / s.mapResolution⌋, ⌊(world.y - s.originY) / s.mapResolution⌋)

theorem Shows.imageHeight {data : List Int8} {width height : ℤ}
    {resolution originX originY : ℚ}
    (h : Shows s data width height resolution originX originY) (positive : 0 < height) :
    s.view.imageHeight = height := by
  simp [MapView.imageHeight, State.view, State.imageSize, h.image, positive.le]

theorem accepts_iff {data : List Int8} {width height : ℤ} :
    accepts data width height = true ↔
      0 < width ∧ 0 < height ∧ (data.length : ℤ) = width * height := by
  unfold accepts
  constructor
  · intro h
    simp at h
    omega
  · rintro ⟨hw, hh, size⟩
    have cells : 0 < width * height := mul_pos hw hh
    have nonempty : data ≠ [] := by
      rintro rfl
      simp at size
      omega
    simp [nonempty, size, hw, hh]

theorem floor_sub_intCast_eq_iff (k : ℤ) (y : ℚ) :
    ⌊(k : ℚ) - y⌋ = k - ⌊y⌋ ↔ ∃ n : ℤ, y = n := by
  constructor
  · intro h
    refine ⟨⌊y⌋, le_antisymm ?_ (Int.floor_le y)⟩
    have low : ((k - ⌊y⌋ : ℤ) : ℚ) ≤ k - y := h ▸ Int.floor_le _
    push_cast at low
    linarith
  · rintro ⟨n, rfl⟩
    rw [← Int.cast_sub, Int.floor_intCast, Int.floor_intCast]

/-- The cell of a click in terms of the pixel coordinates of the point. -/
theorem cellOf_widgetToWorld (scale : s.mapResolution ≠ 0) (p : QPointF ℚ) :
    cellOf s (widgetToWorld s.view p)
      = (⌊(widgetToMap s.view p).x⌋,
        ⌊((s.view.imageHeight - 1 : ℤ) : ℚ) - (widgetToMap s.view p).y⌋) := by
  have back (x origin : ℚ) : (x * s.mapResolution + origin - origin) / s.mapResolution = x := by
    rw [add_sub_cancel_right, mul_div_cancel_right₀ x scale]
  exact congrArg₂ (fun x y : ℚ => (⌊x⌋, ⌊y⌋)) (back _ _) (back _ _)

/-- The click at `p` addresses the cell that the pixel under it was painted with. -/
def AddressesDrawnCell (s : State) (data : List Int8) (width height : ℤ) (p : QPointF ℚ) :
    Prop :=
  let i := ⌊(widgetToMap s.view p).x⌋
  let j := ⌊(widgetToMap s.view p).y⌋
  cellOf s (widgetToWorld s.view p) = (i, height - 1 - j) ∧
  (s.mapImage.map fun image => image.pixelColor i.toNat j.toNat)
    = some (drawnColor (cellAt data width.toNat i.toNat (height - 1 - j).toNat))

/-- A click addresses the cell drawn under it exactly on the edge of its row. -/
theorem addressesDrawnCell_iff {data : List Int8} {width height : ℤ}
    {resolution originX originY : ℚ} (accepted : accepts data width height = true)
    (positive : 0 < resolution) (shows : Shows s data width height resolution originX originY)
    (p : QPointF ℚ)
    (column : 0 ≤ ⌊(widgetToMap s.view p).x⌋ ∧ ⌊(widgetToMap s.view p).x⌋ < width)
    (row : 0 ≤ ⌊(widgetToMap s.view p).y⌋ ∧ ⌊(widgetToMap s.view p).y⌋ < height) :
    AddressesDrawnCell s data width height p ↔ ∃ n : ℤ, (widgetToMap s.view p).y = n := by
  obtain ⟨hw, hh, -⟩ := accepts_iff.mp accepted
  have resolution_ne : s.mapResolution ≠ 0 := by
    rw [shows.resolution]
    exact ne_of_gt positive
  have painted : (s.mapImage.map fun image => image.pixelColor ⌊(widgetToMap s.view p).x⌋.toNat
        ⌊(widgetToMap s.view p).y⌋.toNat)
      = some (drawnColor (cellAt data width.toNat ⌊(widgetToMap s.view p).x⌋.toNat
        (height - 1 - ⌊(widgetToMap s.view p).y⌋).toNat)) := by
    have mirrored : (height - 1 - ⌊(widgetToMap s.view p).y⌋).toNat
        = height.toNat - 1 - ⌊(widgetToMap s.view p).y⌋.toNat := by omega
    rw [shows.image, Option.map_some, paint_pixelColor (by omega) (by omega), mirrored]
  rw [AddressesDrawnCell, cellOf_widgetToWorld resolution_ne, shows.imageHeight hh,
    Prod.mk.injEq, ← floor_sub_intCast_eq_iff (height - 1)]
  constructor
  · exact fun h => h.1.2
  · exact fun h => ⟨⟨rfl, h⟩, painted⟩

/-- A map of one cell, drawn twice as large. -/
def doubledCell : State := setMapData [0] 1 1 1 0 0 (construct ⟨2, 2⟩ 0 0)

theorem doubledCell_addressed_at_edge : AddressesDrawnCell doubledCell [0] 1 1 ⟨0, 0⟩ := by
  have shows : Shows doubledCell [0] 1 1 1 0 0 := setMapData_shows (by decide) 1 0 0 _
  exact (addressesDrawnCell_iff (by decide) one_pos shows ⟨0, 0⟩ (by decide +kernel)
    (by decide +kernel)).mpr ⟨0, by decide +kernel⟩

/-- The lower half of the pixel of the only cell addresses the cell below it. -/
theorem doubledCell_missed : Reaches roundHalfUp id [.setMapData [0] 1 1 1 0 0] doubledCell ∧
    accepts [0] 1 1 = true ∧ Shows doubledCell [0] 1 1 1 0 0 ∧
    (⌊(widgetToMap doubledCell.view ⟨0, 1⟩).x⌋, ⌊(widgetToMap doubledCell.view ⟨0, 1⟩).y⌋)
      = (0, 0) ∧
    cellOf doubledCell (widgetToWorld doubledCell.view ⟨0, 1⟩) = (0, -1) ∧
    ¬ AddressesDrawnCell doubledCell [0] 1 1 ⟨0, 1⟩ := by
  have cell : cellOf doubledCell (widgetToWorld doubledCell.view ⟨0, 1⟩) = (0, -1) := by
    decide +kernel
  have row : ⌊(widgetToMap doubledCell.view ⟨0, 1⟩).y⌋ = 0 := by decide +kernel
  refine ⟨⟨⟨2, 2⟩, 0, 0, rfl⟩, by decide, setMapData_shows (by decide) 1 0 0 _,
    by decide +kernel, cell, ?_⟩
  rintro ⟨addressed, -⟩
  rw [cell, row] at addressed
  exact absurd (congrArg Prod.snd addressed) (by decide)

end MapGeometry
