import AmurCore.MapConversions
import AmurCore.MapGeometry
import AmurCore.RoundedScaling

/-!
# Zooming and dragging

What the gestures do to the point of the map under the cursor. A wheel event
scales the distance from the cursor to the offset and rounds the result, so the
point stays within half a pixel, and events at one place add up to scaling with
rounding. A drag moves the offset with the cursor.
-/

namespace MapGestures

open EventRuns NavCommands MapPainting MapWidget MapConversions MapGeometry RoundedScaling
open MapClicks hiding mousePressEvent

variable {round : ℚ → ℤ} {toFloat : ℚ → ℚ} {s : State}

/-! ### The wheel -/

/-- The two points are at most `d` apart on each axis. -/
def Within (d : ℚ) (p q : QPointF ℚ) : Prop := |p.x - q.x| ≤ d ∧ |p.y - q.y| ≤ d

/-- The scale after a turn of the wheel, before it is brought between the limits. -/
def turnedScale (numDegreesY : ℤ) (scaleFactor : ℚ) : ℚ :=
  if numDegreesY > 0 then scaleFactor * (23 / 20) else scaleFactor / (23 / 20)

theorem wheelEvent_eq {image : QImage} (shown : s.mapImage = some image) {angleDeltaY : ℤ}
    (turned : round ((angleDeltaY : ℚ) / 8) ≠ 0) (c : QPointF ℚ) :
    wheelEvent round c angleDeltaY s =
      let p := widgetToMap s.view c
      let turnedTo := turnedScale (round ((angleDeltaY : ℚ) / 8)) s.scaleFactor
      let scale := clamp turnedTo minScale maxScale
      { s with
        scaleFactor := scale
        offset := ⟨s.offset.x + round (c.x - (p.x * scale + s.offset.x)),
          s.offset.y + round (c.y - (p.y * scale + s.offset.y))⟩ } := by
  simp only [wheelEvent, shown, if_neg turned]
  rfl

theorem wheelEvent_still {angleDeltaY : ℤ} (still : round ((angleDeltaY : ℚ) / 8) = 0)
    (c : QPointF ℚ) : wheelEvent round c angleDeltaY s = s := by
  unfold wheelEvent
  split
  · rfl
  · exact if_pos still

/-- The offset is moved to where it should be, up to the rounding. -/
theorem rounded_offset_close (nearest : Nearest round) (scaled c : ℚ) (offset : ℤ) :
    |scaled + ((offset + round (c - (scaled + offset)) : ℤ) : ℚ) - c| ≤ 1 / 2 := by
  have close := nearest (c - (scaled + offset))
  have error : scaled + ((offset + round (c - (scaled + offset)) : ℤ) : ℚ) - c
      = round (c - (scaled + offset)) - (c - (scaled + offset)) := by
    push_cast
    ring
  rw [error]
  exact close

/-- A wheel event keeps the point under the cursor there, also at the limits of the scale. -/
theorem wheelEvent_keeps (nearest : Nearest round) (shown : s.mapImage.isSome = true)
    (scale : s.scaleFactor ≠ 0) (c : QPointF ℚ) (angleDeltaY : ℤ) :
    Within (1 / 2)
      (mapToWidget (wheelEvent round c angleDeltaY s).view (widgetToMap s.view c)) c := by
  obtain ⟨image, himage⟩ := Option.isSome_iff_exists.mp shown
  by_cases still : round ((angleDeltaY : ℚ) / 8) = 0
  · have same : mapToWidget s.view (widgetToMap s.view c) = c := mapToWidget_widgetToMap scale c
    rw [wheelEvent_still still, same]
    constructor <;> norm_num
  · rw [wheelEvent_eq himage still]
    exact ⟨rounded_offset_close nearest _ _ _, rounded_offset_close nearest _ _ _⟩

/-! ### Dragging -/

/-- The event puts the drag at `a`: a left press on the map, or a move while dragging. -/
def GripsAt (s : State) (a : QPoint) : Event → Prop
  | .mousePress button pos => button = .left ∧ s.mapImage.isSome = true ∧ pos = a
  | .mouseMove pos => s.panning = true ∧ pos = a
  | _ => False

/-- The event may put the drag somewhere. -/
def Regrips : Event → Prop
  | .mousePress button _ => button = .left
  | .mouseMove _ => True
  | _ => False

theorem step_grips {e : Event} {a : QPoint} (grips : GripsAt s a e) :
    (step round toFloat s e).lastMousePos = a := by
  cases e with
  | mousePress button pos =>
    obtain ⟨rfl, shown, rfl⟩ := grips
    obtain ⟨image, himage⟩ := Option.isSome_iff_exists.mp shown
    rw [step, MapWidget.mousePressEvent, himage]
    dsimp only
    split <;> rfl
  | mouseMove pos =>
    obtain ⟨panning, rfl⟩ := grips
    rw [step, mouseMoveEvent, if_pos panning]
  | _ => exact False.elim grips

theorem updateScaleOnResize_lastMousePos (width height : ℤ) (s : State) :
    (updateScaleOnResize width height s).lastMousePos = s.lastMousePos := by
  unfold updateScaleOnResize
  split <;> rfl

theorem step_lastMousePos {e : Event} (other : ¬ Regrips e) :
    (step round toFloat s e).lastMousePos = s.lastMousePos := by
  cases e with
  | setMapData data width height resolution originX originY =>
    rw [step, setMapData]
    split
    · dsimp only
      split
      · rfl
      · exact updateScaleOnResize_lastMousePos _ _ _
    · rfl
  | resize width height => exact updateScaleOnResize_lastMousePos width height _
  | wheel mousePos angleDeltaY =>
    rw [step, wheelEvent]
    split
    · rfl
    · dsimp only
      split <;> rfl
  | mousePress button pos =>
    have notLeft : button ≠ .left := other
    rw [step, MapWidget.mousePressEvent]
    split
    · rfl
    · rw [if_neg notLeft]
      dsimp only
      split <;> rfl
  | mouseMove pos => exact absurd trivial other
  | mouseRelease button =>
    rw [step, mouseReleaseEvent]
    split <;> rfl
  | centerOnRobot =>
    rw [step, centerOnRobot]
    split <;> rfl
  | setRobotPose posX posY quaternion => rfl
  | setZones zones => rfl
  | goals goals => rfl

theorem run_lastMousePos {between : List Event} (others : ∀ e ∈ between, ¬ Regrips e) :
    (run (step round toFloat) s between).lastMousePos = s.lastMousePos := by
  induction between generalizing s with
  | nil => rfl
  | cons e between ih =>
    have rest : (run (step round toFloat) (step round toFloat s e) between).lastMousePos
        = (step round toFloat s e).lastMousePos :=
      ih fun e mem => others e (List.mem_cons_of_mem _ mem)
    rw [run_cons, rest]
    exact step_lastMousePos (others e List.mem_cons_self)

/-- A move while dragging takes the map along. -/
theorem mouseMoveEvent_keeps (panning : s.panning = true) (scale : s.scaleFactor ≠ 0)
    (b : QPoint) :
    mapToWidget (mouseMoveEvent b s).view (widgetToMap s.view s.lastMousePos.toPointF)
      = b.toPointF := by
  have along (a b offset : ℤ) : ((a : ℚ) - offset) / s.scaleFactor * s.scaleFactor
      + ((offset + (b - a) : ℤ) : ℚ) = b := by
    rw [div_mul_cancel₀ _ scale]
    push_cast
    ring
  rw [mouseMoveEvent, if_pos panning]
  exact congrArg₂ QPointF.mk (along _ b.x _) (along _ b.y _)

/-- In every state that a widget reaches the scale is within its limits, a wheel
event keeps the map point under the cursor within half a pixel, and a drag from
`a` to `b` takes the point under `a` to `b`, whatever else came in between. -/
theorem gestures_keep_point (nearest : Nearest round) {events : List Event}
    (reached : Reaches round toFloat events s) :
    (1 / 10 ≤ s.scaleFactor ∧ s.scaleFactor ≤ 10) ∧
    (s.mapImage.isSome = true → ∀ (c : QPointF ℚ) (angleDeltaY : ℤ),
      Within (1 / 2)
        (mapToWidget (wheelEvent round c angleDeltaY s).view (widgetToMap s.view c)) c) ∧
    ∀ (grip : Event) (between : List Event) (a b : QPoint), GripsAt s a grip →
      (∀ e ∈ between, ¬ Regrips e) →
      let t := run (step round toFloat) s (grip :: between)
      t.panning = true →
      mapToWidget (mouseMoveEvent b t).view (widgetToMap t.view a.toPointF) = b.toPointF := by
  refine ⟨reaches_bounded reached, ?_, ?_⟩
  · intro shown c angleDeltaY
    exact wheelEvent_keeps nearest shown (ne_of_gt (reaches_scale_pos reached)) c angleDeltaY
  · intro grip between a b grips others t panning
    obtain ⟨size, originX, originY, rfl⟩ := reached
    have later : Reaches round toFloat (events ++ grip :: between) t :=
      ⟨size, originX, originY, (run_append _ _ _ _).symm⟩
    have gripped : t.lastMousePos = a := (run_lastMousePos others).trans (step_grips grips)
    have kept := mouseMoveEvent_keeps panning (ne_of_gt (reaches_scale_pos later)) b
    rw [gripped] at kept
    exact kept

theorem oneCell_gestures : Reaches roundHalfUp id [.setMapData [0] 1 1 1 0 0] oneCell ∧
    Within (1 / 2) (mapToWidget (wheelEvent roundHalfUp ⟨3, 4⟩ 120 oneCell).view
      (widgetToMap oneCell.view ⟨3, 4⟩)) ⟨3, 4⟩ ∧
    mapToWidget (mouseMoveEvent ⟨2, 1⟩ (mousePressEvent .left ⟨0, 0⟩ oneCell)).view
      (widgetToMap (mousePressEvent .left ⟨0, 0⟩ oneCell).view (QPoint.toPointF ⟨0, 0⟩))
        = QPoint.toPointF ⟨2, 1⟩ := by
  have nearest : Nearest roundHalfUp := nearest_half_up
  have reached : Reaches roundHalfUp id [.setMapData [0] 1 1 1 0 0] oneCell :=
    ⟨⟨1, 1⟩, 0, 0, rfl⟩
  obtain ⟨-, wheel, drag⟩ := gestures_keep_point nearest reached
  refine ⟨reached, wheel (by decide) ⟨3, 4⟩ 120, ?_⟩
  exact drag (.mousePress .left ⟨0, 0⟩) [] ⟨0, 0⟩ ⟨2, 1⟩ ⟨rfl, by decide, rfl⟩
    (fun e mem => nomatch mem) rfl

/-! ### In and out again -/

/-- A wheel event at `c` that has scaled by `f`: the distance from the offset to
the cursor follows, off by half a pixel at most. -/
structure Zoomed (f : ℚ) (c : QPointF ℚ) (s t : State) : Prop where
  image : t.mapImage = s.mapImage
  scale : t.scaleFactor = f * s.scaleFactor
  x : |(c.x - t.offset.x) - f * (c.x - s.offset.x)| ≤ 1 / 2
  y : |(c.y - t.offset.y) - f * (c.y - s.offset.y)| ≤ 1 / 2

/-- The scale is within its limits. -/
def InRange (v : ℚ) : Prop := minScale ≤ v ∧ v ≤ maxScale

theorem wheelEvent_zoomed (nearest : Nearest round) {image : QImage}
    (shown : s.mapImage = some image) {f : ℚ} {angleDeltaY : ℤ}
    (turned : round ((angleDeltaY : ℚ) / 8) ≠ 0)
    (factor : turnedScale (round ((angleDeltaY : ℚ) / 8)) s.scaleFactor = f * s.scaleFactor)
    (before : InRange s.scaleFactor) (after : InRange (f * s.scaleFactor)) (c : QPointF ℚ) :
    Zoomed f c s (wheelEvent round c angleDeltaY s) := by
  have scale : s.scaleFactor ≠ 0 := by
    have positive : (0 : ℚ) < minScale := by norm_num [minScale]
    exact ne_of_gt (lt_of_lt_of_le positive before.1)
  have unclamped : clamp (f * s.scaleFactor) minScale maxScale = f * s.scaleFactor :=
    clamp_of_mem after.1 after.2
  -- the point under the cursor, scaled anew, is at the scaled distance
  have axis (c : ℚ) (offset : ℤ) (scaled : ℚ)
      (at_scaled : scaled = (c - offset) / s.scaleFactor * (f * s.scaleFactor)) :
      |(c - ((offset + round (c - (scaled + offset)) : ℤ) : ℚ)) - f * (c - offset)| ≤ 1 / 2 := by
    have close := rounded_offset_close nearest scaled c offset
    have distance : scaled = f * (c - offset) := by
      rw [at_scaled, mul_comm f, ← mul_assoc, div_mul_cancel₀ _ scale, mul_comm]
    rw [abs_sub_comm, ← distance, sub_sub_eq_add_sub]
    exact close
  rw [wheelEvent_eq shown turned, factor]
  dsimp only
  rw [unclamped]
  exact ⟨rfl, rfl, axis _ _ _ rfl, axis _ _ _ rfl⟩

/-- A scale between two that are within the limits, on the way from one to the other. -/
theorem inRange_between {f v : ℚ} (positive : 0 < f) {n : Nat} (first : InRange v)
    (last : InRange (f ^ (n + 1) * v)) : InRange (f * v) := by
  have nonneg : 0 ≤ v := le_trans (by norm_num [minScale]) first.1
  rcases le_total 1 f with grows | shrinks
  · have low : v ≤ f * v := le_mul_of_one_le_left nonneg grows
    have high : f * v ≤ f ^ (n + 1) * v :=
      mul_le_mul_of_nonneg_right (le_self_pow₀ grows (Nat.succ_ne_zero n)) nonneg
    exact ⟨first.1.trans low, high.trans last.2⟩
  · have high : f * v ≤ v := mul_le_of_le_one_left nonneg shrinks
    have low : f ^ (n + 1) * v ≤ f * v :=
      mul_le_mul_of_nonneg_right (pow_le_of_le_one positive.le shrinks (Nat.succ_ne_zero n)) nonneg
    exact ⟨last.1.trans low, high.trans first.2⟩

/-- The turn of the wheel scales by `f`. -/
def TurnsBy (round : ℚ → ℤ) (f : ℚ) (angleDeltaY : ℤ) : Prop :=
  round ((angleDeltaY : ℚ) / 8) ≠ 0 ∧
    ∀ scaleFactor, turnedScale (round ((angleDeltaY : ℚ) / 8)) scaleFactor = f * scaleFactor

/-- Wheel events at one place, each of which scales by `f`, between two scales
within the limits. -/
theorem run_zoomed (nearest : Nearest round) {f : ℚ} (positive : 0 < f) {c : QPointF ℚ}
    {image : QImage} {deltas : List ℤ} (turns : ∀ delta ∈ deltas, TurnsBy round f delta)
    (shown : s.mapImage = some image) (first : InRange s.scaleFactor)
    (last : InRange (f ^ deltas.length * s.scaleFactor)) :
    let t := run (step round toFloat) s (deltas.map (.wheel c))
    t.mapImage = some image ∧ t.scaleFactor = f ^ deltas.length * s.scaleFactor ∧
      Drifts f (1 / 2) deltas.length (c.x - s.offset.x) (c.x - t.offset.x) ∧
      Drifts f (1 / 2) deltas.length (c.y - s.offset.y) (c.y - t.offset.y) := by
  induction deltas generalizing s with
  | nil =>
    have unscaled : s.scaleFactor = f ^ ([] : List ℤ).length * s.scaleFactor := by
      rw [List.length_nil, pow_zero, one_mul]
    exact ⟨shown, unscaled, Drifts.refl _ _ _, Drifts.refl _ _ _⟩
  | cons delta deltas ih =>
    have second : InRange (f * s.scaleFactor) := inRange_between positive first last
    obtain ⟨turned, factor⟩ := turns delta List.mem_cons_self
    have zoomed := wheelEvent_zoomed nearest shown turned (factor s.scaleFactor) first second c
    have rest := ih (fun delta mem => turns delta (List.mem_cons_of_mem _ mem))
      (zoomed.image.trans shown)
      (by rw [zoomed.scale]; exact second)
      (by rw [zoomed.scale, ← mul_assoc, ← pow_succ]; exact last)
    obtain ⟨image, scale, x, y⟩ := rest
    refine ⟨image, ?_, x.cons positive.le zoomed.x, y.cons positive.le zoomed.y⟩
    rw [List.length_cons, pow_succ, mul_assoc, ← zoomed.scale]
    exact scale

/-- The drift of an integer offset over `k` events in and `k` events out. -/
theorem offset_returns {c : ℚ} {a b : ℤ} {k : Nat}
    (drift : |(c - b) - (c - a)|
      ≤ 1 / 2 * (1 + (23 / 20 : ℚ)⁻¹) * ∑ i ∈ Finset.range k, (23 / 20 : ℚ)⁻¹ ^ i) :
    |b - a| ≤ 7 ∧ (k = 1 → b = a) := by
  have cancelled : (c - b) - (c - a) = -((b - a : ℤ) : ℚ) := by
    push_cast
    ring
  rw [cancelled, abs_neg, ← Int.cast_abs] at drift
  constructor
  · have limit := geom_sum_lt (g := (23 / 20 : ℚ)⁻¹) (by norm_num) (by norm_num) k
    have small : ((|b - a| : ℤ) : ℚ) < (8 : ℤ) := by
      norm_num at drift limit ⊢
      linarith
    have below : |b - a| < 8 := Int.cast_lt.mp small
    omega
  · rintro rfl
    have small : ((|b - a| : ℤ) : ℚ) < (1 : ℤ) := by
      norm_num at drift ⊢
      linarith
    have below : |b - a| < 1 := Int.cast_lt.mp small
    have zero := Int.abs_lt_one_iff.mp below
    omega

theorem turnsBy_forward {angleDeltaY : ℤ} (forward : 0 < round ((angleDeltaY : ℚ) / 8)) :
    TurnsBy round (23 / 20) angleDeltaY := by
  refine ⟨ne_of_gt forward, fun scaleFactor => ?_⟩
  rw [turnedScale, if_pos forward, mul_comm]

theorem turnsBy_backward {angleDeltaY : ℤ} (backward : round ((angleDeltaY : ℚ) / 8) < 0) :
    TurnsBy round (23 / 20)⁻¹ angleDeltaY := by
  refine ⟨ne_of_lt backward, fun scaleFactor => ?_⟩
  rw [turnedScale, if_neg (not_lt.mpr backward.le), div_eq_inv_mul]

/-- As many wheel events out as in, at one place and without reaching the largest
scale, restore the scale and move the map by at most 7 pixels; one event in and
one out do not move it. -/
theorem zoom_returns (nearest : Nearest round) (shown : s.mapImage.isSome = true)
    (low : 1 / 10 ≤ s.scaleFactor) (c : QPointF ℚ) {zoomIn zoomOut : List ℤ}
    (forward : ∀ delta ∈ zoomIn, 0 < round ((delta : ℚ) / 8))
    (backward : ∀ delta ∈ zoomOut, round ((delta : ℚ) / 8) < 0)
    (same : zoomOut.length = zoomIn.length)
    (high : s.scaleFactor * (23 / 20) ^ zoomIn.length ≤ 10) :
    let t := run (step round toFloat) s ((zoomIn ++ zoomOut).map (.wheel c))
    t.scaleFactor = s.scaleFactor ∧
      (|t.offset.x - s.offset.x| ≤ 7 ∧ |t.offset.y - s.offset.y| ≤ 7) ∧
      (zoomIn.length = 1 → t.offset = s.offset) := by
  obtain ⟨image, himage⟩ := Option.isSome_iff_exists.mp shown
  have nonneg : 0 ≤ s.scaleFactor := le_trans (by norm_num) low
  have grown : s.scaleFactor ≤ (23 / 20) ^ zoomIn.length * s.scaleFactor :=
    le_mul_of_one_le_left nonneg (one_le_pow₀ (by norm_num))
  have largest : (23 / 20) ^ zoomIn.length * s.scaleFactor ≤ 10 := by
    rw [mul_comm]
    exact high
  have first : InRange s.scaleFactor := ⟨low, grown.trans largest⟩
  have middle : InRange ((23 / 20) ^ zoomIn.length * s.scaleFactor) := ⟨low.trans grown, largest⟩
  -- in: the scale grows to the one in the middle
  have turnsIn : ∀ delta ∈ zoomIn, TurnsBy round (23 / 20) delta :=
    fun delta mem => turnsBy_forward (forward delta mem)
  obtain ⟨imageIn, scaleIn, xIn, yIn⟩ := @run_zoomed round toFloat s nearest _ (by norm_num) c
    image zoomIn turnsIn himage first middle
  rw [← scaleIn] at middle
  -- out: it shrinks back to the first one
  have restored : (23 / 20 : ℚ)⁻¹ ^ zoomOut.length
      * (run (step round toFloat) s (zoomIn.map (.wheel c))).scaleFactor = s.scaleFactor := by
    rw [scaleIn, same, ← mul_assoc, inv_pow_mul_pow (by norm_num), one_mul]
  have turnsOut : ∀ delta ∈ zoomOut, TurnsBy round (23 / 20)⁻¹ delta :=
    fun delta mem => turnsBy_backward (backward delta mem)
  have last : InRange ((23 / 20 : ℚ)⁻¹ ^ zoomOut.length
      * (run (step round toFloat) s (zoomIn.map (.wheel c))).scaleFactor) := by
    rw [restored]
    exact first
  obtain ⟨-, scaleOut, xOut, yOut⟩ := @run_zoomed round toFloat _ nearest _ (by norm_num) c
    image zoomOut turnsOut imageIn middle last
  rw [restored] at scaleOut
  rw [same] at xOut yOut
  rw [List.map_append, run_append]
  have x := offset_returns (xIn.there_and_back (by norm_num) xOut)
  have y := offset_returns (yIn.there_and_back (by norm_num) yOut)
  refine ⟨scaleOut, ⟨x.1, y.1⟩, fun once => ?_⟩
  exact congrArg₂ QPoint.mk (x.2 once) (y.2 once)

/-- Two events in and two out. -/
theorem oneCell_zoom :
    let t := run (step roundHalfUp id) oneCell
      (([120, 120] ++ [-120, -120] : List ℤ).map (Event.wheel ⟨3, 4⟩))
    oneCell.mapImage.isSome = true ∧ t.scaleFactor = oneCell.scaleFactor ∧
      |t.offset.x - oneCell.offset.x| ≤ 7 ∧ |t.offset.y - oneCell.offset.y| ≤ 7 := by
  have nearest : Nearest roundHalfUp := nearest_half_up
  have shown : oneCell.mapImage.isSome = true := by decide
  obtain ⟨scale, offset, -⟩ := @zoom_returns roundHalfUp id oneCell nearest shown
    (by decide +kernel) ⟨3, 4⟩ [120, 120] [-120, -120] (by decide +kernel) (by decide +kernel)
    rfl (by decide +kernel)
  exact ⟨shown, scale, offset⟩

end MapGestures
