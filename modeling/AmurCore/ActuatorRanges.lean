import AmurCore.JoystickLoss

/-!
# The ranges of the actuators

`drives.proto` gives the ranges of the powers and angles that `Controls` may
carry. Every axis of the joystick is divided by the same number, which fits the
powers; the angles of the camera have a smaller range.
-/

namespace ActuatorRanges

open EventRuns JoystickInput RobotMessages ManualControl JoystickLoss

variable {α : Type}

/-- The comments of `drives.proto`. -/
structure InRange (c : Controls α) : Prop where
  leftPower : |(c.handMotors.getD .empty).leftPower| ≤ 255
  rightPower : |(c.handMotors.getD .empty).rightPower| ≤ 255
  xAngle : |(c.cameraServos.getD .empty).xAngle| ≤ 90
  yAngle : |(c.cameraServos.getD .empty).yAngle| ≤ 90

/-- The device reports axes as 16 bits. -/
def Reported : Event → Prop
  | .axis _ state => -32768 ≤ state ∧ state ≤ 32767
  | .accept _ | .construct | .hat _ _ | .button _ _ | .disconnect | .update => True

/-- The axes that drive the base; one of them is turned around. -/
structure AxesInRange (s : JoyState) : Prop where
  xAxis : |s.joystickXaxis| ≤ 32768
  yAxis : |s.joystickYaxis| ≤ 32768

/-- The camera axes that an update turns into angles. -/
def CameraAxesSmall (s : JoyState) : Prop :=
  |s.joystickZLTaxis| < 91 * divider ∧ |s.joystickXrotation| < 91 * divider

/-! ### Division -/

theorem tdiv_divider_le_iff (axis : Int) (bound : Nat) :
    |axis.tdiv divider| ≤ bound ↔ |axis| < (bound + 1) * divider := by
  have magnitude : (axis.tdiv divider).natAbs = axis.natAbs / 129 := Int.natAbs_tdiv axis divider
  rw [Int.abs_eq_natAbs, Int.abs_eq_natAbs, magnitude]
  simp only [divider]
  omega

theorem wheel_in_range {axis : Int} (reported : |axis| ≤ 32768) : |axis.tdiv divider| ≤ 255 := by
  apply (tdiv_divider_le_iff axis 255).mpr
  simp only [divider]
  omega

/-! ### What an update commands -/

theorem update_camera {joyState : JoyState} {m m' : Control} {c c' : Controls α}
    (connected : ¬joyState.joyId < 0) (h : update joyState m c = some (m', c')) :
    (c'.cameraServos.getD .empty).xAngle = cameraXAxis joyState ∧
      (c'.cameraServos.getD .empty).yAngle = cameraYAxis joyState := by
  obtain ⟨-, checked, rfl⟩ := update_commands connected h
  exact ⟨rfl, rfl⟩

/-- With the base axes in range, an update with a joystick keeps the ranges
exactly when the camera axes are small enough. -/
theorem update_in_range_iff {joyState : JoyState} {m m' : Control} {c c' : Controls α}
    (axes : AxesInRange joyState) (connected : ¬joyState.joyId < 0)
    (h : update joyState m c = some (m', c')) : InRange c' ↔ CameraAxesSmall joyState := by
  obtain ⟨-, commands⟩ := update_connected connected h
  obtain ⟨xAngle, yAngle⟩ := update_camera connected h
  have x : |(c'.cameraServos.getD .empty).xAngle| ≤ 90 ↔
      |joyState.joystickZLTaxis| < 91 * divider := by
    rw [xAngle]
    exact tdiv_divider_le_iff joyState.joystickZLTaxis 90
  have y : |(c'.cameraServos.getD .empty).yAngle| ≤ 90 ↔
      |joyState.joystickXrotation| < 91 * divider := by
    rw [yAngle]
    exact tdiv_divider_le_iff joyState.joystickXrotation 90
  constructor
  · intro ranges
    exact ⟨x.mp ranges.xAngle, y.mp ranges.yAngle⟩
  · rintro ⟨small_x, small_y⟩
    refine ⟨?_, ?_, x.mpr small_x, y.mpr small_y⟩
    · rw [commands.left]
      exact wheel_in_range axes.xAxis
    · rw [commands.right]
      exact wheel_in_range axes.yAxis

/-! ### Runs -/

theorem step_axes {s t : State α} {e : Event} (h : step s e = some t) (reported : Reported e)
    (before : AxesInRange s.joyState) : AxesInRange t.joyState := by
  cases e with
  | axis id state =>
    cases h
    obtain ⟨low, high⟩ := reported
    obtain ⟨x, y⟩ := before
    have plain : |state| ≤ 32768 := abs_le.mpr ⟨low, by omega⟩
    -- the lower end of the range is turned into one more than the upper end
    have turned : |-1 * state| ≤ 32768 := abs_le.mpr ⟨by omega, by omega⟩
    simp only [axisSetup]
    split
    · exact ⟨plain, y⟩
    · exact ⟨x, turned⟩
    all_goals exact ⟨x, y⟩
  | button id state =>
    simp only [step, buttonSetup] at h
    split at h
    · cases h
    · rename_i written
      split at written
      · cases written
      · split at written
        · cases written
          cases h
          exact ⟨before.xAxis, before.yAxis⟩
        · cases written
  | update =>
    obtain ⟨manual, controls, -, rfl⟩ := step_update h
    exact before
  | _ =>
    cases h
    exact ⟨before.xAxis, before.yAxis⟩

theorem reaches_axes {events : List Event} {s : State α} (reported : ∀ e ∈ events, Reported e)
    (reached : Reaches events s) : AxesInRange s.joyState := by
  have kept : ∀ before e (u t : State α), Reaches before u → Reported e → step u e = some t →
      AxesInRange u.joyState → AxesInRange t.joyState :=
    fun _ _ _ _ _ reported h before => step_axes h reported before
  have initial : AxesInRange .initial := ⟨by decide, by decide⟩
  exact run_lift_invariant_along kept initial (along_of_forall_mem reported) reached

/-- After the update that ends the run, every command is in its range. -/
def CommandsInRange (α : Type) (before : List Event) (e : Event) : Prop :=
  ∀ s t : State α, Reaches before s → e = .update → step s e = some t → InRange t.controls

theorem reaches_in_range {events : List Event} {s : State α}
    (held : Along (CommandsInRange α) events) (reached : Reaches events s) :
    InRange s.controls := by
  have kept : ∀ before e (u t : State α), Reaches before u → CommandsInRange α before e →
      step u e = some t → InRange u.controls → InRange t.controls := by
    intro before e u t reached held h ranges
    by_cases isUpdate : e = .update
    · exact held u t reached isUpdate h
    · rw [(step_frame h isUpdate).2]
      exact ranges
  have initial : InRange (.empty : Controls α) := by
    constructor <;> simp [Controls.empty, HandMotors.empty, CameraServos.empty]
  exact run_lift_invariant_along kept initial held reached

/-- Every update keeps the ranges exactly when every update with a joystick
finds both camera axes below ninety-one steps. -/
theorem commands_in_range_iff {events : List Event} (reported : ∀ e ∈ events, Reported e) :
    Along (CommandsInRange α) events ↔
      Along
        (fun before e => ∀ s : State α, Reaches before s → e = .update → (step s e).isSome →
          ¬s.joyState.joyId < 0 → CameraAxesSmall s.joyState) events := by
  apply along_iff_along_within
  intro before e after split held
  have earlier : ∀ e ∈ before, Reported e := fun f mem => reported f (by simp [split, mem])
  constructor
  · rintro ranges s reached rfl defined connected
    obtain ⟨t, h⟩ := Option.isSome_iff_exists.mp defined
    have inRange := ranges s t reached rfl h
    obtain ⟨manual, controls, updated, rfl⟩ := step_update h
    exact (update_in_range_iff (reaches_axes earlier reached) connected updated).mp inRange
  · rintro small s t reached rfl h
    have defined : (step s .update).isSome := by simp [h]
    by_cases lost : s.joyState.joyId < 0
    · simp only [step, update_disconnected lost] at h
      cases h
      exact reaches_in_range held reached
    · have axes := small s reached rfl defined lost
      obtain ⟨manual, controls, updated, rfl⟩ := step_update h
      exact (update_in_range_iff (reaches_axes earlier reached) lost updated).mpr axes

/-- The stick at the end of its range, a camera axis at the last value that fits. -/
def fullStick : List Event := [.accept 0, .construct, .axis 1 (-32768), .axis 2 11738]

theorem full_stick_in_range : Along (CommandsInRange Unit) (fullStick ++ [.update]) := by
  have reported : ∀ e ∈ fullStick ++ [.update], Reported e := by
    simp [fullStick, Reported]
  apply (commands_in_range_iff reported).mpr
  rw [along_concat]
  constructor
  · rintro before e after split s - rfl
    have mem : Event.update ∈ before ++ .update :: after := by simp
    rw [← split] at mem
    simp [fullStick] at mem
  · rintro s reached - - -
    cases reached
    exact ⟨by decide, by decide⟩

/-- A camera axis pushed over asks for an angle of 254 degrees. -/
theorem camera_out_of_range :
    ¬∀ (events : List Event) (s t : State Unit), (∀ e ∈ events, Reported e) →
      Reaches events s → step s .update = some t → InRange t.controls := by
  intro claimed
  have reported : ∀ e ∈ [Event.accept 0, .construct, .axis 2 32767], Reported e := by
    simp [Reported]
  have xAngle := (claimed _ _ _ reported rfl rfl).xAngle
  revert xAngle
  decide

end ActuatorRanges
