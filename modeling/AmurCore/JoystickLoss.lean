import AmurCore.ManualControl

/-!
# Losing the joystick

An update without a joystick returns before it commands anything, and the
`Controls` message keeps what the last update with a joystick put there. So the
robot stands still exactly when that update found the stick at rest.
-/

namespace JoystickLoss

open EventRuns JoystickInput RobotMessages ManualControl

variable {α : Type}

/-- The base and the motors are commanded to stand still. -/
def Stopped (c : Controls α) : Prop :=
  ((c.baseControl.getD .empty).linearVelocity = 0 ∧
    (c.baseControl.getD .empty).angularVelocity = 0) ∧
  (c.handMotors.getD .empty).leftPower = 0 ∧ (c.handMotors.getD .empty).rightPower = 0

/-- Both axes of the stick are below the first step of the command. -/
def AtRest (state : JoyState) : Prop :=
  |state.joystickXaxis| < divider ∧ |state.joystickYaxis| < divider

/-- The message commands the motion that a joystick state asks for. -/
structure Commands (c : Controls α) (state : JoyState) : Prop where
  linear : (c.baseControl.getD .empty).linearVelocity = (velocities joyDriftZone state).1
  angular : (c.baseControl.getD .empty).angularVelocity = (velocities joyDriftZone state).2
  left : (c.handMotors.getD .empty).leftPower = wheelXAxis state
  right : (c.handMotors.getD .empty).rightPower = wheelYAxis state

theorem axis_eq_zero_iff (axis : Int) : axis.tdiv divider = 0 ↔ |axis| < divider := by
  have magnitude : (axis.tdiv divider).natAbs = axis.natAbs / 129 := Int.natAbs_tdiv axis divider
  rw [Int.abs_eq_natAbs, ← Int.natAbs_eq_zero, magnitude]
  simp only [divider]
  omega

theorem velocities_at_rest {driftZone : Int} {state : JoyState} (x : wheelXAxis state = 0)
    (y : wheelYAxis state = 0) : velocities driftZone state = (0, 0) := by
  simp [velocities, x, y]

theorem Commands.stopped_iff {c : Controls α} {state : JoyState} (h : Commands c state) :
    Stopped c ↔ AtRest state := by
  have x : wheelXAxis state = 0 ↔ |state.joystickXaxis| < divider := axis_eq_zero_iff _
  have y : wheelYAxis state = 0 ↔ |state.joystickYaxis| < divider := axis_eq_zero_iff _
  rw [Stopped, AtRest, h.linear, h.angular, h.left, h.right, ← x, ← y]
  constructor
  · rintro ⟨-, left, right⟩
    exact ⟨left, right⟩
  · rintro ⟨left, right⟩
    rw [velocities_at_rest left right]
    exact ⟨⟨rfl, rfl⟩, left, right⟩

theorem commands_initial : Commands (.empty : Controls α) .initial := by
  have resting : velocities joyDriftZone .initial = (0, 0) := velocities_at_rest rfl rfl
  constructor
  · rw [resting]
    rfl
  · rw [resting]
    rfl
  · rfl
  · rfl

theorem update_connected {joyState : JoyState} {m m' : Control} {c c' : Controls α}
    (connected : ¬joyState.joyId < 0) (h : update joyState m c = some (m', c')) :
    m'.lastJoyState = joyState ∧ Commands c' joyState := by
  obtain ⟨rfl, checked, rfl⟩ := update_commands connected h
  exact ⟨rfl, rfl, rfl, rfl, rfl⟩

/-- The motion commanded is always that of the last update with a joystick. -/
theorem step_commands {s t : State α} {e : Event} (h : step s e = some t)
    (before : Commands s.controls s.manual.lastJoyState) :
    Commands t.controls t.manual.lastJoyState := by
  rcases step_cases h with ⟨manual, controls⟩ | ⟨-, connected, -, updated⟩
  · rw [manual, controls]
    exact before
  · obtain ⟨last, commands⟩ := update_connected connected updated
    rw [last]
    exact commands

theorem reaches_commands {events : List Event} {s : State α} (reached : Reaches events s) :
    Commands s.controls s.manual.lastJoyState := by
  have kept : ∀ (s : State α) e t, step s e = some t →
      Commands s.controls s.manual.lastJoyState → Commands t.controls t.manual.lastJoyState :=
    fun s e t h before => step_commands h before
  exact run_lift_invariant kept commands_initial reached

/-- Every update without a joystick leaves the robot standing still exactly when
before each of them the last update with a joystick, if any, found the stick at
rest. -/
theorem stops_without_joystick_iff (events : List Event) :
    Along
        (fun before e => ∀ s t : State α, Reaches before s → e = .update →
          s.joyState.joyId < 0 → step s e = some t → Stopped t.controls) events ↔
      Along
        (fun before e => ∀ s : State α, Reaches before s → e = .update →
          s.joyState.joyId < 0 → AtRest s.manual.lastJoyState) events := by
  refine along_congr ?_ events
  intro before e
  have exact_step : ∀ s : State α, Reaches before s → s.joyState.joyId < 0 →
      step s .update = some s ∧ (Stopped s.controls ↔ AtRest s.manual.lastJoyState) := by
    intro s reached lost
    refine ⟨?_, (reaches_commands reached).stopped_iff⟩
    simp only [step, update_disconnected lost]
  constructor
  · rintro stopped s reached rfl lost
    obtain ⟨stays, iff⟩ := exact_step s reached lost
    exact iff.mp (stopped s s reached rfl lost stays)
  · rintro resting s t reached rfl lost h
    obtain ⟨stays, iff⟩ := exact_step s reached lost
    rw [stays] at h
    cases h
    exact iff.mpr (resting s reached rfl lost)

/-- The stick is pushed over, sampled, and then lost. -/
theorem drives_without_joystick :
    ¬∀ (events : List Event) (s t : State Unit), Reaches events s → s.joyState.joyId < 0 →
      step s .update = some t → Stopped t.controls := by
  intro claimed
  have stopped := claimed [.accept 0, .construct, .axis 0 32767, .update, .disconnect] _ _ rfl
    (by decide) rfl
  have left := stopped.2.1
  revert left
  decide

end JoystickLoss
