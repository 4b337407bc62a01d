import Mathlib.Tactic.NormNum
import AmurCore.EventRuns
import AmurCore.JoystickInput
import AmurCore.RobotMessages

/-!
# Driving by joystick

`MoveSettings`, `DeadzoneBaseControlStrategy` and `ManualControl`, and the
system they form with the slots that write the shared joystick state. A step is
one event: a slot, or a timer tick that runs `ManualControl::update`.
-/

namespace ManualControl

open EventRuns JoystickInput RobotMessages

/-- `ManualControl::lastJoyState` and its level. -/
structure Control where
  lastJoyState : JoyState
  baseControlLevel : ControlLevel
  deriving DecidableEq

def construct (baseControlLevel : ControlLevel) : Control := ⟨.initial, baseControlLevel⟩

def joyDriftZone : Int := 7

/-! ### `MoveSettings::JoyBindings` -/

def relayButton : Int := 5
def lightButton : Int := 0
def divider : Int := 129

-- division of `int` truncates toward zero
def wheelXAxis (state : JoyState) : Int := state.joystickXaxis.tdiv divider
def wheelYAxis (state : JoyState) : Int := state.joystickYaxis.tdiv divider
def cameraXAxis (state : JoyState) : Int := state.joystickZLTaxis.tdiv divider
def cameraYAxis (state : JoyState) : Int := state.joystickXrotation.tdiv divider

/-- `DeadzoneBaseControlStrategy::velocities`: the linear and the angular one. -/
def velocities (driftZone : Int) (state : JoyState) : ℚ × ℚ :=
  let rawAngular : ℚ := wheelXAxis state
  let rawLinear : ℚ := wheelYAxis state
  let linear := if |rawLinear| > driftZone then rawLinear else 0
  let angular := if |rawAngular| > driftZone then rawAngular else 0
  (linear, angular)

section Controls
variable {α : Type}

/-! ### The setters of sub-messages, which create an absent one -/

def onHandMotors (f : HandMotors → HandMotors) (c : Controls α) : Controls α :=
  { c with handMotors := some (f (c.handMotors.getD .empty)) }

def onLight (f : Light → Light) (c : Controls α) : Controls α :=
  { c with light := some (f (c.light.getD .empty)) }

def onBaseControl (f : BaseControl → BaseControl) (c : Controls α) : Controls α :=
  { c with baseControl := some (f (c.baseControl.getD .empty)) }

def onCameraServos (f : CameraServos → CameraServos) (c : Controls α) : Controls α :=
  { c with cameraServos := some (f (c.cameraServos.getD .empty)) }

/-- What both button checks do: run the setter when the button has changed. -/
def checkChangeButton (buttonNumber : Int) (onChange : Bool → Controls α → Controls α)
    (joyState lastJoyState : JoyState) (c : Controls α) : Option (Controls α) :=
  match readButton joyState.buttonVector buttonNumber,
    readButton lastJoyState.buttonVector buttonNumber with
  | some state, some last => some (if state ≠ last then onChange state c else c)
  | _, _ => none

def checkChangeRelayButton (buttonNumber : Int) :
    JoyState → JoyState → Controls α → Option (Controls α) :=
  checkChangeButton buttonNumber fun state =>
    onHandMotors fun motors => { motors with rightRelay := state, leftRelay := state }

def checkChangeLightButton (buttonNumber : Int) :
    JoyState → JoyState → Controls α → Option (Controls α) :=
  checkChangeButton buttonNumber fun state =>
    onLight fun light =>
      { light with ledLeftPower := 255 * state.toNat, ledRightPower := 255 * state.toNat }

def baseControlProcess (level : ControlLevel) (joyState : JoyState) (c : Controls α) :
    Controls α :=
  let (linear, angular) := velocities joyDriftZone joyState
  onBaseControl (fun base =>
    { base with linearVelocity := linear, angularVelocity := angular, controlLevel := level }) c

def wheelRawProcess (xAxis yAxis : Int) (c : Controls α) : Controls α :=
  onHandMotors (fun motors =>
    { motors with leftPower := xAxis, rightPower := yAxis, leftTime := 1000, rightTime := 1000 }) c

def moveCameraProcess (xAxis yAxis : Int) (c : Controls α) : Controls α :=
  onCameraServos (fun servos => { servos with xAngle := xAxis, yAngle := yAxis }) c

/-- `ManualControl::update`. -/
def update (joyState : JoyState) (m : Control) (c : Controls α) : Option (Control × Controls α) :=
  if joyState.joyId < 0 then some (m, c)
  else
    let lastJoyState := if m.lastJoyState.joyId < 0 then joyState else m.lastJoyState
    match checkChangeRelayButton relayButton joyState lastJoyState c with
    | none => none
    | some c =>
      match checkChangeLightButton lightButton joyState lastJoyState c with
      | none => none
      | some c =>
        let wheelX := wheelXAxis joyState
        let wheelY := wheelYAxis joyState
        let c := baseControlProcess m.baseControlLevel joyState c
        let c := wheelRawProcess wheelX wheelY c
        let c := moveCameraProcess (cameraXAxis joyState) (cameraYAxis joyState) c
        some ({ m with lastJoyState := joyState }, c)

end Controls

/-! ### The system -/

structure State (α : Type) where
  joyState : JoyState
  manual : Control
  controls : Controls α

inductive Event where
  | accept (joyId : Int)
  | construct
  | axis (id state : Int)
  | hat (id state : Int)
  | button (id : Int) (state : Bool)
  | disconnect
  | update
  deriving DecidableEq

variable {α : Type}

def step (s : State α) : Event → Option (State α)
  | .accept joyId => some { s with joyState := acceptJoystick joyId s.joyState }
  | .construct => some { s with joyState := constructGetStateByJoystick s.joyState }
  | .axis id state => some { s with joyState := axisSetup id state s.joyState }
  | .hat id state => some { s with joyState := hatSetup id state s.joyState }
  | .button id state =>
    match buttonSetup id state s.joyState with
    | none => none
    | some joyState => some { s with joyState := joyState }
  | .disconnect => some { s with joyState := disconnectFromJoystick s.joyState }
  | .update =>
    match update s.joyState s.manual s.controls with
    | none => none
    | some (manual, controls) => some { s with manual := manual, controls := controls }

/-- An update with a joystick ends with the three commands, whatever the two
checks of buttons made of the message before. -/
theorem update_commands {joyState : JoyState} {m m' : Control} {c c' : Controls α}
    (connected : ¬joyState.joyId < 0) (h : update joyState m c = some (m', c')) :
    m' = { m with lastJoyState := joyState } ∧
      ∃ checked : Controls α, c' = moveCameraProcess (cameraXAxis joyState) (cameraYAxis joyState)
        (wheelRawProcess (wheelXAxis joyState) (wheelYAxis joyState)
          (baseControlProcess m.baseControlLevel joyState checked)) := by
  rw [update, if_neg connected] at h
  simp only at h
  split at h
  · cases h
  · split at h
    · cases h
    · rename_i checked _
      cases h
      exact ⟨rfl, checked, rfl⟩

theorem step_update {s t : State α} (h : step s .update = some t) :
    ∃ manual controls, update s.joyState s.manual s.controls = some (manual, controls) ∧
      t = { s with manual := manual, controls := controls } := by
  simp only [step] at h
  split at h
  · cases h
  · rename_i manual controls updated
    cases h
    exact ⟨manual, controls, updated, rfl⟩

/-- The slots write the joystick state and nothing else. -/
theorem step_frame {s t : State α} {e : Event} (h : step s e = some t) (other : e ≠ .update) :
    t.manual = s.manual ∧ t.controls = s.controls := by
  cases e with
  | update => exact absurd rfl other
  | button id state =>
    simp only [step] at h
    split at h
    · cases h
    · cases h
      exact ⟨rfl, rfl⟩
  | _ =>
    cases h
    exact ⟨rfl, rfl⟩

theorem update_disconnected {joyState : JoyState} {m : Control} {c : Controls α}
    (lost : joyState.joyId < 0) : update joyState m c = some (m, c) :=
  if_pos lost

/-- Only an update with a joystick writes the message and the copy. -/
theorem step_cases {s t : State α} {e : Event} (h : step s e = some t) :
    (t.manual = s.manual ∧ t.controls = s.controls) ∨
    e = .update ∧ ¬s.joyState.joyId < 0 ∧ t.joyState = s.joyState ∧
      update s.joyState s.manual s.controls = some (t.manual, t.controls) := by
  by_cases isUpdate : e = .update
  · subst isUpdate
    obtain ⟨manual, controls, updated, rfl⟩ := step_update h
    by_cases lost : s.joyState.joyId < 0
    · rw [update_disconnected lost] at updated
      cases updated
      exact .inl ⟨rfl, rfl⟩
    · exact .inr ⟨rfl, lost, rfl, updated⟩
  · exact .inl (step_frame h isUpdate)

/-- After `AmurCore::initialize`: no joystick, and an empty message. -/
def start : State α := ⟨.initial, construct .raw, .empty⟩

/-- The state `s` is reached by the events, none of which indexes a vector out
of its bounds. -/
def Reaches (events : List Event) (s : State α) : Prop :=
  run (lift step) (some start) events = some s

end ManualControl
