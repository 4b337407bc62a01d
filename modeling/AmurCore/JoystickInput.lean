import Mathlib.Data.List.Basic

/-!
# The shared joystick state

`JoyState` and the slots that write it: those of `GetStateByJoystick`, which the
adapter of an opened joystick triggers, and the accepting of `JoystickDialog`.
Reading or writing a `QVector` out of its bounds has no defined result, so the
functions that index one return `none` there.
-/

namespace JoystickInput

/-- An axis value is written through its decimal text, which reads back as the
same `int`. -/
structure JoyState where
  joyId : Int
  buttonVector : List Bool
  joystickXaxis : Int
  joystickYaxis : Int
  joystickZLTaxis : Int
  joystickXrotation : Int
  joystickYrotation : Int
  joystickZRTaxis : Int
  joystickPOV0 : Int
  deriving DecidableEq

/-- The member initialisers. -/
def JoyState.initial : JoyState := ⟨-1, [], 0, 0, 0, 0, 0, 0, 0⟩

def maxJoystickButtons : Nat := 30

/-- `vector[i]` as a value. -/
def readButton (vector : List Bool) (i : Int) : Option Bool :=
  if 0 ≤ i then vector[i.toNat]? else none

/-- `vector[i] = state`. -/
def writeButton (vector : List Bool) (i : Int) (state : Bool) : Option (List Bool) :=
  if 0 ≤ i ∧ i.toNat < vector.length then some (vector.set i.toNat state) else none

/-- `GetStateByJoystick::GetStateByJoystick`: opening the joystick does not
change the state. -/
def constructGetStateByJoystick (s : JoyState) : JoyState :=
  { s with buttonVector := List.replicate maxJoystickButtons false }

def disconnectFromJoystick (s : JoyState) : JoyState := { s with joyId := -1 }

def axisSetup (id state : Int) (s : JoyState) : JoyState :=
  match id with
  | 0 => { s with joystickXaxis := state }
  | 1 => { s with joystickYaxis := -1 * state }
  | 2 => { s with joystickZLTaxis := state }
  | 3 => { s with joystickXrotation := state }
  | 4 => { s with joystickYrotation := -1 * state }
  | 5 => { s with joystickZRTaxis := state }
  | _ => s

def hatSetup (_id state : Int) (s : JoyState) : JoyState := { s with joystickPOV0 := state }

def buttonSetup (id : Int) (state : Bool) (s : JoyState) : Option JoyState :=
  match writeButton s.buttonVector id state with
  | none => none
  | some buttonVector =>
    -- the loop over all buttons only builds a text that nothing reads
    if maxJoystickButtons ≤ buttonVector.length then
      some { s with buttonVector := buttonVector }
    else none

/-- `JoystickDialog::on_JoystickDialog_accepted` with the identifier the dialog
has. -/
def acceptJoystick (joyId : Int) (s : JoyState) : JoyState := { s with joyId := joyId }

end JoystickInput
