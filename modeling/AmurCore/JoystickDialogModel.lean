import AmurCore.EventRuns
import AmurCore.JoystickAdapter
import AmurCore.JoystickInput

/-!
# The joystick dialog

`JoystickDialog` with its adapter. The dialog is made once and shown again at every
opening. Joysticks come and go at any time; SDL lists those that are attached. The
adapter's thread emits the signals, so their slots are called by events that the
thread of the dialog handles later. Calls of `close` are taken to return, and
assertions to be compiled out. Using the identifier of the dialog before anything has
been written to it, or a button out of bounds, has no defined result.
-/

namespace JoystickDialogModel

open EventRuns JoystickAdapter JoystickInput

/-- A joystick and what SDL says about it. -/
structure Device where
  /-- Which joystick it is. -/
  which : Nat
  name : String
  playerIndex : Int
  numAxes : Int
  numHats : Int
  numBalls : Int
  numButtons : Int
  deriving DecidableEq

structure Information where
  joystickName : String
  joystickId : String
  joystickAxis : String
  joystickHats : String
  joystickBalls : String
  joystickButtons : String
  deriving DecidableEq

structure StateLabels where
  joystickXaxis : String
  joystickYaxis : String
  joystickXrotation : String
  joystickYrotation : String
  joystickZLTaxis : String
  joystickZRTaxis : String
  joystickButtonsTest : String
  joystickPOV0 : String
  deriving DecidableEq

/-- What can be clicked, and the boxes that are shown as disabled. -/
structure Enabled where
  connectPushButton : Bool
  disconnectPushButton : Bool
  rescanPushButton : Bool
  joystickComboBox : Bool
  joystickStateBox : Bool
  joystickInformationBox : Bool
  deriving DecidableEq

structure State where
  /-- The joysticks that SDL lists. -/
  devices : List Device
  /-- `m_joystick` of the adapter. -/
  joystick : Option Device
  /-- How often the signals of the adapter are connected to the slots. -/
  connections : Nat
  /-- The calls of slots that have been posted, the oldest first. -/
  calls : List Signal
  /-- `JoystickDialog::joyId`, which no constructor writes. -/
  joyId : Option Int
  /-- `JoyState::joyId` -/
  published : Int
  buttonVector : List Bool
  comboBox : List String
  currentIndex : Option Nat
  information : Information
  labels : StateLabels
  enabled : Enabled

/-! ### The adapter -/

def getAvailableJoystickName (devices : List Device) : List String :=
  devices.foldl (fun joyNames device => device.name :: joyNames) []

def isConnected (s : State) : Bool :=
  s.joystick.any fun device => s.devices.any fun attached => attached.which = device.which

def getJoystickId (s : State) : Int := s.joystick.elim (-1) Device.playerIndex

/-- The joystick that SDL opens at an index, if it can be opened. -/
def joystickOpen (devices : List Device) (opens : Bool) (id : Int) : Option Device :=
  if opens ∧ 0 ≤ id then devices[id.toNat]? else none

/-- `VJoystickAdapter::open`; a joystick opened from the list is attached. -/
def openAdapter (opens : Bool) (id : Int) (s : State) : Bool × State :=
  if isConnected s then (false, s)
  else
    let joystick := joystickOpen s.devices opens id
    (joystick.isSome, { s with joystick := joystick })

/-! ### The dialog -/

def defaultInformation : Information := ⟨"Not connected", "-1", "-1", "-1", "-1", "-1"⟩

def defaultLabels : StateLabels := ⟨"0", "0", "0", "0", "0", "0", "", "0"⟩

def setDefaultText (s : State) : State :=
  { s with information := defaultInformation, labels := defaultLabels }

def scanJoystickDevice (s : State) : State :=
  let joyNames := getAvailableJoystickName s.devices
  { s with comboBox := joyNames, currentIndex := if joyNames = [] then none else some 0 }

def loadJoy (opens : Bool) (joyId : Int) (s : State) : Int × State :=
  let (opened, s) := openAdapter opens joyId s
  if opened then (0, { s with connections := s.connections + 1 }) else (-1, s)

/-- The texts for an open joystick. -/
def describe (device : Device) : Information where
  joystickName := if device.name = "" then "Not connected" else device.name
  joystickId := toString device.playerIndex
  joystickAxis := toString device.numAxes
  joystickHats := toString device.numHats
  joystickBalls := toString device.numBalls
  joystickButtons := toString device.numButtons

/-- The second half of `setDialog`. -/
def showJoystick (s : State) : State :=
  match s.joystick with
  | none => setDefaultText s
  | some device =>
    if device.playerIndex < 0 then setDefaultText s
    else { s with
      information := describe device
      enabled := ⟨false, true, false, false, true, true⟩ }

def setDialog (opens : Bool) (s : State) : State :=
  showJoystick
    (if getJoystickId s < 0 ∧ s.published ≥ 0 then (loadJoy opens s.published s).2 else s)

def connectToJoystick (opens : Bool) (s : State) : State :=
  match s.currentIndex with
  | none => setDialog opens s
  | some joyComboBox =>
    let (code, s) := loadJoy opens joyComboBox { s with joyId := some (joyComboBox : Int) }
    if code ≠ 0 then s else setDialog opens s

def disconnectFromJoystick (s : State) : State :=
  let s := if isConnected s then { s with joystick := none, connections := 0 } else s
  scanJoystickDevice (setDefaultText { s with enabled := ⟨true, false, true, true, false, false⟩ })

def accepted (s : State) : Option State :=
  match s.joyId with
  | none => none
  | some joyId => some (disconnectFromJoystick { scanJoystickDevice s with published := joyId })

def rejected (s : State) : State := disconnectFromJoystick s

/-- The part of the text that stands for one button. -/
def buttonText (i : Nat) : String :=
  if i < 10 then "0" ++ toString i ++ "  " else toString i

/-- The loop over the buttons. -/
def buttonTest (buttonVector : List Bool) : String :=
  (buttonVector.zipIdx.filter Prod.fst).foldl (fun text button => text ++ buttonText button.2) ""

def axisSetup (id state : Int) (labels : StateLabels) : StateLabels :=
  match id with
  | 0 => { labels with joystickXaxis := toString state }
  | 1 => { labels with joystickYaxis := toString (-1 * state) }
  | 2 => { labels with joystickZLTaxis := toString state }
  | 3 => { labels with joystickXrotation := toString state }
  | 4 => { labels with joystickYrotation := toString (-1 * state) }
  | 5 => { labels with joystickZRTaxis := toString state }
  | _ => labels

/-- The slot that a signal of the adapter is connected to. -/
def slot (signal : Signal) (s : State) : Option State :=
  match signal with
  | .axisChanged id state => some { s with labels := axisSetup id state s.labels }
  | .hatChanged _ state => some { s with labels.joystickPOV0 := toString state }
  | .ballChanged _ _ _ => some s
  | .buttonChanged id state =>
    match writeButton s.buttonVector id state with
    | none => none
    | some buttonVector =>
      some { s with
        buttonVector := buttonVector
        labels.joystickButtonsTest := buttonTest buttonVector }

/-! ### The system -/

inductive Event where
  /-- Joysticks are plugged in or out. -/
  | plug (devices : List Device)
  /-- An entry of the list of joysticks is chosen. -/
  | select (i : Nat)
  /-- A click on a button; `opens` says whether SDL can open the joystick. -/
  | clickConnect (opens : Bool)
  | clickDisconnect
  | clickRescan
  | accept
  | reject
  /-- The adapter's thread emits a signal. -/
  | emit (signal : Signal)
  /-- The oldest call of a slot is handled. -/
  | call

def step (s : State) : Event → Option State
  | .plug devices => some { s with devices := devices }
  | .select i =>
    if s.enabled.joystickComboBox ∧ i < s.comboBox.length then
      some { s with currentIndex := some i }
    else none
  | .clickConnect opens =>
    if s.enabled.connectPushButton then some (connectToJoystick opens s) else none
  | .clickDisconnect =>
    if s.enabled.disconnectPushButton then some (disconnectFromJoystick s) else none
  | .clickRescan => if s.enabled.rescanPushButton then some (scanJoystickDevice s) else none
  | .accept => accepted s
  | .reject => some (rejected s)
  | .emit signal => some { s with calls := s.calls ++ List.replicate s.connections signal }
  | .call =>
    match s.calls with
    | [] => none
    | signal :: calls => slot signal { s with calls := calls }

/-- `JoystickDialog::JoystickDialog` on a state in which no joystick is published. -/
def start (devices : List Device) : State :=
  setDialog true (scanJoystickDevice {
    devices := devices
    joystick := none
    connections := 0
    calls := []
    joyId := none
    published := JoyState.initial.joyId
    buttonVector := List.replicate maxJoystickButtons false
    comboBox := []
    currentIndex := none
    information := defaultInformation
    labels := defaultLabels
    enabled := ⟨true, false, true, true, false, false⟩ })

/-- The state `s` is reached by the events. -/
def Reaches (devices : List Device) (events : List Event) (s : State) : Prop :=
  run (lift step) (some (start devices)) events = some s

end JoystickDialogModel
