import AmurCore.ConnectTable
import AmurCore.PlaceMarkers

/-!
# The status message

`AmurCore::updateStatusMessage`, which runs at every tick of the window's timer,
on the entries that the network, the connection dialog and the window share. The
search in the repository is told whether it could be executed. `machineKey` is a
machine ID as `==` and `isEmpty` see it: a null string is an empty one.
-/

namespace StatusMessage

open EventRuns RobotRepository ConnectTable

/-- What Qt knows of characters and of the locale. -/
structure QLocale where
  /-- `QChar::digitValue` -/
  digitValue : Char → Option Nat
  /-- A number as the locale writes it. -/
  number : Nat → String

/-- `QString("Connected to %1 (%2:%3)").arg(displayName, address).arg(port)`. With
two arguments `%1` and `%2` are replaced at once; the second call then looks for
place markers in what they were replaced by as well. -/
def connectedMessage (locale : QLocale) (displayName address : String) (port : UInt16) : String :=
  let filled := "Connected to ".toList ++ displayName.toList ++ " (".toList ++ address.toList ++
    ":%3)".toList
  let value : PlaceMarkers.Value :=
    ⟨(toString port.toNat).toList, (locale.number port.toNat).toList⟩
  String.ofList (PlaceMarkers.arg locale.digitValue value filled)

/-! ### The window -/

structure State where
  /-- The network's robots, the repository and the connection dialog. -/
  shared : ConnectTable.State
  statusMessage : String
  currentRobotId : String
  /-- The text of `statusLabel`. -/
  statusLabel : String

/-- The loop over the robots, with the first one found so far. -/
def selectRobot (heap : Heap) : Option Pointer → List Pointer → Option Pointer
  | activeRobot, [] => activeRobot
  | activeRobot, robot :: robots =>
    if (heap.entry robot).name ≠ "" then some robot
    else selectRobot heap (activeRobot.or (some robot)) robots

def showStatus (message : String) (s : State) : State :=
  if message = s.statusMessage then s
  else { s with statusMessage := message, statusLabel := message }

/-- The condition for a search in the repository. -/
def needsSearch (s : State) (robot : Pointer) : Bool :=
  (s.shared.heap.entry robot).name = "" ∧
    s.shared.heap.machineKey robot ≠ s.currentRobotId ∧ s.shared.heap.machineKey robot ≠ ""

/-- The entry gets the name that is stored under its machine ID, if one is found. -/
def pullName (executed : Bool) (robot : Pointer) (s : State) : State :=
  if needsSearch s robot then
    let known := searchRobots executed ⟨s.shared.heap.machineKey robot, "", "", ""⟩ s.shared.repo
    match known.head? with
    | none => s
    | some first =>
      { s with shared := { s.shared with heap := s.shared.heap.setName robot first.name } }
  else s

def displayName (robot : RobotEntry) : String :=
  if robot.name ≠ "" then robot.name
  else if robot.machineID.getD "" = "" then "Unknown robot"
  else robot.machineID.getD ""

/-- The message about a robot. -/
def robotMessage (locale : QLocale) (robot : RobotEntry) : String :=
  connectedMessage locale (displayName robot) (robot.address.getD "") robot.port

def updateStatusMessage (locale : QLocale) (executed : Bool) (s : State) : State :=
  match selectRobot s.shared.heap none s.shared.robots with
  | none => showStatus "No robot connected" { s with currentRobotId := "" }
  | some robot =>
    let s := pullName executed robot s
    let s := { s with currentRobotId := s.shared.heap.machineKey robot }
    showStatus (robotMessage locale (s.shared.heap.entry robot)) s

/-! ### The system -/

inductive Event where
  | shared (e : ConnectTable.Event)
  /-- A tick of the window's timer. -/
  | frameUpdate (executed : Bool)

def step (keyOrder : List String → List String) (locale : QLocale) (s : State) :
    Event → Option State
  | .shared e =>
    (ConnectTable.step keyOrder s.shared e).map fun shared => { s with shared := shared }
  | .frameUpdate executed => some (updateStatusMessage locale executed s)

/-- After `AmurCore::initialize`. -/
def start (repo : Repository) : State :=
  ⟨ConnectTable.start repo, "No robot connected", "", "No robot connected"⟩

/-- The state `s` is reached by the events, none of which writes to a deleted item
of the dialog. -/
def Reaches (keyOrder : List String → List String) (locale : QLocale)
    (repo : Repository) (events : List Event) (s : State) : Prop :=
  run (lift (step keyOrder locale)) (some (start repo)) events = some s

end StatusMessage
