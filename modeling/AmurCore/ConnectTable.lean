import Mathlib.Data.List.Dedup
import Mathlib.Data.List.ReduceOption
import Mathlib.Logic.Function.Basic
import AmurCore.EventRuns
import AmurCore.RobotRepository

/-!
# The robot table of the connection dialog

`ConnectDialog` with the list of robots that `NetworkController` keeps and the
repository. Entries are shared by pointer, so they live on a heap. Setting a
text or a role of a table item emits `itemChanged` synchronously exactly when
the stored value changes, which calls `onRobotNameChanged` inside itself. The
handler stops at its question; the timer and the network run on until the
answer, and the rest of the handler runs then.

Only items of the Name column are ever changed, so the others are their texts. During a
rebuild `setItem` emits `itemChanged` as well; the handler then finds the text that the
item holds as its old name, and does nothing.
-/

namespace ConnectTable

open EventRuns RobotRepository

/-! ### Shared entries -/

/-- A `RobotEntryPtr`: the number of entries made before it. -/
abbrev Pointer := Nat

structure Heap where
  size : Nat
  entry : Pointer → RobotEntry

/-- A `RobotList`. -/
abbrev RobotList := List (Option Pointer)

namespace Heap

def empty : Heap := ⟨0, fun _ => .empty⟩

/-- `std::make_shared<RobotEntry>`. -/
def allocate (robot : RobotEntry) (heap : Heap) : Pointer × Heap :=
  (heap.size, ⟨heap.size + 1, Function.update heap.entry heap.size robot⟩)

/-- A new entry leaves the ones made before it. -/
theorem allocate_entry (robot : RobotEntry) {heap : Heap} {pointer : Pointer}
    (made : pointer < heap.size) : (heap.allocate robot).2.entry pointer = heap.entry pointer :=
  Function.update_of_ne (Nat.ne_of_lt made) _ _

def allocateAll : List RobotEntry → Heap → RobotList × Heap
  | [], heap => ([], heap)
  | robot :: robots, heap =>
    let (pointer, heap) := heap.allocate robot
    let (pointers, heap) := allocateAll robots heap
    (some pointer :: pointers, heap)

def setName (pointer : Pointer) (name : String) (heap : Heap) : Heap :=
  let robot := { heap.entry pointer with name := name }
  { heap with entry := Function.update heap.entry pointer robot }

/-- The machine ID as a key of a `QHash` or `QSet`, where a null string is equal
to an empty one. -/
def machineKey (heap : Heap) (pointer : Pointer) : String :=
  (heap.entry pointer).machineID.getD ""

end Heap

/-! ### Categories -/

structure Categories where
  activeUnknown : RobotList
  knownInactive : RobotList
  activeKnown : RobotList

def Categories.empty : Categories := ⟨[], [], []⟩

section Categorize
variable (heap : Heap)

def extractMachineIDs (robots : RobotList) : List String :=
  robots.reduceOption.map heap.machineKey

/-- `knownRobotsMap.value(machineID)`: the last one inserted under the key. -/
def knownRobot (knownRobots : RobotList) (machineID : String) : Option Pointer :=
  knownRobots.reduceOption.reverse.find? fun robot => heap.machineKey robot = machineID

/-- Equality of the two lists as sets. -/
def sameMachineIDs (robots robots' : RobotList) : Bool :=
  let ids := extractMachineIDs heap robots
  let ids' := extractMachineIDs heap robots'
  ids.all (fun id => ids'.contains id) && ids'.all (fun id => ids.contains id)

/-- The three lists that `categorizeRobots` builds. A `QHash` lists its keys in
an order of its own. -/
def classify (keyOrder : List String → List String) (knownRobots activeRobots : RobotList) :
    Categories :=
  let active := activeRobots.reduceOption
  let keys := keyOrder (extractMachineIDs heap knownRobots).dedup
  let activeRobotIDs := extractMachineIDs heap activeRobots
  { activeKnown := (active.filterMap fun robot =>
      knownRobot heap knownRobots (heap.machineKey robot)).map some
    activeUnknown := (active.filter fun robot =>
      (knownRobot heap knownRobots (heap.machineKey robot)).isNone).map some
    knownInactive := (keys.filter fun machineID => !activeRobotIDs.contains machineID).map
      (knownRobot heap knownRobots) }

def categorizeRobots (keyOrder : List String → List String)
    (knownRobots activeRobots : RobotList) (lists : Categories) : Bool × Categories :=
  let new := classify heap keyOrder knownRobots activeRobots
  let isChanged := !sameMachineIDs heap lists.activeUnknown new.activeUnknown ||
    !sameMachineIDs heap lists.knownInactive new.knownInactive ||
    !sameMachineIDs heap lists.activeKnown new.activeKnown
  (isChanged, if isChanged then new else lists)

end Categorize

/-! ### The table -/

/-- The three pairs of colours that `updateTable` fills rows with. -/
inductive Category where
  | activeKnown
  | activeUnknown
  | knownInactive
  deriving DecidableEq

/-- A row: the item of its Name column, and the texts of the others. -/
structure TableRow where
  text : String
  /-- `data(Qt::UserRole)` -/
  userRole : String
  /-- `data(Qt::UserRole + 1)` -/
  robot : Pointer
  machineID : String
  address : String
  port : String
  category : Category
  deriving DecidableEq

/-- The item of the Name column that a rebuild of the table made for a row. -/
structure Item where
  rebuild : Nat
  row : Nat
  deriving DecidableEq

/-- What `onRobotNameChanged` goes on with after its question. -/
structure Question where
  item : Item
  robot : Pointer
  oldName : String
  newName : String
  deriving DecidableEq

structure State where
  heap : Heap
  /-- `NetworkController::robots` -/
  robots : List Pointer
  repo : Repository
  /-- The static lists of `updateTable`. -/
  categories : Categories
  table : List TableRow
  /-- How often the table was built anew; the items made before are deleted. -/
  rebuilds : Nat
  question : Option Question

namespace State

def row? (s : State) (item : Item) : Option TableRow :=
  if item.rebuild = s.rebuilds then s.table[item.row]? else none

def putRow (s : State) (item : Item) (row : TableRow) : State :=
  { s with table := s.table.set item.row row }

end State

def fillTableWithRobots (heap : Heap) (robots : RobotList) (category : Category) :
    List TableRow :=
  robots.reduceOption.map fun robot =>
    let entry := heap.entry robot
    { text := entry.name
      userRole := entry.name
      robot := robot
      machineID := entry.machineID.getD ""
      address := entry.address.getD ""
      port := toString entry.port.toNat
      category := category }

/-- `executed` says whether the database could be read. -/
def updateTable (keyOrder : List String → List String) (executed : Bool) (s : State) : State :=
  let (knownRobots, heap) := s.heap.allocateAll (loadRobots executed s.repo)
  let (changed, lists) :=
    categorizeRobots heap keyOrder knownRobots (s.robots.map some) s.categories
  let s := { s with heap := heap, categories := lists }
  if changed then
    { s with
      table := fillTableWithRobots heap lists.activeKnown .activeKnown ++
        fillTableWithRobots heap lists.activeUnknown .activeUnknown ++
        fillTableWithRobots heap lists.knownInactive .knownInactive
      rebuilds := s.rebuilds + 1 }
  else s

/-! ### Changing a name -/

/-- Which statements of the repository could be executed. -/
structure Sql where
  robotExists : Bool
  deleteRobot : Bool
  updateRobot : Bool
  addRobot : Bool

def Sql.succeeds : Sql := ⟨true, true, true, true⟩

/-- `item->setText(value)` or an edit of the cell. Writing to a deleted item has
no defined result. -/
def setText (itemChanged : State → Option State) (item : Item) (value : String) (s : State) :
    Option State :=
  match s.row? item with
  | none => none
  | some row =>
    if row.text = value then some s else itemChanged (s.putRow item { row with text := value })

/-- `item->setData(Qt::UserRole, value)`. -/
def setUserRole (itemChanged : State → Option State) (item : Item) (value : String)
    (s : State) : Option State :=
  match s.row? item with
  | none => none
  | some row =>
    if row.userRole = value then some s
    else itemChanged (s.putRow item { row with userRole := value })

/-- The repository after the statements for a robot that had no name. -/
def storeNew (sql : Sql) (robot : RobotEntry) (repo : Repository) : Repository :=
  let repo :=
    if RobotRepository.robotExists sql.robotExists robot.machineID repo then
      (RobotRepository.deleteRobot sql.deleteRobot robot repo).2
    else repo
  (RobotRepository.addRobot sql.addRobot robot repo).2

/-- `ConnectDialog::onRobotNameChanged`, undefined when it calls itself deeper
than the first argument allows. A nested call that asks is the last thing its
caller does, except in `answerQuestion`, whose nested call does not ask. -/
def onRobotNameChanged (sql : Sql) : Nat → Item → State → Option State
  | 0, _, _ => none
  | nesting + 1, item, s =>
    match s.row? item with
    | none => none
    | some row =>
      let newName := row.text
      let oldName := row.userRole
      if oldName = newName then some s
      else if oldName = "" ∧ newName ≠ "" then
        let heap := s.heap.setName row.robot newName
        let repo := storeNew sql (heap.entry row.robot) s.repo
        setUserRole (onRobotNameChanged sql nesting item) item newName
          { s with heap := heap, repo := repo }
      else if oldName ≠ "" ∧ newName ≠ "" then
        let repo :=
          (RobotRepository.updateRobot sql.updateRobot (s.heap.entry row.robot) s.repo).2
        setUserRole (onRobotNameChanged sql nesting item) item newName { s with repo := repo }
      else
        some { s with question := some ⟨item, row.robot, oldName, newName⟩ }

/-- The rest of the handler, from the answer on. -/
def answerQuestion (sql : Sql) (nesting : Nat) (yes : Bool) (s : State) : Option State :=
  match s.question with
  | none => none
  | some q =>
    let s := { s with question := none }
    let answered :=
      if yes then
        let repo :=
          (RobotRepository.deleteRobot sql.deleteRobot (s.heap.entry q.robot) s.repo).2
        some { s with repo := repo }
      else setText (onRobotNameChanged sql nesting q.item) q.item q.oldName s
    match answered with
    | none => none
    | some s => setUserRole (onRobotNameChanged sql nesting q.item) q.item q.newName s

/-! ### The system -/

inductive Event where
  /-- An accepted datagram, with the fields that it carries. -/
  | datagram (senderAddress : String) (senderPort : UInt16) (machineID : Option String)
      (arpingPort : Int)
  | updateTable (executed : Bool)
  | editName (row : Nat) (text : String) (sql : Sql)
  | answer (yes : Bool) (sql : Sql)

/-- The handler of `runArpingService`, as far as the list of robots goes. -/
def registerRobot (senderAddress : String) (senderPort : UInt16) (machineID : Option String)
    (arpingPort : Int) (s : State) : State :=
  if s.robots.any fun robot => (s.heap.entry robot).address = some senderAddress then s
  else
    let port := if arpingPort > 0 then UInt16.ofNat arpingPort.toNat else senderPort
    let (robot, heap) := s.heap.allocate ⟨"", machineID, some senderAddress, port, 0, ""⟩
    { s with heap := heap, robots := s.robots ++ [robot] }

/-- A datagram adds one new entry to the list, or nothing. -/
theorem registerRobot_cases (senderAddress : String) (senderPort : UInt16)
    (machineID : Option String) (arpingPort : Int) (s : State) :
    registerRobot senderAddress senderPort machineID arpingPort s = s ∨
      ∃ robot, registerRobot senderAddress senderPort machineID arpingPort s =
        { s with heap := (s.heap.allocate robot).2, robots := s.robots ++ [s.heap.size] } := by
  rw [registerRobot]
  split
  · exact Or.inl rfl
  · exact Or.inr ⟨_, rfl⟩

/-- How deep nested calls of the handler go at most. -/
def nesting : Nat := 2

/-- One step. The question is modal: no cell is edited before its answer. -/
def step (keyOrder : List String → List String) (s : State) : Event → Option State
  | .datagram senderAddress senderPort machineID arpingPort =>
    some (registerRobot senderAddress senderPort machineID arpingPort s)
  | .updateTable executed => some (updateTable keyOrder executed s)
  | .editName row text sql =>
    match s.question with
    | some _ => none
    | none => setText (onRobotNameChanged sql nesting ⟨s.rebuilds, row⟩) ⟨s.rebuilds, row⟩ text s
  | .answer yes sql => answerQuestion sql nesting yes s

/-- The start of the program on a repository with rows of earlier sessions. -/
def start (repo : Repository) : State := ⟨.empty, [], repo, .empty, [], 0, none⟩

/-- The state `s` is reached by the events, none of which writes to a deleted
item. -/
def Reaches (keyOrder : List String → List String) (repo : Repository) (events : List Event)
    (s : State) : Prop :=
  run (lift (step keyOrder)) (some (start repo)) events = some s

end ConnectTable
