import AmurCore.UniqueRows

/-!
# The robot repository

`RobotEntry`, and `RobotRepository` over the table that `createTableIfNotExists`
creates. Its column `id` only orders the rows. Every statement takes whether it
could be executed: it could not when the database is not open or `exec` fails.
-/

namespace RobotRepository

/-- A `RobotEntry` without its socket. `none` is a null string, which a `NOT NULL`
column refuses; for the other texts a null string is the same as an empty one. -/
structure RobotEntry where
  name : String
  machineID : Option String
  /-- The text of the address; that of a null address is null. -/
  address : Option String
  port : UInt16
  portForAnswer : UInt16
  macAddress : String
  deriving DecidableEq

def RobotEntry.empty : RobotEntry := ⟨"", none, none, 0, 0, ""⟩

structure Row where
  machineID : String
  name : String
  address : String
  port : UInt16
  portForAnswer : UInt16
  macAddress : String
  deriving DecidableEq

abbrev Repository := UniqueRows Row.machineID

def robotExists (executed : Bool) (machineID : Option String) (repo : Repository) : Bool :=
  executed && (machineID.bind repo.find).isSome

def deleteRobot (executed : Bool) (robot : RobotEntry) (repo : Repository) : Bool × Repository :=
  match executed, robot.machineID with
  | false, _ => (false, repo)
  -- no row compares equal to NULL
  | true, none => (true, repo)
  | true, some machineID => (true, repo.erase machineID)

def updateRobot (executed : Bool) (robot : RobotEntry) (repo : Repository) :
    Bool × Repository :=
  match executed, robot.machineID, robot.address with
  | false, _, _ => (false, repo)
  | true, none, _ => (true, repo)
  -- the statement fails as soon as there is a row to set the address of
  | true, some machineID, none => ((repo.find machineID).isNone, repo)
  | true, some machineID, some address =>
    (true, repo.amend machineID (fun row => { row with
      name := robot.name
      address := address
      port := robot.port
      portForAnswer := robot.portForAnswer }) fun _ => rfl)

def addRobot (executed : Bool) (robot : RobotEntry) (repo : Repository) : Bool × Repository :=
  match executed, robot.machineID, robot.address with
  | true, some machineID, some address =>
    ((repo.find machineID).isNone,
      repo.insertNew ⟨machineID, robot.name, address, robot.port, robot.portForAnswer,
        robot.macAddress⟩)
  | _, _, _ => (false, repo)

/-- One turn of the loop of `addRobots`, which skips a null pointer. -/
def insertNext (executed : RobotEntry → Bool) (repo : Repository) : Option RobotEntry → Repository
  | none => repo
  | some robot =>
    match executed robot, robot.machineID, robot.address with
    | true, some machineID, some address =>
      repo.insertNew ⟨machineID, robot.name, address, robot.port, robot.portForAnswer,
        robot.macAddress⟩
    | _, _, _ => repo

/-- The transaction begins and commits or does not, and the insertion of each
entry can be executed or not. -/
def addRobots (begun : Bool) (executed : RobotEntry → Bool) (committed : Bool)
    (robots : List (Option RobotEntry)) (repo : Repository) : Bool × Repository :=
  if begun then (committed, robots.foldl (insertNext executed) repo) else (false, repo)

/-- The entry that `loadRobots` makes of a row: the stored address is the text
of an address and reads back as that text. -/
def Row.toEntry (row : Row) : RobotEntry :=
  ⟨row.name, some row.machineID, some row.address, row.port, row.portForAnswer, row.macAddress⟩

def loadRobots (executed : Bool) (repo : Repository) : List RobotEntry :=
  if executed then repo.rows.map Row.toEntry else []

/-! ### Statements with criteria -/

/-- The columns that a condition can name. -/
inductive Column where
  | machineID
  | name
  | address
  | macAddress
  deriving DecidableEq

def Row.value (row : Row) : Column → String
  | .machineID => row.machineID
  | .name => row.name
  | .address => row.address
  | .macAddress => row.macAddress

/-- Conditions `column = :placeholder`, joined by `AND`. Without any the
statement has no `WHERE`. -/
abbrev Conditions := List (Column × String)

/-- The values bound to the placeholders. One without a value is NULL, which
nothing is equal to. -/
abbrev Bindings := List (String × String)

def selects (conditions : Conditions) (bindings : Bindings) (row : Row) : Bool :=
  conditions.all fun condition => bindings.lookup condition.2 = some (row.value condition.1)

/-- The parameters of `searchRobots` and `deleteRobots`; a null string is empty. -/
structure Criteria where
  machineID : String
  name : String
  address : String
  macAddress : String
  deriving DecidableEq

/-- What `if (!field.isEmpty())` adds to a list. -/
def unlessEmpty {α : Type} (field : String) (added : α) : List α :=
  if field.isEmpty then [] else [added]

def searchConditions (c : Criteria) : Conditions :=
  unlessEmpty c.machineID (.machineID, ":machineID") ++
    unlessEmpty c.name (.name, ":name") ++
    unlessEmpty c.address (.address, ":address") ++
    unlessEmpty c.macAddress (.macAddress, ":macAddress")

def searchBindings (c : Criteria) : Bindings :=
  unlessEmpty c.machineID (":machineID", c.machineID) ++
    unlessEmpty c.name (":name", c.name) ++
    unlessEmpty c.address (":address", c.address) ++
    unlessEmpty c.macAddress (":macAddress", c.macAddress)

def searchRobots (executed : Bool) (c : Criteria) (repo : Repository) : List RobotEntry :=
  if executed then
    (repo.rows.filter (selects (searchConditions c) (searchBindings c))).map Row.toEntry
  else []

def deleteConditions (c : Criteria) : Conditions :=
  unlessEmpty c.machineID (.machineID, ":machineID") ++
    unlessEmpty c.name (.name, ":name") ++
    unlessEmpty c.address (.address, ":address") ++
    unlessEmpty c.macAddress (.macAddress, ":macAddress")

def deleteBindings (c : Criteria) : Bindings :=
  unlessEmpty c.machineID (":machineID", c.machineID) ++
    unlessEmpty c.name (":name", c.name) ++
    unlessEmpty c.address (":address", c.address) ++
    unlessEmpty c.macAddress (":macAddress", c.macAddress)

def deleteRobots (executed : Bool) (c : Criteria) (repo : Repository) : Bool × Repository :=
  if executed then (true, repo.eraseWhere (selects (deleteConditions c) (deleteBindings c)))
  else (false, repo)

/-- The repository has exactly one row for the machine, and its name is `name`. -/
def NamedOnce (repo : Repository) (machineID name : String) : Prop :=
  ∃ row, (repo.rows.filter fun row => row.machineID = machineID) = [row] ∧ row.name = name

theorem namedOnce_iff {repo : Repository} {machineID name : String} :
    NamedOnce repo machineID name ↔ (repo.find machineID).map Row.name = some name := by
  unfold NamedOnce
  rw [UniqueRows.filter_key]
  cases repo.find machineID with
  | none => simp
  | some row => simp [eq_comm]

section Executed
variable {repo : Repository} {robot : RobotEntry} {machineID address : String}

theorem deleteRobot_find (h : robot.machineID = some machineID) :
    (deleteRobot true robot repo).2.find machineID = none := by
  simp [deleteRobot, h, UniqueRows.find_erase]

theorem addRobot_find (h : robot.machineID = some machineID) (ha : robot.address = some address)
    (free : repo.find machineID = none) :
    ((addRobot true robot repo).2.find machineID).map Row.name = some robot.name := by
  simp [addRobot, h, ha, UniqueRows.find_insertNew, free]

theorem updateRobot_find (h : robot.machineID = some machineID)
    (ha : robot.address = some address) :
    ((updateRobot true robot repo).2.find machineID).map Row.name
      = (repo.find machineID).map fun _ => robot.name := by
  simp [updateRobot, h, ha, UniqueRows.find_amend, Option.map_map, Function.comp_def]

end Executed

end RobotRepository
