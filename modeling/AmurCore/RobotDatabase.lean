import AmurCore.GuardedRows
import AmurCore.RobotRepository

/-!
# The database of the robots

`RobotRepository` over the file that it opens. The file may hold a table of robots
that was made without the constraint on machine IDs, and then may have duplicates of
them; `createTableIfNotExists` leaves such a table as it is and looks for duplicates
before it asks for a unique index.

Nothing rolls back a transaction whose commit fails. Unless the failure itself has done
so, it stays open, and with it whatever is written later; only a new connection sees the
file as it was. A statement that fails is taken to leave an open transaction open.
-/

namespace RobotDatabase

open RobotRepository

abbrev RobotTable := GuardedRows Row.machineID

structure Database where
  /-- The table in the file, if there is one, with what an open transaction has written. -/
  file : Option RobotTable
  /-- `m_db.isOpen()` -/
  isOpen : Bool
  /-- The file without the open transaction, if there is one. -/
  committed : Option (Option RobotTable)

def rowsOf : Option RobotTable → List Row
  | none => []
  | some table => table.rows

/-- The rows that the statements see. -/
def Database.rows (db : Database) : List Row := rowsOf db.file

/-- What a new connection finds in the file. -/
def Database.saved (db : Database) : Option RobotTable := db.committed.getD db.file

def Database.savedRows (db : Database) : List Row := rowsOf db.saved

/-! ### Opening -/

inductive IndexStatement where
  | uniqueMachineID
  | address
  | name
  | macAddress
  deriving DecidableEq

/-- `statement.contains("UNIQUE INDEX")` -/
def IndexStatement.isUnique : IndexStatement → Bool
  | .uniqueMachineID => true
  | _ => false

def indexStatements : List IndexStatement := [.uniqueMachineID, .address, .name, .macAddress]

/-- Whether the database could be opened, and each statement executed as far as the
table allows it. -/
structure Opening where
  opened : Bool
  created : Bool
  checked : Bool
  indexed : IndexStatement → Bool

def Opening.succeeds : Opening := ⟨true, true, true, fun _ => true⟩

/-- An index that is not unique changes nothing that is modelled here. -/
def execIndex (sql : Opening) (statement : IndexStatement) (table : RobotTable) :
    Option RobotTable :=
  match sql.indexed statement, statement.isUnique with
  | false, _ => none
  | true, false => some table
  | true, true => table.guard

/-- One turn of the loop over the statements, with `allIndexesOk` and the table. -/
def createIndex (sql : Opening) (hasDuplicateMachineIds : Bool) (s : Bool × RobotTable)
    (statement : IndexStatement) : Bool × RobotTable :=
  if hasDuplicateMachineIds && statement.isUnique then s
  else
    match execIndex sql statement s.2 with
    | none => (false, s.2)
    | some table => (s.1, table)

/-- The query for machine IDs that two rows have. -/
def duplicated (table : RobotTable) : Bool := !decide (table.rows.map Row.machineID).Nodup

def createTableIfNotExists (sql : Opening) (file : Option RobotTable) :
    Bool × Option RobotTable :=
  if sql.created then
    let table := file.getD .empty
    let hasDuplicateMachineIds := sql.checked && duplicated table
    let (allIndexesOk, table) :=
      indexStatements.foldl (createIndex sql hasDuplicateMachineIds) (true, table)
    (allIndexesOk, some table)
  else (false, file)

/-- A database that is open already is closed and opened again. -/
def openDatabase (sql : Opening) (db : Database) : Bool × Database :=
  if sql.opened then
    let (created, file) := createTableIfNotExists sql db.saved
    (created, ⟨file, created, none⟩)
  else (false, ⟨db.saved, false, none⟩)

/-! ### Statements -/

/-- A statement cannot be executed while the database is not open, or without a table. -/
def exec {β : Type} (executed : Bool) (failed : β) (statement : RobotTable → β × RobotTable)
    (db : Database) : β × Database :=
  match db.isOpen && executed, db.file with
  | true, some table =>
    let (reply, table) := statement table
    (reply, { db with file := some table })
  | _, _ => (failed, db)

def robotExists (executed : Bool) (machineID : Option String) (db : Database) : Bool :=
  (exec executed false (fun table =>
    (table.rows.any fun row => some row.machineID = machineID, table)) db).1

def deleteRobot (executed : Bool) (robot : RobotEntry) : Database → Bool × Database :=
  exec executed false fun table =>
    match robot.machineID with
    | none => (true, table)
    | some machineID => (true, table.eraseWhere fun row => row.machineID = machineID)

/-- The columns that `UPDATE` sets. -/
def setColumns (robot : RobotEntry) (address : String) (row : Row) : Row :=
  { row with
    name := robot.name
    address := address
    port := robot.port
    portForAnswer := robot.portForAnswer }

theorem setColumns_machineID (robot : RobotEntry) (address : String) (row : Row) :
    (setColumns robot address row).machineID = row.machineID := rfl

def updateRobot (executed : Bool) (robot : RobotEntry) : Database → Bool × Database :=
  exec executed false fun table =>
    match robot.machineID with
    | none => (true, table)
    | some machineID =>
      match robot.address with
      -- the statement fails as soon as there is a row to set the address of
      | none => (!(table.rows.any fun row => row.machineID = machineID), table)
      | some address =>
        (true,
          table.amend machineID (setColumns robot address) (setColumns_machineID robot address))

/-- The row that `INSERT` is given, and whether it was inserted. -/
def insertRow (robot : RobotEntry) (table : RobotTable) : Bool × RobotTable :=
  match robot.machineID, robot.address with
  | some machineID, some address =>
    table.insertOrIgnore ⟨machineID, robot.name, address, robot.port, robot.portForAnswer,
      robot.macAddress⟩
  | _, _ => (false, table)

def addRobot (executed : Bool) (robot : RobotEntry) : Database → Bool × Database :=
  exec executed false (insertRow robot)

/-- How the `COMMIT` of a transaction ends. -/
inductive Commit where
  | done
  /-- It fails, and the transaction stays open. -/
  | refused
  /-- It fails, and the transaction is rolled back. -/
  | rolledBack
  deriving DecidableEq

/-- A transaction cannot begin while one is open. -/
def addRobots (begun : Bool) (executed : RobotEntry → Bool) (commit : Commit)
    (robots : List (Option RobotEntry)) (db : Database) : Bool × Database :=
  if db.isOpen && (begun && db.committed.isNone) then
    let inserted := robots.foldl (fun db robot =>
      match robot with
      | none => db
      | some robot => (addRobot (executed robot) robot db).2) db
    match commit with
    | .done => (true, inserted)
    | .refused => (false, { inserted with committed := some db.file })
    | .rolledBack => (false, db)
  else (false, db)

def loadRobots (executed : Bool) (db : Database) : List RobotEntry :=
  (exec executed [] (fun table => (table.rows.map Row.toEntry, table)) db).1

def searchRobots (executed : Bool) (c : Criteria) (db : Database) : List RobotEntry :=
  (exec executed [] (fun table =>
    ((table.rows.filter (selects (searchConditions c) (searchBindings c))).map Row.toEntry,
      table)) db).1

def deleteRobots (executed : Bool) (c : Criteria) : Database → Bool × Database :=
  exec executed false fun table =>
    (true, table.eraseWhere (selects (deleteConditions c) (deleteBindings c)))

/-! ### Runs -/

inductive Event where
  | openDatabase (sql : Opening)
  | robotExists (executed : Bool) (machineID : Option String)
  | deleteRobot (executed : Bool) (robot : RobotEntry)
  | updateRobot (executed : Bool) (robot : RobotEntry)
  | addRobot (executed : Bool) (robot : RobotEntry)
  | addRobots (begun : Bool) (executed : RobotEntry → Bool) (commit : Commit)
      (robots : List (Option RobotEntry))
  | loadRobots (executed : Bool)
  | searchRobots (executed : Bool) (c : Criteria)
  | deleteRobots (executed : Bool) (c : Criteria)

/-- What a call returns. -/
inductive Reply where
  | success (ok : Bool)
  | robots (found : List RobotEntry)
  deriving DecidableEq

def call (db : Database) : Event → Reply × Database
  | .openDatabase sql => (openDatabase sql db).map .success id
  | .robotExists executed machineID => (.success (robotExists executed machineID db), db)
  | .deleteRobot executed robot => (deleteRobot executed robot db).map .success id
  | .updateRobot executed robot => (updateRobot executed robot db).map .success id
  | .addRobot executed robot => (addRobot executed robot db).map .success id
  | .addRobots begun executed commit robots =>
    (addRobots begun executed commit robots db).map .success id
  | .loadRobots executed => (.robots (loadRobots executed db), db)
  | .searchRobots executed c => (.robots (searchRobots executed c db), db)
  | .deleteRobots executed c => (deleteRobots executed c db).map .success id

def step (db : Database) (e : Event) : Database := (call db e).2

def reply (db : Database) (e : Event) : Reply := (call db e).1

end RobotDatabase
