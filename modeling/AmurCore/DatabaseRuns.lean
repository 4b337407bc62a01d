import AmurCore.EventRuns
import AmurCore.RobotDatabase
import AmurCore.RobotSearch
import AmurCore.RobotStore

/-!
# Runs of the database

A database that an opening found without duplicates is from then on the repository
with unique machine IDs, whatever is called and whatever fails. What is written after
a commit that failed may be gone at the next opening, of both alike. Of a database that
was opened with duplicates nothing keeps a robot from being added once more.
-/

namespace DatabaseRuns

open EventRuns RobotRepository RobotDatabase

/-! ### The repository -/

/-- The repository, which has unique machine IDs. -/
structure Store where
  isOpen : Bool
  repo : Repository
  /-- What it is without an open transaction. -/
  committed : Option Repository

namespace Store

/-- What the next opening finds. -/
def saved (s : Store) : Repository := s.committed.getD s.repo

/-- A batch in a transaction. -/
def addRobots (begun : Bool) (executed : RobotEntry → Bool) (commit : Commit)
    (robots : List (Option RobotEntry)) (s : Store) : Bool × Store :=
  if s.isOpen && (begun && s.committed.isNone) then
    let (ok, repo) := RobotRepository.addRobots true executed (commit = .done) robots s.repo
    match commit with
    | .done => (ok, { s with repo := repo })
    | .refused => (ok, { s with repo := repo, committed := some s.repo })
    | .rolledBack => (ok, s)
  else (false, s)

def change (statement : Repository → Bool × Repository) (s : Store) : Reply × Store :=
  let (ok, repo) := statement s.repo
  (.success ok, { s with repo := repo })

def call (s : Store) : Event → Reply × Store
  | .openDatabase sql =>
    let ok := sql.opened && sql.created && indexStatements.all sql.indexed
    (.success ok, ⟨ok, s.saved, none⟩)
  | .robotExists executed machineID =>
    (.success (RobotRepository.robotExists (s.isOpen && executed) machineID s.repo), s)
  | .deleteRobot executed robot =>
    s.change (RobotRepository.deleteRobot (s.isOpen && executed) robot)
  | .updateRobot executed robot =>
    s.change (RobotRepository.updateRobot (s.isOpen && executed) robot)
  | .addRobot executed robot => s.change (RobotRepository.addRobot (s.isOpen && executed) robot)
  | .addRobots begun executed commit robots =>
    (s.addRobots begun executed commit robots).map .success id
  | .loadRobots executed => (.robots (RobotRepository.loadRobots (s.isOpen && executed) s.repo), s)
  | .searchRobots executed c =>
    (.robots (RobotRepository.searchRobots (s.isOpen && executed) c s.repo), s)
  | .deleteRobots executed c => s.change (RobotRepository.deleteRobots (s.isOpen && executed) c)

def step (s : Store) (e : Event) : Store := (s.call e).2

def reply (s : Store) (e : Event) : Reply := (s.call e).1

end Store

/-- The file has the table of the repository. -/
def Keeps (file : Option RobotTable) (repo : Repository) : Prop :=
  ∃ table, file = some table ∧ table.Guards repo

/-- The database is the repository. -/
structure Holds (db : Database) (s : Store) : Prop where
  isOpen : db.isOpen = s.isOpen
  table : Keeps db.file s.repo
  committed : Option.Rel Keeps db.committed s.committed

theorem Holds.rows {db : Database} {s : Store} (h : Holds db s) : db.rows = s.repo.rows := by
  obtain ⟨table, file, guards⟩ := h.table
  rw [Database.rows, file]
  exact guards.rows

theorem Holds.saved {db : Database} {s : Store} (h : Holds db s) : Keeps db.saved s.saved := by
  have committed := h.committed
  rw [Database.saved, Store.saved]
  generalize db.committed = before at committed ⊢
  generalize s.committed = before' at committed ⊢
  cases committed with
  | some keeps => exact keeps
  | none => exact h.table

theorem Holds.transaction {db : Database} {s : Store} (h : Holds db s) :
    db.committed.isNone = s.committed.isNone := by
  have committed := h.committed
  generalize db.committed = before at committed ⊢
  generalize s.committed = before' at committed ⊢
  cases committed with
  | some keeps => rfl
  | none => rfl

/-! ### Openings -/

section Openings
variable (sql : Opening) {table : RobotTable} {statement : IndexStatement}

/-- An index that is not unique leaves the table. -/
theorem createIndex_plain (plain : statement.isUnique = false) (duplicates ok : Bool)
    (table : RobotTable) :
    createIndex sql duplicates (ok, table) statement = (ok && sql.indexed statement, table) := by
  rw [createIndex, plain, Bool.and_false, if_neg Bool.false_ne_true, execIndex, plain]
  cases sql.indexed statement with
  | false => rw [Bool.and_false]
  | true => rw [Bool.and_true]

/-- Only the unique index can leave another table. -/
theorem createIndexes_eq (duplicates : Bool) (table : RobotTable) :
    indexStatements.foldl (createIndex sql duplicates) (true, table) =
      ((createIndex sql duplicates (true, table) .uniqueMachineID).1 && sql.indexed .address &&
          sql.indexed .name && sql.indexed .macAddress,
        (createIndex sql duplicates (true, table) .uniqueMachineID).2) := by
  generalize first : createIndex sql duplicates (true, table) .uniqueMachineID = made
  obtain ⟨ok, made⟩ := made
  have address : IndexStatement.address.isUnique = false := rfl
  have name : IndexStatement.name.isUnique = false := rfl
  have macAddress : IndexStatement.macAddress.isUnique = false := rfl
  rw [indexStatements, List.foldl_cons, first, List.foldl_cons, createIndex_plain sql address,
    List.foldl_cons, createIndex_plain sql name, List.foldl_cons,
    createIndex_plain sql macAddress, List.foldl_nil]

/-- The unique index is asked for unless the query found duplicates. -/
theorem createIndex_unique (duplicates : Bool) (table : RobotTable) :
    createIndex sql duplicates (true, table) .uniqueMachineID =
      if duplicates then (true, table)
      else if sql.indexed .uniqueMachineID then (table.guard.isSome, table.guard.getD table)
      else (false, table) := by
  cases duplicates with
  | true => rfl
  | false =>
    have unique : IndexStatement.uniqueMachineID.isUnique = true := rfl
    rw [createIndex, Bool.false_and, if_neg Bool.false_ne_true, execIndex, unique]
    cases sql.indexed .uniqueMachineID with
    | false => rfl
    | true => cases table.guard <;> rfl

theorem duplicated_iff {table : RobotTable} :
    duplicated table = false ↔ (table.rows.map Row.machineID).Nodup := by
  rw [duplicated, Bool.not_eq_false', decide_eq_true_iff]

/-- A guarded table is left as it is. -/
theorem createIndex_guarded (guarded : table.guarded = true) :
    createIndex sql (sql.checked && duplicated table) (true, table) .uniqueMachineID
      = (sql.indexed .uniqueMachineID, table) := by
  have no_duplicates : duplicated table = false := duplicated_iff.mpr (table.unique guarded)
  have again : table.guard = some table := GuardedRows.guard_eq_some_iff.mpr ⟨rfl, guarded⟩
  rw [createIndex_unique, no_duplicates, Bool.and_false, again]
  cases sql.indexed .uniqueMachineID <;> rfl

/-- If the statements succeed, then the table is guarded unless it has duplicates. -/
theorem createIndex_guards {ok : Bool} {table' : RobotTable}
    (made : createIndex sql (sql.checked && duplicated table) (true, table) .uniqueMachineID
      = (ok, table')) (succeeded : ok = true) :
    table'.rows = table.rows ∧
      (table'.guarded = true ↔ (table.rows.map Row.machineID).Nodup) := by
  subst succeeded
  rw [createIndex_unique] at made
  split at made
  · rename_i found
    cases made
    have duplicates : ¬(table.rows.map Row.machineID).Nodup := fun distinct => by
      rw [duplicated_iff.mpr distinct, Bool.and_false] at found
      cases found
    exact ⟨rfl, iff_of_false (fun guarded => duplicates (table.unique guarded)) duplicates⟩
  · split at made
    · obtain ⟨guards, same⟩ := Prod.mk.inj made
      obtain ⟨guarded_table, guard⟩ := Option.isSome_iff_exists.mp guards
      rw [guard, Option.getD_some] at same
      subst same
      obtain ⟨rows, guarded⟩ := GuardedRows.guard_eq_some_iff.mp guard
      have distinct := guarded_table.unique guarded
      rw [rows] at distinct
      exact ⟨rows, iff_of_true guarded distinct⟩
    · cases made

theorem createTable_guards {file file' : Option RobotTable}
    (created : createTableIfNotExists sql file = (true, file')) :
    ∃ table, file' = some table ∧ table.rows = (file.getD .empty).rows ∧
      (table.guarded = true ↔ ((file.getD .empty).rows.map Row.machineID).Nodup) := by
  rw [createTableIfNotExists] at created
  split at created
  · simp only [createIndexes_eq] at created
    generalize made : createIndex sql (sql.checked && duplicated (file.getD .empty))
      (true, file.getD .empty) .uniqueMachineID = result at created
    obtain ⟨ok, table⟩ := result
    obtain ⟨succeeded, rfl⟩ := Prod.mk.inj created
    have unique_made : ok = true := by
      simp only [Bool.and_eq_true] at succeeded
      exact succeeded.1.1.1
    exact ⟨table, rfl, createIndex_guards sql made unique_made⟩
  · cases created

theorem getD_rows (db : Database) : (db.saved.getD .empty).rows = db.savedRows := by
  rw [Database.savedRows]
  cases db.saved <;> rfl

/-- A successful opening leaves the rows, and a guard exactly if they have no
duplicates. -/
theorem openDatabase_guards {db : Database} (succeeds : (openDatabase sql db).1 = true) :
    ∃ table, (openDatabase sql db).2 = ⟨some table, true, none⟩ ∧ table.rows = db.savedRows ∧
      (table.guarded = true ↔ (db.savedRows.map Row.machineID).Nodup) := by
  generalize created : createTableIfNotExists sql db.saved = result
  obtain ⟨ok, file⟩ := result
  rw [openDatabase, created] at succeeds ⊢
  cases opened : sql.opened with
  | false =>
    rw [opened] at succeeds
    cases succeeds
  | true =>
    rw [opened] at succeeds
    have ok_true : ok = true := succeeds
    subst ok_true
    obtain ⟨table, rfl, guards⟩ := createTable_guards sql created
    rw [getD_rows] at guards
    exact ⟨table, rfl, guards⟩

/-- An opening of a guarded table succeeds if all its statements do. -/
theorem openDatabase_holds {db : Database} {s : Store} (h : Holds db s) :
    (openDatabase sql db).1 = (sql.opened && sql.created && indexStatements.all sql.indexed) ∧
      Holds (openDatabase sql db).2
        ⟨sql.opened && sql.created && indexStatements.all sql.indexed, s.saved, none⟩ := by
  obtain ⟨table, file, guards⟩ := h.saved
  have guarded : table.guarded = true := guards.1
  have all : indexStatements.all sql.indexed = (sql.indexed .uniqueMachineID &&
      sql.indexed .address && sql.indexed .name && sql.indexed .macAddress) := by
    simp [indexStatements, Bool.and_assoc]
  have created : createTableIfNotExists sql db.saved
      = (sql.created && indexStatements.all sql.indexed, some table) := by
    rw [createTableIfNotExists, file, Option.getD_some]
    cases sql.created with
    | false => rfl
    | true =>
      simp only [if_true, createIndexes_eq, createIndex_guarded sql guarded, Bool.true_and, all]
  rw [openDatabase, created]
  cases sql.opened with
  | false =>
    simp only [Bool.false_and, Bool.false_eq_true, if_false]
    exact ⟨trivial, rfl, ⟨table, file, guards⟩, .none⟩
  | true => exact ⟨rfl, rfl, ⟨table, rfl, guards⟩, .none⟩

end Openings

/-! ### Statements -/

section Statements
variable {db : Database} {s : Store}

/-- A statement that agrees on guarded tables with one of the repository agrees
with it on databases. -/
theorem exec_holds (h : Holds db s) {executed : Bool} {β : Type} {failed : β}
    {statement : RobotTable → β × RobotTable} {f : Bool → Repository → β × Repository}
    (fails : f false s.repo = (failed, s.repo))
    (agrees : ∀ table : RobotTable, table.Guards s.repo →
      (statement table).1 = (f true s.repo).1 ∧
        (statement table).2.Guards (f true s.repo).2) :
    (exec executed failed statement db).1 = (f (s.isOpen && executed) s.repo).1 ∧
      Holds (exec executed failed statement db).2
        { s with repo := (f (s.isOpen && executed) s.repo).2 } := by
  obtain ⟨table, file, guards⟩ := h.table
  rw [exec, h.isOpen, file]
  cases runs : s.isOpen && executed with
  | false =>
    rw [fails]
    exact ⟨rfl, h⟩
  | true =>
    obtain ⟨same, still⟩ := agrees table guards
    exact ⟨same, rfl, ⟨(statement table).2, rfl, still⟩, h.committed⟩

theorem any_machineID (repo : Repository) (machineID : String) :
    (repo.rows.any fun row => row.machineID = machineID) = (repo.find machineID).isSome := by
  rw [Bool.eq_iff_iff, UniqueRows.find, List.find?_isSome, List.any_eq_true]

theorem robotExists_holds (h : Holds db s) (executed : Bool) (machineID : Option String) :
    RobotDatabase.robotExists executed machineID db
      = RobotRepository.robotExists (s.isOpen && executed) machineID s.repo := by
  refine (exec_holds h (f := fun executed repo =>
    (RobotRepository.robotExists executed machineID repo, repo)) rfl ?_).1
  intro table guards
  refine ⟨?_, guards⟩
  rw [guards.rows, RobotRepository.robotExists, Bool.true_and]
  cases machineID with
  | none => simp
  | some machineID => simpa using any_machineID s.repo machineID

theorem deleteRobot_holds (h : Holds db s) (executed : Bool) (robot : RobotEntry) :
    (RobotDatabase.deleteRobot executed robot db).1
        = (RobotRepository.deleteRobot (s.isOpen && executed) robot s.repo).1 ∧
      Holds (RobotDatabase.deleteRobot executed robot db).2
        { s with repo := (RobotRepository.deleteRobot (s.isOpen && executed) robot s.repo).2 } := by
  refine exec_holds h (f := fun executed => RobotRepository.deleteRobot executed robot)
    rfl ?_
  intro table guards
  simp only [RobotRepository.deleteRobot]
  cases robot.machineID with
  | none => exact ⟨rfl, guards⟩
  | some machineID =>
    exact ⟨rfl, guards.eraseWhere fun row => row.machineID = machineID⟩

theorem updateRobot_holds (h : Holds db s) (executed : Bool) (robot : RobotEntry) :
    (RobotDatabase.updateRobot executed robot db).1
        = (RobotRepository.updateRobot (s.isOpen && executed) robot s.repo).1 ∧
      Holds (RobotDatabase.updateRobot executed robot db).2
        { s with repo := (RobotRepository.updateRobot (s.isOpen && executed) robot s.repo).2 } := by
  refine exec_holds h (f := fun executed => RobotRepository.updateRobot executed robot)
    rfl ?_
  intro table guards
  cases id : robot.machineID with
  | none => simpa [RobotRepository.updateRobot, id] using guards
  | some machineID =>
    cases text : robot.address with
    | none =>
      have missing : (!s.repo.rows.any fun row => decide (row.machineID = machineID))
          = (s.repo.find machineID).isNone := by
        rw [any_machineID, Option.not_isSome]
      simp only [RobotRepository.updateRobot, id, text, guards.rows]
      exact ⟨missing, guards⟩
    | some address =>
      simp only [RobotRepository.updateRobot, id, text]
      exact ⟨trivial, guards.amend machineID _ _⟩

theorem insertRow_holds {table : RobotTable} {repo : Repository} (guards : table.Guards repo)
    (robot : RobotEntry) :
    (insertRow robot table).1 = (RobotRepository.addRobot true robot repo).1 ∧
      (insertRow robot table).2.Guards (RobotRepository.addRobot true robot repo).2 := by
  cases id : robot.machineID with
  | none => simpa [insertRow, RobotRepository.addRobot, id] using guards
  | some machineID =>
    cases text : robot.address with
    | none => simpa [insertRow, RobotRepository.addRobot, id, text] using guards
    | some address =>
      simp only [insertRow, RobotRepository.addRobot, id, text]
      exact guards.insertOrIgnore _

theorem addRobot_holds (h : Holds db s) (executed : Bool) (robot : RobotEntry) :
    (RobotDatabase.addRobot executed robot db).1
        = (RobotRepository.addRobot (s.isOpen && executed) robot s.repo).1 ∧
      Holds (RobotDatabase.addRobot executed robot db).2
        { s with repo := (RobotRepository.addRobot (s.isOpen && executed) robot s.repo).2 } := by
  refine exec_holds h (f := fun executed => RobotRepository.addRobot executed robot)
    rfl ?_
  exact fun table guards => insertRow_holds guards robot

theorem insertions_hold (h : Holds db s) (opened : s.isOpen = true)
    (executed : RobotEntry → Bool) (robots : List (Option RobotEntry)) :
    Holds (robots.foldl (fun db robot =>
        match robot with
        | none => db
        | some robot => (RobotDatabase.addRobot (executed robot) robot db).2) db)
      { s with repo := robots.foldl (insertNext executed) s.repo } := by
  induction robots generalizing db s with
  | nil => exact h
  | cons robot robots ih =>
    cases robot with
    | none => exact ih h opened
    | some robot =>
      have runs : (s.isOpen && executed robot) = executed robot := by rw [opened, Bool.true_and]
      have inserted := (addRobot_holds h (executed robot) robot).2
      rw [runs] at inserted
      rw [List.foldl_cons, List.foldl_cons, RobotStore.insertNext_some]
      exact ih inserted opened

/-- A batch inserts what single insertions would, and so does one that is not committed
until the database is opened again. -/
theorem addRobots_holds (h : Holds db s) (begun : Bool) (executed : RobotEntry → Bool)
    (commit : Commit) (robots : List (Option RobotEntry)) :
    (RobotDatabase.addRobots begun executed commit robots db).1
        = (s.addRobots begun executed commit robots).1 ∧
      Holds (RobotDatabase.addRobots begun executed commit robots db).2
        (s.addRobots begun executed commit robots).2 := by
  rw [RobotDatabase.addRobots, Store.addRobots, h.isOpen, h.transaction]
  split
  · rename_i begins
    rw [Bool.and_eq_true] at begins
    have inserted := insertions_hold h begins.1 executed robots
    cases commit with
    | done => exact ⟨rfl, inserted⟩
    | refused => exact ⟨rfl, inserted.isOpen, inserted.table, .some h.table⟩
    | rolledBack => exact ⟨rfl, h⟩
  · exact ⟨rfl, h⟩

theorem deleteRobots_holds (h : Holds db s) (executed : Bool) (c : Criteria) :
    (RobotDatabase.deleteRobots executed c db).1
        = (RobotRepository.deleteRobots (s.isOpen && executed) c s.repo).1 ∧
      Holds (RobotDatabase.deleteRobots executed c db).2
        { s with repo := (RobotRepository.deleteRobots (s.isOpen && executed) c s.repo).2 } := by
  refine exec_holds h (f := fun executed => RobotRepository.deleteRobots executed c)
    rfl ?_
  exact fun table guards => ⟨rfl, guards.eraseWhere _⟩

/-- Searching and deleting by the same criteria select the same rows, also of a table with
duplicates. -/
theorem deleteRobots_split (executed : Bool) (c : Criteria)
    (succeeded : (RobotDatabase.deleteRobots executed c db).1 = true) :
    (RobotDatabase.deleteRobots executed c db).2.rows
        = db.rows.filter (fun row => row.toEntry ∉ RobotDatabase.searchRobots true c db) ∧
      RobotDatabase.searchRobots true c (RobotDatabase.deleteRobots executed c db).2 = [] ∧
      (RobotDatabase.searchRobots true c db ++
          RobotDatabase.loadRobots true (RobotDatabase.deleteRobots executed c db).2).Perm
        (RobotDatabase.loadRobots true db) := by
  obtain ⟨file, isOpen, committed⟩ := db
  cases file with
  | none => cases isOpen <;> cases executed <;> cases succeeded
  | some table =>
    cases isOpen with
    | false => cases succeeded
    | true =>
      cases executed with
      | false => cases succeeded
      | true => exact RobotSearch.rows_split c table.rows

theorem loadRobots_holds (h : Holds db s) (executed : Bool) :
    RobotDatabase.loadRobots executed db
      = RobotRepository.loadRobots (s.isOpen && executed) s.repo := by
  refine (exec_holds h (f := fun executed repo =>
    (RobotRepository.loadRobots executed repo, repo)) rfl ?_).1
  intro table guards
  refine ⟨?_, guards⟩
  rw [guards.rows]
  rfl

theorem searchRobots_holds (h : Holds db s) (executed : Bool) (c : Criteria) :
    RobotDatabase.searchRobots executed c db
      = RobotRepository.searchRobots (s.isOpen && executed) c s.repo := by
  refine (exec_holds h (f := fun executed repo =>
    (RobotRepository.searchRobots executed c repo, repo)) rfl ?_).1
  intro table guards
  refine ⟨?_, guards⟩
  rw [guards.rows]
  rfl

/-- Every call replies what the repository replies, and keeps being the repository. -/
theorem call_holds (h : Holds db s) (e : Event) :
    RobotDatabase.reply db e = s.reply e ∧ Holds (RobotDatabase.step db e) (s.step e) := by
  cases e with
  | openDatabase sql =>
    obtain ⟨same, holds⟩ := openDatabase_holds sql h
    exact ⟨congrArg Reply.success same, holds⟩
  | robotExists executed machineID =>
    exact ⟨congrArg Reply.success (robotExists_holds h executed machineID), h⟩
  | deleteRobot executed robot =>
    obtain ⟨same, holds⟩ := deleteRobot_holds h executed robot
    exact ⟨congrArg Reply.success same, holds⟩
  | updateRobot executed robot =>
    obtain ⟨same, holds⟩ := updateRobot_holds h executed robot
    exact ⟨congrArg Reply.success same, holds⟩
  | addRobot executed robot =>
    obtain ⟨same, holds⟩ := addRobot_holds h executed robot
    exact ⟨congrArg Reply.success same, holds⟩
  | addRobots begun executed commit robots =>
    obtain ⟨same, holds⟩ := addRobots_holds h begun executed commit robots
    exact ⟨congrArg Reply.success same, holds⟩
  | loadRobots executed => exact ⟨congrArg Reply.robots (loadRobots_holds h executed), h⟩
  | searchRobots executed c => exact ⟨congrArg Reply.robots (searchRobots_holds h executed c), h⟩
  | deleteRobots executed c =>
    obtain ⟨same, holds⟩ := deleteRobots_holds h executed c
    exact ⟨congrArg Reply.success same, holds⟩

end Statements

/-! ### Runs -/

section Runs
variable {sql : Opening} {db : Database}

/-- The repository of a database without duplicates, when it has just been opened. -/
def openedStore (db : Database) (distinct : (db.savedRows.map Row.machineID).Nodup) : Store :=
  ⟨true, ⟨db.savedRows, distinct⟩, none⟩

theorem openDatabase_opens (succeeds : (openDatabase sql db).1 = true)
    (distinct : (db.savedRows.map Row.machineID).Nodup) :
    Holds (openDatabase sql db).2 (openedStore db distinct) := by
  obtain ⟨table, opened, rows, guards⟩ := openDatabase_guards sql succeeds
  rw [opened]
  have guarded : table.guarded = true := guards.mpr distinct
  have same : table.toUnique guarded = ⟨db.savedRows, distinct⟩ := by
    simp only [GuardedRows.toUnique, rows]
  exact ⟨rfl, ⟨table, rfl, guarded, same⟩, .none⟩

/-- The database and the repository reply the same along a run. -/
theorem run_holds {s : Store} (h : Holds db s) (events : List Event) :
    trace RobotDatabase.step (fun db e => [RobotDatabase.reply db e]) db events
        = trace Store.step (fun s e => [s.reply e]) s events ∧
      Holds (run RobotDatabase.step db events) (run Store.step s events) := by
  have matched : ∀ (db : Database) (s : Store) (e : Event), Holds db s →
      [RobotDatabase.reply db e] = [s.reply e] ∧ Holds (RobotDatabase.step db e) (s.step e) := by
    intro db s e holds
    obtain ⟨same, next⟩ := call_holds holds e
    exact ⟨by rw [same], next⟩
  exact trace_simulates matched h events

/-- A database that was opened without duplicates replies to every sequence of
calls what the repository with unique machine IDs replies, and ends with the same
rows: whatever fails, and however often it is opened again. -/
theorem replies_of_repository (succeeds : (openDatabase sql db).1 = true)
    (distinct : (db.savedRows.map Row.machineID).Nodup) (events : List Event) :
    trace RobotDatabase.step (fun db e => [RobotDatabase.reply db e]) (openDatabase sql db).2 events
        = trace Store.step (fun s e => [s.reply e]) (openedStore db distinct) events ∧
      (run RobotDatabase.step (openDatabase sql db).2 events).rows
        = (run Store.step (openedStore db distinct) events).repo.rows := by
  obtain ⟨replies, holds⟩ := run_holds (openDatabase_opens succeeds distinct) events
  exact ⟨replies, holds.rows⟩

/-- A batch that could not be committed is there until the next opening. -/
example :
    let robot : RobotEntry := ⟨"Amur", some "r1", some "10.0.0.7", 40001, 0, ""⟩
    trace Store.step (fun s e => [s.reply e]) ⟨true, UniqueRows.empty, none⟩
        [.addRobots true (fun _ => true) .refused [some robot], .loadRobots true,
          .openDatabase .succeeds, .loadRobots true]
      = [.success false, .robots [robot], .success true, .robots []] := by
  decide

/-- A robot that was saved once, in a table without the constraint. -/
def savedOnce : Database :=
  ⟨some ⟨[⟨"r1", "Amur", "10.0.0.7", 40001, 0, ""⟩], false, nofun⟩, false, none⟩

theorem savedOnce_replies :
    trace RobotDatabase.step (fun db e => [RobotDatabase.reply db e])
        (openDatabase .succeeds savedOnce).2
        [.addRobot true ⟨"Amur 2", some "r1", some "10.0.0.9", 40002, 0, ""⟩, .loadRobots true]
      = [.success false, .robots [⟨"Amur", some "r1", some "10.0.0.7", 40001, 0, ""⟩]] := by
  rw [(replies_of_repository (by decide) (by decide) _).1]
  decide

/-- Adding a robot whose machine ID has a row leaves the rows and returns `false`. -/
def AddsOnce (db : Database) : Prop :=
  ∀ executed robot row, row ∈ db.rows → robot.machineID = some row.machineID →
    (RobotDatabase.addRobot executed robot db).1 = false ∧
      (RobotDatabase.addRobot executed robot db).2.rows = db.rows

theorem Holds.addsOnce {s : Store} (h : Holds db s) : AddsOnce db := by
  intro executed robot row mem id
  obtain ⟨same, holds⟩ := addRobot_holds h executed robot
  rw [h.rows] at mem
  have taken : row.machineID ∈ s.repo.rows.map Row.machineID := List.mem_map_of_mem mem
  have found : s.repo.find row.machineID ≠ none :=
    fun none_found => UniqueRows.find_eq_none.mp none_found taken
  have ignored : (RobotRepository.addRobot (s.isOpen && executed) robot s.repo)
      = (false, s.repo) := by
    simp only [RobotRepository.addRobot]
    split
    · rename_i machineID address _ id' _
      have machine : machineID = row.machineID := Option.some.inj (id'.symm.trans id)
      subst machine
      have kept : s.repo.insertNew ⟨row.machineID, robot.name, address, robot.port,
          robot.portForAnswer, robot.macAddress⟩ = s.repo := dif_pos taken
      rw [kept, Option.isNone_eq_false_iff.mpr (Option.ne_none_iff_isSome.mp found)]
    · rfl
  rw [ignored] at same holds
  exact ⟨same, holds.rows.trans h.rows.symm⟩

/-- After a successful opening no sequence of calls leads to a state in which a
robot can be added a second time, exactly when the opening found no duplicates. -/
theorem added_once_iff (succeeds : (openDatabase sql db).1 = true) :
    (∀ events, AddsOnce (run RobotDatabase.step (openDatabase sql db).2 events)) ↔
      (db.savedRows.map Row.machineID).Nodup := by
  constructor
  · intro once
    by_contra duplicates
    obtain ⟨table, opened, rows, guards⟩ := openDatabase_guards sql succeeds
    have unguarded : ¬(table.guarded = true) := fun guarded => duplicates (guards.mp guarded)
    obtain ⟨row, rest, some_row⟩ : ∃ row rest, db.savedRows = row :: rest := by
      cases none_left : db.savedRows with
      | nil => exact absurd (none_left ▸ List.nodup_nil) duplicates
      | cons row rest => exact ⟨row, rest, rfl⟩
    -- the first row is inserted again
    have now := once [] true row.toEntry row
    rw [run_nil, opened] at now
    have mem : row ∈ (⟨some table, true, none⟩ : Database).rows := by
      show row ∈ table.rows
      rw [rows, some_row]
      exact List.mem_cons_self
    have inserted : (table.insertOrIgnore row).1 = true := by
      rw [GuardedRows.insertOrIgnore, dif_neg fun ignored => unguarded ignored.1]
    have ignored : (table.insertOrIgnore row).1 = false := (now mem rfl).1
    rw [inserted] at ignored
    cases ignored
  · intro distinct events
    exact (run_holds (openDatabase_opens succeeds distinct) events).2.addsOnce

/-- The robot was saved twice. -/
def savedTwice : Database :=
  ⟨some ⟨[⟨"r1", "Amur", "10.0.0.7", 40001, 0, ""⟩, ⟨"r1", "Amur 2", "10.0.0.9", 40002, 0, ""⟩],
    false, nofun⟩, false, none⟩

theorem savedTwice_added_again :
    ¬∀ events, AddsOnce (run RobotDatabase.step (openDatabase .succeeds savedTwice).2 events) :=
  fun once => absurd ((added_once_iff (by decide)).mp once) (by decide)

end Runs

end DatabaseRuns
