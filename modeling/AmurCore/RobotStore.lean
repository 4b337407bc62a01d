import Mathlib.Data.List.ReduceOption
import AmurCore.EventRuns
import AmurCore.RobotRepository

/-!
# The repository as a map

What the statements of `RobotRepository` do to the table as a map from machine
IDs to entries, over whole runs: an ID is bound to the entry of its first add
since it was last deleted. Both paths of insertion, one robot and a batch, go
through the same single changes. Every statement can be executed here.
-/

namespace RobotStore

open EventRuns RobotRepository

/-- The entry has a machine ID and an address, as the columns require. -/
def Valued (robot : RobotEntry) : Prop :=
  robot.machineID.isSome = true ∧ robot.address.isSome = true

/-! ### Single changes -/

inductive Change where
  | add (robot : RobotEntry)
  | delete (machineID : Option String)
  deriving DecidableEq

/-- The changes since the ID was last deleted. -/
def sinceDeletion (machineID : String) (changes : List Change) : List Change :=
  (changes.reverse.takeWhile fun c => c ≠ .delete (some machineID)).reverse

def Change.adds (machineID : String) : Change → Option RobotEntry
  | .add robot => if robot.machineID = some machineID then some robot else none
  | .delete _ => none

/-- The first add of the ID since its last deletion. -/
def firstAdd (machineID : String) (changes : List Change) : Option RobotEntry :=
  (sinceDeletion machineID changes).findSome? (Change.adds machineID)

theorem firstAdd_concat (machineID : String) (changes : List Change) (c : Change) :
    firstAdd machineID (changes ++ [c]) =
      if c = .delete (some machineID) then none
      else (firstAdd machineID changes).or (c.adds machineID) := by
  by_cases deletes : c = .delete (some machineID)
  · simp [firstAdd, sinceDeletion, deletes]
  · simp [firstAdd, sinceDeletion, deletes, List.findSome?_append]

def applyChange (repo : Repository) : Change → Repository
  | .add robot => (addRobot true robot repo).2
  | .delete machineID => (deleteRobot true { RobotEntry.empty with machineID := machineID } repo).2

/-! ### Operations of a client -/

inductive Op where
  | addRobot (robot : RobotEntry)
  | addRobots (robots : List (Option RobotEntry))
  | deleteRobot (robot : RobotEntry)

def Op.Valued : Op → Prop
  | .addRobot robot => RobotStore.Valued robot
  | .addRobots robots => ∀ robot, some robot ∈ robots → RobotStore.Valued robot
  | .deleteRobot _ => True

def Op.changes : Op → List Change
  | .addRobot robot => [.add robot]
  | .addRobots robots => robots.reduceOption.map .add
  | .deleteRobot robot => [.delete robot.machineID]

def applyOp (repo : Repository) : Op → Repository
  | .addRobot robot => (RobotRepository.addRobot true robot repo).2
  | .addRobots robots => (RobotRepository.addRobots true (fun _ => true) true robots repo).2
  | .deleteRobot robot => (RobotRepository.deleteRobot true robot repo).2

/-- The table that the operations leave of a new one. -/
def stored (ops : List Op) : Repository := run applyOp UniqueRows.empty ops

/-! ### Both paths of insertion -/

theorem insertNext_some (executed : RobotEntry → Bool) (repo : Repository) (robot : RobotEntry) :
    insertNext executed repo (some robot) = (addRobot (executed robot) robot repo).2 := by
  simp only [insertNext, addRobot]
  split <;> rfl

/-- A batch inserts its entries as single insertions would, from left to right. -/
theorem addRobots_eq_foldl (executed : RobotEntry → Bool) (committed : Bool)
    (robots : List (Option RobotEntry)) (repo : Repository) :
    (addRobots true executed committed robots repo).2 =
      robots.reduceOption.foldl (fun repo robot => (addRobot (executed robot) robot repo).2)
        repo := by
  simp only [addRobots, if_true]
  induction robots generalizing repo with
  | nil => rfl
  | cons robot robots ih =>
    cases robot with
    | none => exact ih repo
    | some robot =>
      rw [List.foldl_cons, ih, List.reduceOption_cons_of_some, List.foldl_cons, insertNext_some]

theorem applyOp_changes (repo : Repository) (op : Op) :
    applyOp repo op = run applyChange repo op.changes := by
  cases op with
  | addRobot robot => rfl
  | addRobots robots =>
    rw [applyOp, addRobots_eq_foldl, Op.changes, run, List.foldl_map]
    rfl
  | deleteRobot robot => rfl

theorem stored_changes (ops : List Op) :
    stored ops = run applyChange UniqueRows.empty (ops.flatMap Op.changes) := by
  unfold stored
  induction ops using List.reverseRecOn with
  | nil => rfl
  | append_singleton ops op ih =>
    rw [run_concat, List.flatMap_append, run_append, ih, applyOp_changes]
    simp

/-! ### The table as a map -/

/-- The entry that is read for the ID. -/
def entryAt (repo : Repository) (machineID : String) : Option RobotEntry :=
  (repo.find machineID).map Row.toEntry

theorem entryAt_add {robot : RobotEntry} (valued : Valued robot) (repo : Repository)
    (machineID : String) :
    entryAt (applyChange repo (.add robot)) machineID
      = (entryAt repo machineID).or ((Change.add robot).adds machineID) := by
  obtain ⟨name, id, address, port, portForAnswer, macAddress⟩ := robot
  obtain ⟨hasId, hasAddress⟩ := valued
  obtain ⟨id, rfl⟩ := Option.isSome_iff_exists.mp hasId
  obtain ⟨address, rfl⟩ := Option.isSome_iff_exists.mp hasAddress
  simp only [entryAt, applyChange, addRobot, UniqueRows.find_insertNew, Option.map_or]
  congr 1
  by_cases same : id = machineID <;> simp [Change.adds, Row.toEntry, same]

theorem entryAt_delete (repo : Repository) (deleted : Option String) (machineID : String) :
    entryAt (applyChange repo (.delete deleted)) machineID
      = if deleted = some machineID then none else entryAt repo machineID := by
  cases deleted with
  | none => simp [entryAt, applyChange, deleteRobot]
  | some deleted =>
    by_cases same : deleted = machineID
    · simp [entryAt, applyChange, deleteRobot, UniqueRows.find_erase, same]
    · simp [entryAt, applyChange, deleteRobot, UniqueRows.find_erase, same, Ne.symm same]

/-- Over a run of changes an ID is bound to its first add since its deletion. -/
theorem entryAt_run (changes : List Change)
    (valued : ∀ robot, .add robot ∈ changes → Valued robot) (machineID : String) :
    entryAt (run applyChange UniqueRows.empty changes) machineID = firstAdd machineID changes := by
  induction changes using List.reverseRecOn with
  | nil => rfl
  | append_singleton changes c ih =>
    have known := ih fun robot mem => valued robot (List.mem_append_left _ mem)
    rw [run_concat, firstAdd_concat]
    cases c with
    | add robot =>
      rw [entryAt_add (valued robot (by simp)), known]
      simp
    | delete deleted =>
      rw [entryAt_delete, known]
      by_cases same : deleted = some machineID <;> simp [same, Change.adds]

theorem changes_valued {ops : List Op} (valued : ∀ op ∈ ops, op.Valued) (robot : RobotEntry)
    (mem : .add robot ∈ ops.flatMap Op.changes) : Valued robot := by
  obtain ⟨op, hop, added⟩ := List.mem_flatMap.mp mem
  have opValued := valued op hop
  cases op with
  | addRobot robot' =>
    obtain rfl : robot = robot' := by simpa [Op.changes] using added
    exact opValued
  | addRobots robots =>
    have listed : some robot ∈ robots := by
      simpa [Op.changes, List.reduceOption_mem_iff] using added
    exact opValued robot listed
  | deleteRobot robot' => simp [Op.changes] at added

/-! ### Reading the table -/

theorem loadRobots_filter (repo : Repository) (machineID : String) :
    ((loadRobots true repo).filter fun robot => robot.machineID = some machineID)
      = (entryAt repo machineID).toList := by
  have rows := congrArg (List.map Row.toEntry) (UniqueRows.filter_key repo machineID)
  rw [entryAt, Option.toList_map, ← rows]
  simp [loadRobots, List.filter_map, Function.comp_def, Row.toEntry]

theorem mem_loadRobots_iff (repo : Repository) (machineID : String) :
    (∃ robot ∈ loadRobots true repo, robot.machineID = some machineID) ↔
      (repo.find machineID).isSome = true := by
  have lookup := loadRobots_filter repo machineID
  constructor
  · rintro ⟨robot, mem, named⟩
    have listed : robot ∈ (entryAt repo machineID).toList := by
      rw [← lookup]
      exact List.mem_filter.mpr ⟨mem, decide_eq_true named⟩
    have found : entryAt repo machineID = some robot := by simpa using listed
    simpa [entryAt] using Option.isSome_of_eq_some found
  · intro found
    obtain ⟨row, hrow⟩ := Option.isSome_iff_exists.mp found
    have listed : row.toEntry ∈
        (loadRobots true repo).filter fun robot => robot.machineID = some machineID := by
      rw [lookup, entryAt, hrow]
      exact List.mem_singleton_self _
    obtain ⟨mem, named⟩ := List.mem_filter.mp listed
    exact ⟨row.toEntry, mem, of_decide_eq_true named⟩

/-- The repository is a map from machine IDs to the entries of their first adds. -/
theorem repository_is_map (ops : List Op) (valued : ∀ op ∈ ops, op.Valued) :
    (∀ robot ∈ loadRobots true (stored ops), robot.machineID.isSome) ∧
    (∀ machineID, ((loadRobots true (stored ops)).filter fun robot =>
        robot.machineID = some machineID)
      = (firstAdd machineID (ops.flatMap Op.changes)).toList) ∧
    (∀ robot, Valued robot → ((addRobot true robot (stored ops)).1 = true ↔
      ∀ entry ∈ loadRobots true (stored ops), entry.machineID ≠ robot.machineID)) ∧
    (∀ machineID, robotExists true (some machineID) (stored ops) = true ↔
      ∃ robot ∈ loadRobots true (stored ops), robot.machineID = some machineID) ∧
    (∀ robots : List (Option RobotEntry),
      (addRobots true (fun _ => true) true robots (stored ops)).2
        = robots.reduceOption.foldl (fun repo robot => (addRobot true robot repo).2)
          (stored ops)) := by
  refine ⟨?_, ?_, ?_, ?_, ?_⟩
  · intro robot mem
    obtain ⟨row, -, rfl⟩ := List.mem_map.mp mem
    rfl
  · intro machineID
    rw [loadRobots_filter, stored_changes, entryAt_run _ (changes_valued valued)]
  · rintro ⟨name, id, address, port, portForAnswer, macAddress⟩ ⟨hasId, hasAddress⟩
    obtain ⟨id, rfl⟩ := Option.isSome_iff_exists.mp hasId
    obtain ⟨address, rfl⟩ := Option.isSome_iff_exists.mp hasAddress
    have absent : (∀ entry ∈ loadRobots true (stored ops), entry.machineID ≠ some id) ↔
        ¬ ∃ entry ∈ loadRobots true (stored ops), entry.machineID = some id := by
      simp
    rw [absent, mem_loadRobots_iff]
    simp [addRobot]
  · intro machineID
    rw [mem_loadRobots_iff]
    simp [robotExists]
  · intro robots
    exact addRobots_eq_foldl _ true robots (stored ops)

def firstBoot : RobotEntry := ⟨"Amur", some "r1", some "10.0.0.7", 40001, 0, ""⟩

def secondBoot : RobotEntry := ⟨"", some "r1", some "10.0.0.9", 40002, 0, ""⟩

/-- A batch that repeats an ID, a deletion, and the ID once more. -/
def session : List Op :=
  [.addRobots [some firstBoot, none, some secondBoot], .deleteRobot firstBoot,
    .addRobot secondBoot]

theorem session_is_map : (∀ op ∈ session, op.Valued) ∧
    ((loadRobots true (stored session)).filter fun robot => robot.machineID = some "r1")
      = [secondBoot] := by
  have valued : ∀ op ∈ session, op.Valued := by
    simp [session, Op.Valued, Valued, firstBoot, secondBoot]
  refine ⟨valued, ?_⟩
  rw [(repository_is_map session valued).2.1 "r1"]
  decide

end RobotStore
