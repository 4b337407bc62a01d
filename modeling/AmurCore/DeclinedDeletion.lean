import AmurCore.DeletionQuestion

/-!
# Declining a deletion

After No the handler gives the cell its old name back and then, as after any
change, remembers the empty name that was typed. The nested call finds a name
where none was before, takes it for a new one, and stores the robot as it is in
memory.
-/

namespace DeclinedDeletion

open EventRuns RobotRepository ConnectTable NameEdits TableStaleness DeletionQuestion

variable {s t u : State} {item : Item} {row : TableRow} {sql : Sql}
  {keyOrder : List String → List String}

/-! ### Entries behind the cells -/

/-- The list of the network and the table point to entries that have been made. -/
structure PointersMade (s : State) : Prop where
  robots : ∀ p ∈ s.robots, p < s.heap.size
  table : ∀ p ∈ s.table.map TableRow.robot, p < s.heap.size

/-- The handler makes no entries, and leaves the cells with theirs. -/
structure SamePointers (s t : State) : Prop where
  size : t.heap.size = s.heap.size
  robots : t.robots = s.robots
  table : t.table.map TableRow.robot = s.table.map TableRow.robot

theorem SamePointers.refl (s : State) : SamePointers s s := ⟨rfl, rfl, rfl⟩

theorem SamePointers.trans (first : SamePointers s t) (second : SamePointers t u) :
    SamePointers s u :=
  ⟨second.size.trans first.size, second.robots.trans first.robots,
    second.table.trans first.table⟩

theorem PointersMade.of_samePointers (made : PointersMade s) (same : SamePointers s t) :
    PointersMade t := by
  constructor
  · rw [same.robots, same.size]
    exact made.robots
  · rw [same.table, same.size]
    exact made.table

theorem putRow_samePointers {row' : TableRow} (cell : s.row? item = some row)
    (same : row'.robot = row.robot) : SamePointers s (s.putRow item row') := by
  refine ⟨rfl, rfl, ?_⟩
  obtain ⟨-, found⟩ := row?_eq_some.mp cell
  obtain ⟨bound, rfl⟩ := List.getElem?_eq_some_iff.mp found
  rw [State.putRow, List.map_set, same, ← List.getElem_map TableRow.robot]
  · exact List.set_getElem_self _
  · rw [List.length_map]
    exact bound

section Writes
variable {itemChanged : State → Option State}
  (keeps : ∀ s t, itemChanged s = some t → SamePointers s t)

include keeps

theorem setText_samePointers {value : String} (h : setText itemChanged item value s = some t) :
    SamePointers s t := by
  rw [setText] at h
  split at h
  · cases h
  · rename_i row cell
    split at h
    · cases h
      exact .refl s
    · apply SamePointers.trans _ (keeps _ t h)
      exact putRow_samePointers cell rfl

theorem setUserRole_samePointers {value : String}
    (h : setUserRole itemChanged item value s = some t) : SamePointers s t := by
  rw [setUserRole] at h
  split at h
  · cases h
  · rename_i row cell
    split at h
    · cases h
      exact .refl s
    · apply SamePointers.trans _ (keeps _ t h)
      exact putRow_samePointers cell rfl

end Writes

theorem onRobotNameChanged_samePointers (sql : Sql) (n : Nat) (item : Item) (s t : State)
    (h : onRobotNameChanged sql n item s = some t) : SamePointers s t := by
  induction n generalizing s t with
  | zero => cases h
  | succ n ih =>
    rw [onRobotNameChanged] at h
    split at h
    · cases h
    · simp only at h
      split at h
      · cases h
        exact .refl s
      · split at h
        · have later := setUserRole_samePointers ih h
          exact ⟨later.size, later.robots, later.table⟩
        · split at h
          · have later := setUserRole_samePointers ih h
            exact ⟨later.size, later.robots, later.table⟩
          · cases h
            exact ⟨rfl, rfl, rfl⟩

theorem answerQuestion_samePointers {yes : Bool} {n : Nat}
    (h : answerQuestion sql n yes s = some t) : SamePointers s t := by
  cases asked : s.question with
  | none =>
    simp only [answerQuestion, asked] at h
    cases h
  | some q =>
    have handler := onRobotNameChanged_samePointers sql n q.item
    cases yes with
    | true =>
      rw [answerQuestion_yes n asked] at h
      have later := setUserRole_samePointers handler h
      exact ⟨later.size, later.robots, later.table⟩
    | false =>
      rw [answerQuestion_no n asked] at h
      obtain ⟨r, restored, remembered⟩ := Option.bind_eq_some_iff.mp h
      have first := setText_samePointers handler restored
      have closed : SamePointers s { s with question := none } := ⟨rfl, rfl, rfl⟩
      exact (closed.trans first).trans (setUserRole_samePointers handler remembered)

theorem fillTableWithRobots_robot (heap : Heap) (robots : RobotList) (category : Category) :
    (fillTableWithRobots heap robots category).map TableRow.robot = robots.reduceOption := by
  rw [fillTableWithRobots, List.map_map]
  exact List.map_id _

theorem fromScratch_made {executed : Bool} (made : ∀ p ∈ s.robots, p < s.heap.size) :
    ∀ p ∈ (fromScratch keyOrder executed s).map TableRow.robot,
      p < (classified keyOrder executed s).1.size := by
  obtain ⟨later, known, -⟩ := allocateAll_spec (loadRobots executed s.repo) s.heap
  have active : Made s.heap (s.robots.map some) := by
    intro p mem
    rw [reduceOption_map_some] at mem
    exact made p mem
  obtain ⟨activeKnown, activeUnknown, knownInactive⟩ :=
    classify_made keyOrder known (later.made active)
  intro p mem
  simp only [fromScratch, List.map_append, fillTableWithRobots_robot, List.mem_append] at mem
  rcases mem with (mem | mem) | mem
  · exact activeKnown p mem
  · exact activeUnknown p mem
  · exact knownInactive p mem

theorem updateTable_made {executed : Bool} (made : PointersMade s) :
    PointersMade (updateTable keyOrder executed s) := by
  have later := (classified_extends keyOrder executed s).size
  cases change : findsChange keyOrder executed s with
  | false =>
    rw [updateTable_kept change]
    exact ⟨fun p mem => Nat.lt_of_lt_of_le (made.robots p mem) later,
      fun p mem => Nat.lt_of_lt_of_le (made.table p mem) later⟩
  | true =>
    rw [updateTable_found change]
    exact ⟨fun p mem => Nat.lt_of_lt_of_le (made.robots p mem) later,
      fromScratch_made made.robots⟩

theorem registerRobot_made {senderAddress : String} {senderPort : UInt16}
    {machineID : Option String} {arpingPort : Int} (made : PointersMade s) :
    PointersMade (registerRobot senderAddress senderPort machineID arpingPort s) := by
  rcases registerRobot_cases senderAddress senderPort machineID arpingPort s with
    same | ⟨robot, added⟩
  · rw [same]
    exact made
  · rw [added]
    constructor
    · intro p mem
      rcases List.mem_append.mp mem with mem | mem
      · exact Nat.lt_succ_of_lt (made.robots p mem)
      · rw [List.mem_singleton.mp mem]
        exact Nat.lt_succ_self _
    · exact fun p mem => Nat.lt_succ_of_lt (made.table p mem)

theorem step_made {e : Event} (h : step keyOrder s e = some t) (made : PointersMade s) :
    PointersMade t := by
  cases e with
  | datagram senderAddress senderPort machineID arpingPort =>
    cases h
    exact registerRobot_made made
  | updateTable executed =>
    cases h
    exact updateTable_made made
  | editName i text sql =>
    simp only [step] at h
    split at h
    · cases h
    · exact made.of_samePointers
        (setText_samePointers (onRobotNameChanged_samePointers sql _ _) h)
  | answer yes sql => exact made.of_samePointers (answerQuestion_samePointers h)

theorem reaches_made {repo : Repository} {events : List Event}
    (reached : Reaches keyOrder repo events s) : PointersMade s := by
  have kept : ∀ s e t, step keyOrder s e = some t → PointersMade s → PointersMade t :=
    fun s e t h made => step_made h made
  have initial : PointersMade (start repo) :=
    ⟨fun p mem => absurd mem List.not_mem_nil, fun p mem => absurd mem List.not_mem_nil⟩
  exact run_lift_invariant kept initial reached

/-! ### Declining -/

/-- The row that `addRobot` writes. -/
def storedRow (robot : RobotEntry) : Option Row :=
  match robot.machineID, robot.address with
  | some machineID, some address =>
    some ⟨machineID, robot.name, address, robot.port, robot.portForAnswer, robot.macAddress⟩
  | _, _ => none

/-- A robot that is not stored is not added, and the row of one that is stored is
deleted only if the same row is added. -/
def Survives (sql : Sql) (robot : RobotEntry) (repo : Repository) : Prop :=
  ∀ machineID, robot.machineID = some machineID →
    match repo.find machineID with
    | none => sql.addRobot = true → robot.address = none
    | some row => sql.robotExists = true → sql.deleteRobot = true →
        sql.addRobot = true ∧ storedRow robot = some row

theorem addRobot_row (executed : Bool) (robot : RobotEntry) (repo : Repository) (id : String) :
    (RobotRepository.addRobot executed robot repo).2.find id
      = (repo.find id).or
          (if executed = true ∧ robot.machineID = some id then storedRow robot else none) := by
  unfold RobotRepository.addRobot storedRow
  cases executed with
  | false => simp
  | true =>
    cases machineID : robot.machineID with
    | none => simp
    | some machineID =>
      cases robot.address with
      | none => simp
      | some address => simp [UniqueRows.find_insertNew]

theorem storedRow_eq_none {robot : RobotEntry} {machineID : String}
    (known : robot.machineID = some machineID) :
    storedRow robot = none ↔ robot.address = none := by
  unfold storedRow
  rw [known]
  cases robot.address <;> simp

theorem storeNew_other {robot : RobotEntry} {repo : Repository} {id : String}
    (other : robot.machineID ≠ some id) : (storeNew sql robot repo).find id = repo.find id := by
  have notAdded : ¬(sql.addRobot = true ∧ robot.machineID = some id) := fun h => other h.2
  rw [storeNew, addRobot_row, if_neg notAdded, Option.or_none]
  split
  · unfold RobotRepository.deleteRobot
    split
    · rfl
    · rfl
    · rename_i machineID known
      rw [known] at other
      rw [UniqueRows.find_erase, if_neg (fun same => other (congrArg some same.symm))]
  · rfl

theorem storeNew_unknown {robot : RobotEntry} {repo : Repository} {machineID : String}
    (known : robot.machineID = some machineID) (absent : repo.find machineID = none) :
    (storeNew sql robot repo).find machineID = none ↔
      (sql.addRobot = true → robot.address = none) := by
  have unstored : RobotRepository.robotExists sql.robotExists robot.machineID repo = false := by
    simp [RobotRepository.robotExists, known, absent]
  rw [storeNew, unstored, if_neg Bool.false_ne_true, addRobot_row, absent, Option.none_or,
    ← storedRow_eq_none known]
  cases sql.addRobot <;> simp [known]

theorem storeNew_known {robot : RobotEntry} {repo : Repository} {machineID : String} {row : Row}
    (known : robot.machineID = some machineID) (found : repo.find machineID = some row) :
    (storeNew sql robot repo).find machineID = some row ↔
      (sql.robotExists = true → sql.deleteRobot = true →
        sql.addRobot = true ∧ storedRow robot = some row) := by
  have stored : RobotRepository.robotExists sql.robotExists robot.machineID repo
      = sql.robotExists := by
    simp [RobotRepository.robotExists, known, found]
  rw [storeNew, stored, addRobot_row]
  cases sql.robotExists with
  | false => simp [found]
  | true =>
    cases sql.deleteRobot with
    | false => simp [RobotRepository.deleteRobot, found]
    | true =>
      have erased : (RobotRepository.deleteRobot true robot repo).2.find machineID = none :=
        deleteRobot_find known
      simp only [if_true, erased, Option.none_or, known, and_true, true_implies]
      cases sql.addRobot <;> simp

/-- Exactly when storing a robot as a new one leaves every row as it was. -/
theorem storeNew_unchanged_iff (sql : Sql) (robot : RobotEntry) (repo : Repository) :
    (∀ id, (storeNew sql robot repo).find id = repo.find id) ↔ Survives sql robot repo := by
  have own : ∀ machineID, robot.machineID = some machineID →
      ((storeNew sql robot repo).find machineID = repo.find machineID ↔
        match repo.find machineID with
        | none => sql.addRobot = true → robot.address = none
        | some row => sql.robotExists = true → sql.deleteRobot = true →
            sql.addRobot = true ∧ storedRow robot = some row) := by
    intro machineID known
    cases found : repo.find machineID with
    | none => exact storeNew_unknown known found
    | some row => exact storeNew_known known found
  constructor
  · intro unchanged machineID known
    exact (own machineID known).mp (unchanged machineID)
  · intro survives id
    by_cases known : robot.machineID = some id
    · exact (own id known).mpr (survives id known)
    · exact storeNew_other known

theorem step_erase {i : Nat} (idle : s.question = none) (cell : s.table[i]? = some row)
    (settled : row.userRole = row.text) (named : row.text ≠ "") (sql : Sql) :
    step keyOrder s (.editName i "" sql) = some (asking ⟨s.rebuilds, i⟩ row s) := by
  rw [step_editName idle cell settled named.symm, edited, if_pos rfl]
  rfl

/-- The repository once the deletion is declined: the robot behind the cell is
stored as a new one. -/
theorem answer_declined {q : Question} (asked : s.question = some q) (about : Asked s q)
    (cell : s.row? q.item = some row) (sql : Sql) :
    ∃ t, step keyOrder s (.answer false sql) = some t ∧
      t.row? q.item = some { row with text := q.oldName, userRole := q.oldName } ∧
      t.repo = storeNew sql { s.heap.entry row.robot with name := q.oldName } s.repo := by
  have cell' : State.row? { s with question := none } q.item = some row := cell
  refine ⟨_, answer_no 0 asked about cell, row?_putRow (row?_putRow cell' _) _, ?_⟩
  have shared : (s.heap.setName row.robot q.oldName).entry row.robot
      = { s.heap.entry row.robot with name := q.oldName } :=
    Function.update_self ..
  exact congrArg (storeNew sql · s.repo) shared

/-- Declining gives the cell its name back, and leaves the repository as it was
exactly when the entry behind the cell is stored as it is, under that name. -/
theorem decline_unchanged_iff {repo : Repository} {events : List Event} {i : Nat}
    (reached : Reaches keyOrder repo events s) (idle : s.question = none)
    (cell : s.table[i]? = some row) (named : row.text ≠ "") (sql : Sql) :
    ∃ t, step keyOrder s (.editName i "" sql) = some t ∧
      ∀ waiting u sql', (∀ e ∈ waiting, Delivered e) →
        run (lift (step keyOrder)) (some t) waiting = some u → u.rebuilds = s.rebuilds →
        ∃ v, step keyOrder u (.answer false sql') = some v ∧
          (v.row? ⟨s.rebuilds, i⟩ = some row ∧ row.userRole = row.text) ∧
          ((∀ machineID, v.repo.find machineID = s.repo.find machineID) ↔
            Survives sql' { s.heap.entry row.robot with name := row.text } s.repo) := by
  have settled := (reaches_invariant reached).settled_of_idle idle cell
  have current : s.row? ⟨s.rebuilds, i⟩ = some row := (row?_current s i).trans cell
  refine ⟨_, step_erase idle cell settled named sql, ?_⟩
  intro waiting u sql' delivered waited kept
  have later := waited_of_run delivered waited
  have same := later.sameTable kept
  have old : row.userRole ≠ "" := by
    rw [settled]
    exact named
  obtain ⟨v, answered, row', repo'⟩ := @answer_declined u _ keyOrder _ same.question
    ((asking_asked current old).of_sameTable same)
    ((same.row? _).trans (asking_row? current)) sql'
  refine ⟨v, answered, ⟨?_, settled⟩, ?_⟩
  · have unchanged : { row with text := row.userRole } = row :=
      congrArg (fun text => { row with text := text }) settled
    exact row'.trans (congrArg some unchanged)
  · have made : row.robot < s.heap.size :=
      (reaches_made reached).table _ (List.mem_map_of_mem (List.mem_of_getElem? cell))
    have entry : u.heap.entry row.robot = s.heap.entry row.robot := later.heap.entry _ made
    have sameRepo : u.repo = s.repo := later.repo
    rw [repo', sameRepo, ← storeNew_unchanged_iff, ← settled, ← entry]

theorem declined_first_name :
    ∃ t v, step id namedState (.editName 0 "" .succeeds) = some t ∧
      step id t (.answer false .succeeds) = some v ∧
      v.row? ⟨1, 0⟩ = some ⟨"A", "A", 0, "r1", "10.0.0.7", "5000", .activeUnknown⟩ ∧
      ∀ machineID, v.repo.find machineID = namedState.repo.find machineID := by
  have reached : Reaches id .empty namingRun namedState := rfl
  obtain ⟨t, asked, declined⟩ :=
    @decline_unchanged_iff namedState _ id .empty namingRun 0 reached rfl rfl (by decide) .succeeds
  have kept : t.rebuilds = namedState.rebuilds := by
    cases asked
    rfl
  obtain ⟨v, answered, ⟨row, -⟩, unchanged⟩ :=
    declined [] t .succeeds (fun _ mem => absurd mem List.not_mem_nil) rfl kept
  refine ⟨t, v, asked, answered, row, unchanged.mpr ?_⟩
  intro machineID known
  cases known
  have found : namedState.repo.find "r1" = some ⟨"r1", "A", "10.0.0.7", 5000, 0, ""⟩ := by decide
  rw [found]
  exact fun _ _ => ⟨rfl, rfl⟩

/-- The robot is given another name, which is not stored. -/
def renamingRun : List Event := namingRun ++ [.editName 0 "B" .succeeds]

/-- A rename that was not stored is stored when a deletion is declined. -/
theorem declined_rename_stored :
    ¬∀ (keyOrder : List String → List String) (repo : Repository) (events : List Event)
      (s t v : State) (i : Nat) (row : TableRow) (sql sql' : Sql),
      Reaches keyOrder repo events s → s.question = none → s.table[i]? = some row →
      row.text ≠ "" → step keyOrder s (.editName i "" sql) = some t →
      step keyOrder t (.answer false sql') = some v →
      ∀ machineID, v.repo.find machineID = s.repo.find machineID := by
  intro claimed
  have unchanged := claimed id .empty renamingRun _ _ _ 0 _ .succeeds .succeeds rfl rfl rfl
    (by decide) rfl rfl "r1"
  revert unchanged
  decide

end DeclinedDeletion
