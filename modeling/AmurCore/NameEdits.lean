import AmurCore.ConnectTable

/-!
# Editing a name

What the re-entrant handler does to a cell and to the repository. Between
events every cell shows the name that its role remembers, except the cell that
an open question is about. A new name is stored as typed. A rename stores the
name that the entry behind the cell has, which the handler never sets to the
typed one.
-/

namespace NameEdits

open EventRuns RobotRepository ConnectTable

variable {s t : State} {item : Item} {row : TableRow} {sql : Sql}

/-! ### Items of the table -/

theorem row?_current (s : State) (i : Nat) : s.row? ⟨s.rebuilds, i⟩ = s.table[i]? :=
  if_pos rfl

theorem row?_eq_some : s.row? item = some row ↔
    item.rebuild = s.rebuilds ∧ s.table[item.row]? = some row := by
  unfold State.row?
  split
  · rename_i current
    simp [current]
  · rename_i deleted
    simp [deleted]

theorem row?_putRow (cell : s.row? item = some row) (row' : TableRow) :
    (s.putRow item row').row? item = some row' := by
  obtain ⟨current, found⟩ := row?_eq_some.mp cell
  obtain ⟨bound, -⟩ := List.getElem?_eq_some_iff.mp found
  refine row?_eq_some.mpr ⟨current, ?_⟩
  exact List.getElem?_set_self bound

theorem putRow_putRow (s : State) (item : Item) (row row' : TableRow) :
    (s.putRow item row).putRow item row' = s.putRow item row' := by
  simp [State.putRow]

theorem putRow_self (cell : s.row? item = some row) : s.putRow item row = s := by
  obtain ⟨-, found⟩ := row?_eq_some.mp cell
  obtain ⟨bound, rfl⟩ := List.getElem?_eq_some_iff.mp found
  simp [State.putRow]

/-! ### The handler, case by case -/

theorem handler_unchanged (n : Nat) (cell : s.row? item = some row)
    (settled : row.userRole = row.text) :
    onRobotNameChanged sql (n + 1) item s = some s := by
  rw [onRobotNameChanged, cell]
  exact if_pos settled

/-- Remembering the name that is shown: the nested call finds nothing to do. -/
theorem setUserRole_settles (n : Nat) {value : String} (cell : s.row? item = some row)
    (shown : row.text = value) :
    setUserRole (onRobotNameChanged sql (n + 1) item) item value s
      = some (s.putRow item { row with userRole := value }) := by
  rw [setUserRole, cell]
  simp only
  split
  · rename_i same
    have unchanged : { row with userRole := value } = row := by
      rw [← same]
    rw [unchanged, putRow_self cell]
  · exact handler_unchanged n (row?_putRow cell _) shown.symm

/-- The state after a first name was given. -/
def named (sql : Sql) (item : Item) (row : TableRow) (s : State) : State :=
  let heap := s.heap.setName row.robot row.text
  let repo := storeNew sql (heap.entry row.robot) s.repo
  State.putRow { s with heap := heap, repo := repo } item { row with userRole := row.text }

/-- The state after a name was replaced by another. -/
def renamed (sql : Sql) (item : Item) (row : TableRow) (s : State) : State :=
  let repo := (RobotRepository.updateRobot sql.updateRobot (s.heap.entry row.robot) s.repo).2
  State.putRow { s with repo := repo } item { row with userRole := row.text }

theorem handler_new (n : Nat) (cell : s.row? item = some row) (unnamed : row.userRole = "")
    (typed : row.text ≠ "") :
    onRobotNameChanged sql (n + 2) item s = some (named sql item row s) := by
  have different : ¬row.userRole = row.text := by
    rw [unnamed]
    exact typed.symm
  rw [onRobotNameChanged, cell]
  simp only
  rw [if_neg different, if_pos ⟨unnamed, typed⟩]
  exact setUserRole_settles n cell rfl

theorem handler_rename (n : Nat) (cell : s.row? item = some row) (old : row.userRole ≠ "")
    (typed : row.text ≠ "") (different : row.userRole ≠ row.text) :
    onRobotNameChanged sql (n + 2) item s = some (renamed sql item row s) := by
  rw [onRobotNameChanged, cell]
  simp only
  rw [if_neg different, if_neg (fun h => old h.1), if_pos ⟨old, typed⟩]
  exact setUserRole_settles n cell rfl

theorem handler_asks (n : Nat) (cell : s.row? item = some row) (old : row.userRole ≠ "")
    (erased : row.text = "") :
    onRobotNameChanged sql (n + 1) item s
      = some { s with question := some ⟨item, row.robot, row.userRole, row.text⟩ } := by
  have different : ¬row.userRole = row.text := by
    rw [erased]
    exact old
  rw [onRobotNameChanged, cell]
  simp only
  rw [if_neg different, if_neg (fun h => old h.1), if_neg (fun h => h.2 erased)]

/-- The state after a cell has got a text that its role does not remember. -/
def edited (sql : Sql) (item : Item) (row : TableRow) (s : State) : State :=
  if row.text = "" then
    { s with question := some ⟨item, row.robot, row.userRole, row.text⟩ }
  else if row.userRole = "" then named sql item row s
  else renamed sql item row s

theorem handler_edited (n : Nat) (cell : s.row? item = some row)
    (different : row.userRole ≠ row.text) :
    onRobotNameChanged sql (n + 2) item s = some (edited sql item row s) := by
  unfold edited
  split
  · rename_i erased
    rw [erased] at different
    exact handler_asks (n + 1) cell different erased
  · rename_i typed
    split
    · rename_i unnamed
      exact handler_new n cell unnamed typed
    · rename_i old
      exact handler_rename n cell old typed different

theorem step_editName {keyOrder : List String → List String} {i : Nat} {text : String}
    (idle : s.question = none) (cell : s.table[i]? = some row) (settled : row.userRole = row.text)
    (different : text ≠ row.text) :
    step keyOrder s (.editName i text sql)
      = some (edited sql ⟨s.rebuilds, i⟩ { row with text := text }
          (s.putRow ⟨s.rebuilds, i⟩ { row with text := text })) := by
  have current : s.row? ⟨s.rebuilds, i⟩ = some row := (row?_current s i).trans cell
  simp only [step, idle]
  rw [setText, current]
  simp only
  rw [if_neg (Ne.symm different)]
  refine handler_edited 0 (row?_putRow current _) ?_
  rw [settled]
  exact Ne.symm different

/-! ### Between events -/

/-- What is known of a question that is open. -/
structure Asked (s : State) (q : Question) : Prop where
  erased : q.newName = ""
  old : q.oldName ≠ ""
  made : q.item.rebuild ≤ s.rebuilds
  cell : ∀ row, s.row? q.item = some row → row.text = "" ∧ row.userRole = q.oldName

/-- Every cell that no open question is about shows the name it remembers. -/
structure TableInvariant (s : State) : Prop where
  settled : ∀ i row, s.table[i]? = some row →
    (∀ q, s.question = some q → q.item ≠ ⟨s.rebuilds, i⟩) → row.userRole = row.text
  asked : ∀ q, s.question = some q → Asked s q

theorem TableInvariant.settled_of_idle (inv : TableInvariant s) (idle : s.question = none)
    {i : Nat} (cell : s.table[i]? = some row) : row.userRole = row.text := by
  refine inv.settled i row cell ?_
  intro q asked
  rw [idle] at asked
  cases asked

theorem tableInvariant_start (repo : Repository) : TableInvariant (start repo) := by
  constructor
  · intro i row cell
    cases cell
  · intro q asked
    cases asked

/-- One cell is written and settled, and the others were settled before. -/
theorem tableInvariant_set {i : Nat} (row' : TableRow)
    (others : ∀ j row, s.table[j]? = some row → j ≠ i → row.userRole = row.text)
    (settled : row'.userRole = row'.text) (idle : t.question = none)
    (table : t.table = s.table.set i row') : TableInvariant t := by
  constructor
  · intro j row cell _
    rw [table] at cell
    by_cases h : i = j
    · subst h
      obtain ⟨bound, found⟩ := List.getElem?_eq_some_iff.mp cell
      rw [List.getElem_set_self] at found
      rw [← found]
      exact settled
    · rw [List.getElem?_set_ne h] at cell
      exact others j row cell (Ne.symm h)
  · intro q asked
    rw [idle] at asked
    cases asked

/-- The table, its age and the question are as they were. -/
structure SameTable (s t : State) : Prop where
  table : t.table = s.table
  rebuilds : t.rebuilds = s.rebuilds
  question : t.question = s.question

theorem SameTable.row? (same : SameTable s t) (item : Item) : t.row? item = s.row? item := by
  rw [State.row?, State.row?, same.rebuilds, same.table]

theorem Asked.of_sameTable {q : Question} (about : Asked s q) (same : SameTable s t) :
    Asked t q := by
  obtain ⟨erased, old, made, cell⟩ := about
  refine ⟨erased, old, ?_, ?_⟩
  · rw [same.rebuilds]
    exact made
  · rw [same.row?]
    exact cell

theorem TableInvariant.of_sameTable (inv : TableInvariant s) (same : SameTable s t) :
    TableInvariant t := by
  constructor
  · intro i row cell noQuestion
    rw [same.table] at cell
    rw [same.question, same.rebuilds] at noQuestion
    exact inv.settled i row cell noQuestion
  · intro q asked
    rw [same.question] at asked
    exact (inv.asked q asked).of_sameTable same

theorem registerRobot_sameTable (senderAddress : String) (senderPort : UInt16)
    (machineID : Option String) (arpingPort : Int) (s : State) :
    SameTable s (registerRobot senderAddress senderPort machineID arpingPort s) := by
  rcases registerRobot_cases senderAddress senderPort machineID arpingPort s with
    same | ⟨robot, added⟩
  · rw [same]
    exact ⟨rfl, rfl, rfl⟩
  · rw [added]
    exact ⟨rfl, rfl, rfl⟩

theorem fillTableWithRobots_settled {heap : Heap} {robots : RobotList} {category : Category}
    (mem : row ∈ fillTableWithRobots heap robots category) : row.userRole = row.text := by
  obtain ⟨robot, -, rfl⟩ := List.mem_map.mp mem
  rfl

theorem updateTable_invariant (keyOrder : List String → List String) (executed : Bool)
    (inv : TableInvariant s) : TableInvariant (updateTable keyOrder executed s) := by
  unfold updateTable
  simp only
  split
  · constructor
    · intro i row cell _
      have mem := List.mem_of_getElem? cell
      simp only [List.mem_append] at mem
      rcases mem with (mem | mem) | mem
      · exact fillTableWithRobots_settled mem
      · exact fillTableWithRobots_settled mem
      · exact fillTableWithRobots_settled mem
    · intro q asked
      obtain ⟨erased, old, made, -⟩ := inv.asked q asked
      refine ⟨erased, old, Nat.le_succ_of_le made, ?_⟩
      intro row found
      -- the item that the question is about has been deleted
      have current := (row?_eq_some.mp found).1
      simp only at current
      omega
  · exact inv.of_sameTable ⟨rfl, rfl, rfl⟩

theorem edited_invariant {i : Nat} {text : String} (inv : TableInvariant s)
    (idle : s.question = none) (cell : s.table[i]? = some row) (different : text ≠ row.text) :
    TableInvariant (edited sql ⟨s.rebuilds, i⟩ { row with text := text }
      (s.putRow ⟨s.rebuilds, i⟩ { row with text := text })) := by
  have others : ∀ j row, s.table[j]? = some row → j ≠ i → row.userRole = row.text :=
    fun j row found _ => inv.settled_of_idle idle found
  have settled := inv.settled_of_idle idle cell
  have current : s.row? ⟨s.rebuilds, i⟩ = some row := (row?_current s i).trans cell
  unfold edited
  split
  · rename_i erased
    constructor
    · intro j row' found noQuestion
      have elsewhere : j ≠ i := by
        rintro rfl
        exact noQuestion _ rfl rfl
      simp only [State.putRow] at found
      rw [List.getElem?_set_ne (Ne.symm elsewhere)] at found
      exact others j row' found elsewhere
    · intro q asked
      cases asked
      refine ⟨erased, ?_, Nat.le_refl _, ?_⟩
      · simp only at erased ⊢
        rw [settled, ← erased]
        exact Ne.symm different
      · intro row' found
        have written := row?_putRow current { row with text := text }
        rw [row?_eq_some] at found written
        rw [found.2] at written
        cases written.2
        exact ⟨erased, rfl⟩
  · split
    · refine tableInvariant_set { row with text := text, userRole := text } others rfl idle ?_
      exact congrArg State.table (putRow_putRow s _ _ _)
    · refine tableInvariant_set { row with text := text, userRole := text } others rfl idle ?_
      exact congrArg State.table (putRow_putRow s _ _ _)

/-- The state once the box is closed and the robot deleted. -/
def deleted (sql : Sql) (q : Question) (s : State) : State :=
  let repo := (RobotRepository.deleteRobot sql.deleteRobot (s.heap.entry q.robot) s.repo).2
  { s with question := none, repo := repo }

theorem answerQuestion_yes {q : Question} (n : Nat) (asked : s.question = some q) :
    answerQuestion sql n true s
      = setUserRole (onRobotNameChanged sql n q.item) q.item q.newName (deleted sql q s) := by
  simp only [answerQuestion, asked, if_true]
  rfl

theorem answerQuestion_no {q : Question} (n : Nat) (asked : s.question = some q) :
    answerQuestion sql n false s
      = (setText (onRobotNameChanged sql n q.item) q.item q.oldName
          { s with question := none }).bind
            (setUserRole (onRobotNameChanged sql n q.item) q.item q.newName) := by
  simp only [answerQuestion, asked, Bool.false_eq_true, if_false]
  cases setText (onRobotNameChanged sql n q.item) q.item q.oldName
    { s with question := none } <;> rfl

/-- The item has been deleted: either branch writes to it. -/
theorem answer_removed {q : Question} (n : Nat) (yes : Bool) (asked : s.question = some q)
    (removed : s.row? q.item = none) : answerQuestion sql n yes s = none := by
  cases yes with
  | true =>
    have removed' : (deleted sql q s).row? q.item = none := removed
    rw [answerQuestion_yes n asked, setUserRole, removed']
  | false =>
    have removed' : State.row? { s with question := none } q.item = none := removed
    rw [answerQuestion_no n asked, setText, removed']
    rfl

theorem answer_yes {q : Question} (n : Nat) (asked : s.question = some q) (about : Asked s q)
    (cell : s.row? q.item = some row) :
    answerQuestion sql (n + 1) true s
      = some ((deleted sql q s).putRow q.item { row with userRole := "" }) := by
  have cell' : (deleted sql q s).row? q.item = some row := cell
  rw [answerQuestion_yes (n + 1) asked, about.erased]
  exact setUserRole_settles n cell' (about.cell row cell).1

/-- Declined: the old name is shown again, then forgotten, which makes the
nested call take it for a new one. -/
theorem answer_no {q : Question} (n : Nat) (asked : s.question = some q) (about : Asked s q)
    (cell : s.row? q.item = some row) :
    answerQuestion sql (n + 2) false s
      = some (named sql q.item { row with text := q.oldName, userRole := "" }
          (State.putRow { s with question := none } q.item
            { row with text := q.oldName, userRole := "" })) := by
  obtain ⟨text, role⟩ := about.cell row cell
  have cell₀ : State.row? { s with question := none } q.item = some row := cell
  let shown : TableRow := { row with text := q.oldName }
  let forgotten : TableRow := { row with text := q.oldName, userRole := "" }
  have cell₁ := row?_putRow cell₀ shown
  have cell₂ := row?_putRow cell₁ forgotten
  have restored : setText (onRobotNameChanged sql (n + 2) q.item) q.item q.oldName
      { s with question := none }
      = some (State.putRow { s with question := none } q.item shown) := by
    rw [setText, cell₀]
    simp only
    rw [if_neg (by rw [text]; exact about.old.symm)]
    exact handler_unchanged (n + 1) cell₁ role
  rw [answerQuestion_no (n + 2) asked, about.erased, restored, Option.bind_some, setUserRole,
    cell₁]
  simp only
  rw [if_neg (by rw [role]; exact about.old), putRow_putRow]
  rw [putRow_putRow] at cell₂
  exact handler_new n cell₂ rfl about.old

theorem answerQuestion_invariant {yes : Bool} (inv : TableInvariant s)
    (h : answerQuestion sql nesting yes s = some t) : TableInvariant t := by
  cases asked : s.question with
  | none =>
    simp only [answerQuestion, asked] at h
    cases h
  | some q =>
    have about := inv.asked q asked
    cases cell : s.row? q.item with
    | none =>
      rw [answer_removed nesting yes asked cell] at h
      cases h
    | some row =>
      have others : ∀ j row, s.table[j]? = some row → j ≠ q.item.row →
          row.userRole = row.text := by
        intro j row' found elsewhere
        refine inv.settled j row' found ?_
        intro q' asked' same
        rw [asked] at asked'
        cases asked'
        exact elsewhere (congrArg Item.row same).symm
      cases yes with
      | true =>
        rw [nesting, answer_yes 1 asked about cell] at h
        cases h
        exact tableInvariant_set { row with userRole := "" } others (about.cell row cell).1.symm
          rfl rfl
      | false =>
        rw [nesting, answer_no 0 asked about cell] at h
        cases h
        refine tableInvariant_set { row with text := q.oldName, userRole := q.oldName } others rfl
          rfl ?_
        exact congrArg State.table (putRow_putRow { s with question := none } _ _ _)

theorem step_invariant {keyOrder : List String → List String} {e : Event}
    (h : step keyOrder s e = some t) (inv : TableInvariant s) : TableInvariant t := by
  cases e with
  | datagram senderAddress senderPort machineID arpingPort =>
    cases h
    exact inv.of_sameTable (registerRobot_sameTable _ _ _ _ s)
  | updateTable executed =>
    cases h
    exact updateTable_invariant keyOrder executed inv
  | editName i text sql =>
    cases idle : s.question with
    | some q =>
      simp only [step, idle] at h
      cases h
    | none =>
      cases cell : s.table[i]? with
      | none =>
        simp only [step, idle, setText, row?_current, cell] at h
        cases h
      | some row =>
        by_cases same : text = row.text
        · simp only [step, idle, setText, row?_current, cell, same, if_true] at h
          cases h
          exact inv
        · rw [step_editName idle cell (inv.settled_of_idle idle cell) same] at h
          cases h
          exact edited_invariant inv idle cell same
  | answer yes sql => exact answerQuestion_invariant inv h

theorem reaches_invariant {keyOrder : List String → List String} {repo : Repository}
    {events : List Event} (reached : Reaches keyOrder repo events s) : TableInvariant s := by
  have kept : ∀ s e t, step keyOrder s e = some t → TableInvariant s → TableInvariant t :=
    fun s e t h inv => step_invariant h inv
  exact run_lift_invariant kept (tableInvariant_start repo) reached

/-! ### The repository after an edit -/

section Stored
variable {robot : RobotEntry} {repo : Repository} {machineID address : String}

theorem storeNew_namedOnce (hm : robot.machineID = some machineID)
    (ha : robot.address = some address) :
    NamedOnce (storeNew .succeeds robot repo) machineID robot.name := by
  rw [namedOnce_iff, storeNew]
  refine addRobot_find hm ha ?_
  split
  · exact deleteRobot_find hm
  · rename_i unknown
    simpa [RobotRepository.robotExists, Sql.succeeds, hm] using unknown

theorem updateRobot_namedOnce_iff {name : String} (hm : robot.machineID = some machineID)
    (ha : robot.address = some address) :
    NamedOnce (RobotRepository.updateRobot true robot repo).2 machineID name ↔
      robot.name = name ∧ (repo.find machineID).isSome = true := by
  rw [namedOnce_iff, updateRobot_find hm ha]
  cases repo.find machineID with
  | none => simp
  | some row => simp

end Stored

/-- The typed name is what the repository keeps exactly when the cell was empty,
or the entry behind it has that name already and the robot is still stored. -/
theorem typed_name_stored_iff {keyOrder : List String → List String} {repo : Repository}
    {events : List Event} {i : Nat} {name machineID address : String}
    (reached : Reaches keyOrder repo events s) (idle : s.question = none)
    (cell : s.table[i]? = some row) (typed : name ≠ "") (different : name ≠ row.text)
    (hm : (s.heap.entry row.robot).machineID = some machineID)
    (ha : (s.heap.entry row.robot).address = some address) :
    ∃ t, step keyOrder s (.editName i name .succeeds) = some t ∧ t.question = none ∧
      (NamedOnce t.repo machineID name ↔
        row.text = "" ∨
          (s.heap.entry row.robot).name = name ∧ (s.repo.find machineID).isSome = true) := by
  have settled := (reaches_invariant reached).settled_of_idle idle cell
  refine ⟨_, step_editName idle cell settled different, ?_⟩
  unfold edited
  rw [if_neg typed]
  split
  · rename_i unnamed
    refine ⟨idle, iff_of_true ?_ (Or.inl (settled.symm.trans unnamed))⟩
    let robot := { s.heap.entry row.robot with name := name }
    have stored : NamedOnce (storeNew .succeeds robot s.repo) machineID name :=
      storeNew_namedOnce hm ha
    have shared : (s.heap.setName row.robot name).entry row.robot = robot :=
      Function.update_self ..
    rw [← shared] at stored
    exact stored
  · rename_i old
    refine ⟨idle, ?_⟩
    have shown : row.text ≠ "" := by
      rw [← settled]
      exact old
    rw [or_iff_right shown]
    exact updateRobot_namedOnce_iff hm ha

/-- A robot calls, appears in the table and is given a name there. -/
def namingRun : List Event :=
  [.datagram "10.0.0.7" 5000 (some "r1") 0, .updateTable true, .editName 0 "A" .succeeds]

def namedState : State :=
  (run (lift (step id)) (some (start .empty)) namingRun).getD (start .empty)

theorem typed_name_stored_iff_rename :
    ∃ t, step id namedState (.editName 0 "B" .succeeds) = some t ∧ t.question = none ∧
      (NamedOnce t.repo "r1" "B" ↔
        "A" = "" ∨ (namedState.heap.entry 0).name = "B" ∧
          (namedState.repo.find "r1").isSome = true) := by
  have reached : Reaches id .empty namingRun namedState := rfl
  have cell : namedState.table[0]?
      = some ⟨"A", "A", 0, "r1", "10.0.0.7", "5000", .activeUnknown⟩ := rfl
  have typed : "B" ≠ "" := by decide
  have different : "B" ≠ "A" := by decide
  have machineID : (namedState.heap.entry 0).machineID = some "r1" := rfl
  have address : (namedState.heap.entry 0).address = some "10.0.0.7" := rfl
  exact typed_name_stored_iff reached rfl cell typed different machineID address

/-- The second name is not stored: the repository keeps the first one. -/
theorem rename_keeps_old_name :
    ¬∀ (keyOrder : List String → List String) (repo : Repository) (events : List Event)
      (s t : State) (i : Nat) (row : TableRow) (name machineID address : String),
      Reaches keyOrder repo events s → s.question = none → s.table[i]? = some row →
      name ≠ "" → name ≠ row.text → (s.heap.entry row.robot).machineID = some machineID →
      (s.heap.entry row.robot).address = some address →
      step keyOrder s (.editName i name .succeeds) = some t →
      NamedOnce t.repo machineID name := by
  intro claimed
  have stored := claimed id .empty namingRun namedState _ 0 _ "B" "r1" "10.0.0.7" rfl rfl rfl
    (by decide) (by decide) rfl rfl rfl
  rw [namedOnce_iff] at stored
  revert stored
  decide

end NameEdits
