import AmurCore.NameEdits
import AmurCore.TableStaleness

/-!
# The question before a deletion

While the box is open the timer and the network go on. After the answer the
handler writes to the item that it was called for, which calls it again inside
itself. These calls end with a settled cell, but the item is there only if the
timer did not rebuild the table in the meantime.
-/

namespace DeletionQuestion

open EventRuns RobotRepository ConnectTable NameEdits TableStaleness

variable {s t u : State} {item : Item} {row : TableRow} {sql : Sql}
  {keyOrder : List String → List String}

/-! ### While the box is open -/

/-- What its event loop delivers. -/
def Delivered : Event → Prop
  | .datagram _ _ _ _ | .updateTable _ => True
  | .editName _ _ _ | .answer _ _ => False

/-- Whether a tick of the timer finds a change. -/
def findsChange (keyOrder : List String → List String) (executed : Bool) (s : State) : Bool :=
  let (knownRobots, heap) := s.heap.allocateAll (loadRobots executed s.repo)
  (categorizeRobots heap keyOrder knownRobots (s.robots.map some) s.categories).1

theorem findsChange_eq (keyOrder : List String → List String) (executed : Bool) (s : State) :
    findsChange keyOrder executed s
      = !sameLists (classified keyOrder executed s).1 s.categories
          (classified keyOrder executed s).2 := by
  simp only [findsChange, classified, categorizeRobots_eq]
  cases sameLists _ s.categories _ <;> rfl

theorem updateTable_kept {executed : Bool} (kept : findsChange keyOrder executed s = false) :
    updateTable keyOrder executed s = { s with heap := (classified keyOrder executed s).1 } := by
  rw [findsChange_eq, Bool.not_eq_false'] at kept
  exact updateTable_same kept

theorem updateTable_found {executed : Bool} (found : findsChange keyOrder executed s = true) :
    updateTable keyOrder executed s = { s with
      heap := (classified keyOrder executed s).1
      categories := (classified keyOrder executed s).2
      table := fromScratch keyOrder executed s
      rebuilds := s.rebuilds + 1 } := by
  rw [findsChange_eq, Bool.not_eq_true'] at found
  exact updateTable_rebuilt found

theorem classified_extends (keyOrder : List String → List String) (executed : Bool) (s : State) :
    Extends s.heap (classified keyOrder executed s).1 :=
  (allocateAll_spec (loadRobots executed s.repo) s.heap).1

/-- What is left of the state `s`, in which the box was opened. -/
structure Waited (s u : State) : Prop where
  rebuilds : s.rebuilds ≤ u.rebuilds
  table : u.rebuilds = s.rebuilds → u.table = s.table
  question : u.question = s.question
  repo : u.repo = s.repo
  heap : Extends s.heap u.heap

theorem Waited.refl (s : State) : Waited s s :=
  ⟨Nat.le_refl _, fun _ => rfl, rfl, rfl, .refl _⟩

theorem Waited.sameTable (waited : Waited s u) (kept : u.rebuilds = s.rebuilds) :
    SameTable s u :=
  ⟨waited.table kept, kept, waited.question⟩

theorem Waited.registerRobot (waited : Waited s u) (senderAddress : String)
    (senderPort : UInt16) (machineID : Option String) (arpingPort : Int) :
    Waited s (registerRobot senderAddress senderPort machineID arpingPort u) := by
  obtain ⟨rebuilds, table, question, repo, heap⟩ := waited
  rcases registerRobot_cases senderAddress senderPort machineID arpingPort u with
    same | ⟨robot, added⟩
  · rw [same]
    exact ⟨rebuilds, table, question, repo, heap⟩
  · rw [added]
    exact ⟨rebuilds, table, question, repo, heap.trans (allocate_extends robot _)⟩

theorem Waited.updateTable (waited : Waited s u) (executed : Bool) :
    Waited s (updateTable keyOrder executed u) := by
  obtain ⟨rebuilds, table, question, repo, heap⟩ := waited
  have later := heap.trans (classified_extends keyOrder executed u)
  cases change : findsChange keyOrder executed u with
  | false =>
    rw [updateTable_kept change]
    exact ⟨rebuilds, table, question, repo, later⟩
  | true =>
    rw [updateTable_found change]
    refine ⟨Nat.le_succ_of_le rebuilds, ?_, question, repo, later⟩
    intro kept
    simp only at kept
    omega

theorem Waited.step (waited : Waited s u) {e : Event} (delivered : Delivered e)
    (h : step keyOrder u e = some t) : Waited s t := by
  cases e with
  | datagram senderAddress senderPort machineID arpingPort =>
    cases h
    exact waited.registerRobot _ _ _ _
  | updateTable executed =>
    cases h
    exact waited.updateTable executed
  | editName => exact delivered.elim
  | answer => exact delivered.elim

theorem waited_of_run {events : List Event} (delivered : ∀ e ∈ events, Delivered e)
    (h : run (lift (step keyOrder)) (some s) events = some u) : Waited s u := by
  have kept : ∀ before e v t, run (lift (step keyOrder)) (some s) before = some v →
      Delivered e → step keyOrder v e = some t → Waited s v → Waited s t :=
    fun _ _ _ _ _ delivered h waited => waited.step delivered h
  exact run_lift_invariant_along kept (.refl s) (along_of_forall_mem delivered) h

/-! ### The chain of calls -/

/-- The cell shows the name that it remembers. -/
def Settled (s : State) (item : Item) : Prop :=
  ∃ row, s.row? item = some row ∧ row.userRole = row.text

/-- The state in which the handler asks. -/
def asking (item : Item) (row : TableRow) (s : State) : State :=
  { s.putRow item { row with text := "" } with
    question := some ⟨item, row.robot, row.userRole, ""⟩ }

theorem asking_row? (cell : s.row? item = some row) :
    (asking item row s).row? item = some { row with text := "" } :=
  row?_putRow cell { row with text := "" }

theorem asking_asked (cell : s.row? item = some row) (old : row.userRole ≠ "") :
    Asked (asking item row s) ⟨item, row.robot, row.userRole, ""⟩ := by
  refine ⟨rfl, old, Nat.le_of_eq (row?_eq_some.mp cell).1, ?_⟩
  intro row' found
  rw [asking_row? cell] at found
  cases found
  exact ⟨rfl, rfl⟩

/-- An edit of a settled cell: at once settled again, or asked about. -/
theorem setText_cases (cell : s.row? item = some row) (settled : row.userRole = row.text)
    (idle : s.question = none) (text : String) (sql : Sql) :
    ∃ t, (∀ n, setText (onRobotNameChanged sql (n + 2) item) item text s = some t) ∧
      (t.question = none ∧ Settled t item ∨
        text = "" ∧ row.text ≠ "" ∧ t = asking item row s) := by
  by_cases same : row.text = text
  · refine ⟨s, fun n => ?_, Or.inl ⟨idle, row, cell, settled⟩⟩
    rw [setText, cell]
    exact if_pos same
  let edit : TableRow := { row with text := text }
  have written := row?_putRow cell edit
  have differs : edit.userRole ≠ edit.text := by
    intro again
    exact same (settled.symm.trans again)
  refine ⟨edited sql item edit (s.putRow item edit), fun n => ?_, ?_⟩
  · rw [setText, cell]
    exact (if_neg same).trans (handler_edited n written differs)
  · unfold edited
    split
    · rename_i erased
      change text = "" at erased
      subst erased
      exact Or.inr ⟨rfl, same, rfl⟩
    · left
      split
      · exact ⟨idle, _, row?_putRow written _, rfl⟩
      · exact ⟨idle, _, row?_putRow written _, rfl⟩

/-- After the answer the handler does not ask again. -/
theorem answer_settles {q : Question} (asked : s.question = some q) (about : Asked s q)
    (cell : s.row? q.item = some row) (yes : Bool) (sql : Sql) :
    ∃ t, (∀ n, answerQuestion sql (n + 2) yes s = some t) ∧ t.question = none ∧
      Settled t q.item := by
  cases yes with
  | true =>
    have cell' : (deleted sql q s).row? q.item = some row := cell
    exact ⟨_, fun n => answer_yes (n + 1) asked about cell, rfl, _, row?_putRow cell' _,
      (about.cell row cell).1.symm⟩
  | false =>
    have cell' : State.row? { s with question := none } q.item = some row := cell
    exact ⟨_, fun n => answer_no n asked about cell, rfl, _,
      row?_putRow (row?_putRow cell' _) _, rfl⟩

/-- Two nested calls are all that an edit of a cell needs, and two all that the
answer needs, if there is a question; after that the cell is settled. -/
theorem handler_settles (cell : s.row? item = some row) (settled : row.userRole = row.text)
    (idle : s.question = none) (text : String) (sql : Sql) :
    ∃ t, (∀ n, setText (onRobotNameChanged sql (n + 2) item) item text s = some t) ∧
      (t.question = none ∧ Settled t item ∨
        (∃ q, t.question = some q) ∧
          ∀ keyOrder events u yes sql', (∀ e ∈ events, Delivered e) →
            run (lift (step keyOrder)) (some t) events = some u → u.rebuilds = t.rebuilds →
            ∃ v, (∀ n, answerQuestion sql' (n + 2) yes u = some v) ∧ v.question = none ∧
              Settled v item) := by
  obtain ⟨t, edit, result⟩ := setText_cases cell settled idle text sql
  refine ⟨t, edit, ?_⟩
  rcases result with done | ⟨-, named, rfl⟩
  · exact Or.inl done
  refine Or.inr ⟨⟨_, rfl⟩, ?_⟩
  intro keyOrder events u yes sql' delivered waiting kept
  have same := (waited_of_run delivered waiting).sameTable kept
  have old : row.userRole ≠ "" := by
    rw [settled]
    exact named
  have cell' := (same.row? item).trans (asking_row? cell)
  exact answer_settles same.question ((asking_asked cell old).of_sameTable same) cell' yes sql'

theorem erased_name_settles :
    ∃ t v, setText (onRobotNameChanged .succeeds 2 ⟨1, 0⟩) ⟨1, 0⟩ "" namedState = some t ∧
      answerQuestion .succeeds 2 false t = some v ∧ v.question = none ∧ Settled v ⟨1, 0⟩ := by
  have cell : namedState.row? ⟨1, 0⟩
      = some ⟨"A", "A", 0, "r1", "10.0.0.7", "5000", .activeUnknown⟩ := rfl
  obtain ⟨t, edit, result⟩ := handler_settles cell rfl rfl "" .succeeds
  cases edit 0
  rcases result with ⟨unasked, -⟩ | ⟨-, answered⟩
  · cases unasked
  · obtain ⟨v, answer, closed, settled⟩ := answered id [] _ false .succeeds
      (fun _ mem => absurd mem List.not_mem_nil) rfl rfl
    exact ⟨_, v, rfl, answer 0, closed, settled⟩

/-! ### The item that is written -/

/-- The item that the handler writes to after the answer is in the table. -/
def ItemPresent (keyOrder : List String → List String) (repo : Repository)
    (events : List Event) : Prop :=
  ∀ s q, Reaches keyOrder repo events s → s.question = some q → (s.row? q.item).isSome = true

/-- No tick of the timer finds a change while the box is open. -/
def Undisturbed (keyOrder : List String → List String) (repo : Repository)
    (before : List Event) (e : Event) : Prop :=
  ∀ s executed, Reaches keyOrder repo before s → s.question ≠ none → e = .updateTable executed →
    findsChange keyOrder executed s = false

theorem answer_defined_iff {q : Question} (asked : s.question = some q) (about : Asked s q)
    (yes : Bool) (sql : Sql) :
    (step keyOrder s (.answer yes sql)).isSome = true ↔ (s.row? q.item).isSome = true := by
  cases cell : s.row? q.item with
  | some row =>
    obtain ⟨t, answered, -⟩ := answer_settles asked about cell yes sql
    have defined : step keyOrder s (.answer yes sql) = some t := answered 0
    rw [defined]
    exact iff_of_true rfl rfl
  | none =>
    have undefined : step keyOrder s (.answer yes sql) = none :=
      answer_removed nesting yes asked cell
    rw [undefined]
    exact iff_of_false Bool.false_ne_true Bool.false_ne_true

/-- A rebuild of the table deletes the item, and nothing else does. -/
theorem updateTable_item_iff {q : Question} (about : Asked s q)
    (present : (s.row? q.item).isSome = true) (executed : Bool) :
    ((updateTable keyOrder executed s).row? q.item).isSome = true ↔
      findsChange keyOrder executed s = false := by
  cases change : findsChange keyOrder executed s with
  | false =>
    rw [updateTable_kept change]
    exact iff_of_true present rfl
  | true =>
    rw [updateTable_found change]
    have deleted : q.item.rebuild ≠ s.rebuilds + 1 := Nat.ne_of_lt (Nat.lt_succ_of_le about.made)
    have gone : State.row? { s with
        heap := (classified keyOrder executed s).1
        categories := (classified keyOrder executed s).2
        table := fromScratch keyOrder executed s
        rebuilds := s.rebuilds + 1 } q.item = none := if_neg deleted
    rw [gone]
    decide

theorem answerQuestion_closes {yes : Bool} (inv : TableInvariant s)
    (h : answerQuestion sql nesting yes s = some t) : t.question = none := by
  cases asked : s.question with
  | none =>
    simp only [answerQuestion, asked] at h
    cases h
  | some q =>
    have defined : (step id s (.answer yes sql)).isSome = true :=
      Option.isSome_iff_exists.mpr ⟨t, h⟩
    obtain ⟨row, cell⟩ := Option.isSome_iff_exists.mp
      ((answer_defined_iff asked (inv.asked q asked) yes sql).mp defined)
    obtain ⟨t', answered, closed, -⟩ := answer_settles asked (inv.asked q asked) cell yes sql
    cases (answered 0).symm.trans h
    exact closed

/-- An edit that opens the box leaves its item in the table. -/
theorem setText_present {i : Nat} {text : String} {q : Question} (inv : TableInvariant s)
    (idle : s.question = none) (h : step keyOrder s (.editName i text sql) = some t)
    (asked : t.question = some q) : (t.row? q.item).isSome = true := by
  simp only [step, idle] at h
  cases cell : s.table[i]? with
  | none =>
    rw [setText, row?_current, cell] at h
    cases h
  | some row =>
    have current : s.row? ⟨s.rebuilds, i⟩ = some row := (row?_current s i).trans cell
    obtain ⟨t', edit, result⟩ :=
      setText_cases current (inv.settled_of_idle idle cell) idle text sql
    cases (edit 0).symm.trans h
    rcases result with ⟨done, -⟩ | ⟨-, -, rfl⟩
    · rw [done] at asked
      cases asked
    · cases asked
      rw [asking_row? current]
      rfl

theorem itemPresent_step {repo : Repository} {before : List Event}
    (present : ItemPresent keyOrder repo before) (e : Event) :
    ItemPresent keyOrder repo (before ++ [e]) ↔ Undisturbed keyOrder repo before e := by
  constructor
  · rintro later s executed reached opened rfl
    obtain ⟨q, asked⟩ := Option.ne_none_iff_exists'.mp opened
    have about := (reaches_invariant reached).asked q asked
    rw [← updateTable_item_iff about (present s q reached asked)]
    refine later _ q ?_ ?_
    · rw [Reaches, run_concat, reached]
      rfl
    · exact ((Waited.refl s).updateTable executed).question.trans asked
  · intro undisturbed t q reached asked
    obtain ⟨s, earlier, h⟩ := run_lift_concat reached
    have inv : TableInvariant s := reaches_invariant earlier
    cases e with
    | datagram senderAddress senderPort machineID arpingPort =>
      cases h
      have same := registerRobot_sameTable senderAddress senderPort machineID arpingPort s
      rw [same.row?]
      exact present s q earlier (same.question.symm.trans asked)
    | updateTable executed =>
      cases h
      have earlierAsked : s.question = some q :=
        ((Waited.refl s).updateTable executed).question.symm.trans asked
      rw [updateTable_item_iff (inv.asked q earlierAsked) (present s q earlier earlierAsked)]
      exact undisturbed s executed earlier (by simp [earlierAsked]) rfl
    | editName i text sql =>
      cases idle : s.question with
      | some q =>
        simp only [step, idle] at h
        cases h
      | none => exact setText_present inv idle h asked
    | answer yes sql =>
      rw [answerQuestion_closes inv h] at asked
      cases asked

/-- Whatever happens, the item that the handler goes on with is in the table as
long as no tick of the timer has found a change; and the answer is defined as
long as it is. -/
theorem item_present_iff (keyOrder : List String → List String) (repo : Repository)
    (events : List Event) :
    (Throughout (ItemPresent keyOrder repo) events ↔
        Along (Undisturbed keyOrder repo) events) ∧
      ∀ s q yes sql, Reaches keyOrder repo events s → s.question = some q →
        ((step keyOrder s (.answer yes sql)).isSome = true ↔ (s.row? q.item).isSome = true) := by
  constructor
  · refine throughout_iff_along ?_ ?_ events
    · intro s q reached asked
      cases reached
      cases asked
    · intro before e present
      exact itemPresent_step (present before [] (List.append_nil before).symm) e
  · intro s q yes sql reached asked
    exact answer_defined_iff asked ((reaches_invariant reached).asked q asked) yes sql

/-- A name is erased, and another robot calls before the question is answered. -/
def disturbedRun : List Event :=
  namingRun ++ [.editName 0 "" .succeeds, .datagram "10.0.0.8" 5000 (some "r2") 0,
    .updateTable true]

theorem removed_item_written :
    ¬∀ (keyOrder : List String → List String) (repo : Repository) (events : List Event)
      (s : State) (q : Question), (∀ keys, (keyOrder keys).Perm keys) →
      Reaches keyOrder repo events s → s.question = some q →
      (s.row? q.item).isSome = true := by
  intro claimed
  have present := claimed id .empty disturbedRun _ _ (fun _ => .refl _) rfl rfl
  revert present
  decide

end DeletionQuestion
