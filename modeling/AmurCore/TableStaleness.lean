import AmurCore.TableContents

/-!
# When the robot table shows the current data

`updateTable` over a sequence of contents, with entries that the network list
may share from one call to the next. The rows change only when a set of machine
IDs does, so a name, an address or a port that changes under the same IDs is not
shown.
-/

namespace TableStaleness

open EventRuns RobotRepository ConnectTable TableContents

/-! ### Entries behind pointers -/

def entries (heap : Heap) (robots : RobotList) : List RobotEntry :=
  robots.reduceOption.map heap.entry

/-- All pointers of the list have been made. -/
def Made (heap : Heap) (robots : RobotList) : Prop := ∀ p ∈ robots.reduceOption, p < heap.size

/-- Entries made later leave the earlier ones as they are. -/
structure Extends (heap heap' : Heap) : Prop where
  size : heap.size ≤ heap'.size
  entry : ∀ p < heap.size, heap'.entry p = heap.entry p

theorem Extends.refl (heap : Heap) : Extends heap heap := ⟨Nat.le_refl _, fun _ _ => rfl⟩

theorem Extends.trans {heap heap' heap'' : Heap} (first : Extends heap heap')
    (second : Extends heap' heap'') : Extends heap heap'' :=
  ⟨Nat.le_trans first.size second.size, fun p small =>
    (second.entry p (Nat.lt_of_lt_of_le small first.size)).trans (first.entry p small)⟩

theorem Extends.made {heap heap' : Heap} (later : Extends heap heap') {robots : RobotList}
    (made : Made heap robots) : Made heap' robots :=
  fun p mem => Nat.lt_of_lt_of_le (made p mem) later.size

theorem Extends.entries {heap heap' : Heap} (later : Extends heap heap') {robots : RobotList}
    (made : Made heap robots) : entries heap' robots = entries heap robots :=
  List.map_congr_left fun p mem => later.entry p (made p mem)

theorem allocate_extends (robot : RobotEntry) (heap : Heap) :
    Extends heap (heap.allocate robot).2 :=
  ⟨Nat.le_succ _, fun _ small => heap.allocate_entry robot small⟩

theorem allocateAll_spec (robots : List RobotEntry) (heap : Heap) :
    Extends heap (heap.allocateAll robots).2 ∧
      Made (heap.allocateAll robots).2 (heap.allocateAll robots).1 ∧
      entries (heap.allocateAll robots).2 (heap.allocateAll robots).1 = robots := by
  induction robots generalizing heap with
  | nil => exact ⟨.refl heap, fun p mem => absurd mem List.not_mem_nil, rfl⟩
  | cons robot robots ih =>
    obtain ⟨later, made, found⟩ := ih (heap.allocate robot).2
    have first := allocate_extends robot heap
    have new : heap.size < (heap.allocate robot).2.size := Nat.lt_succ_self _
    refine ⟨⟨Nat.le_trans first.size later.size, fun p small => ?_⟩, ?_, ?_⟩
    · exact (later.entry p (Nat.lt_succ_of_lt small)).trans (first.entry p small)
    · intro p mem
      rcases List.mem_cons.mp mem with rfl | mem
      · exact Nat.lt_of_lt_of_le new later.size
      · exact made p mem
    · have here : ((heap.allocate robot).2.allocateAll robots).2.entry heap.size = robot := by
        rw [later.entry _ new]
        exact Function.update_self ..
      exact congrArg₂ List.cons here found

theorem extractMachineIDs_eq (heap : Heap) (robots : RobotList) :
    extractMachineIDs heap robots = (entries heap robots).map machineKey := by
  rw [extractMachineIDs, entries, List.map_map]
  rfl

theorem sameMachineIDs_iff (heap : Heap) (robots robots' : RobotList) :
    sameMachineIDs heap robots robots' ↔ ∀ machineID,
      machineID ∈ (entries heap robots).map machineKey ↔
        machineID ∈ (entries heap robots').map machineKey := by
  simp only [sameMachineIDs, extractMachineIDs_eq, Bool.and_eq_true, List.all_eq_true,
    List.contains_iff_mem]
  constructor
  · rintro ⟨left, right⟩ machineID
    exact ⟨left machineID, right machineID⟩
  · intro same
    exact ⟨fun machineID => (same machineID).mp, fun machineID => (same machineID).mpr⟩

/-! ### The classification -/

/-- What `updateTable` is given in the state `s`. -/
structure Found (c : Contents) (s : State) : Prop where
  repo : s.repo = c.repo
  made : ∀ p ∈ s.robots, p < s.heap.size
  robots : s.robots.map s.heap.entry = c.robots

theorem knownRobot_entry {heap : Heap} {knownRobots : RobotList} {c : Contents}
    (known : entries heap knownRobots = c.known) (machineID : String) :
    (knownRobot heap knownRobots machineID).map heap.entry = c.find machineID := by
  have keys : (c.known.map machineKey).Nodup := knownIDs_nodup c
  have last : c.known.reverse.find? (fun robot => machineKey robot = machineID) =
      c.known.find? fun robot => machineKey robot = machineID :=
    find?_reverse_of_nodup machineKey keys machineID
  rw [Contents.find, ← last, ← known, entries, ← List.map_reverse, List.find?_map]
  rfl

/-- The lists of pointers that `categorizeRobots` builds point to the entries of
the categories. -/
structure Classified (keyOrder : List String → List String) (heap : Heap) (lists : Categories)
    (c : Contents) : Prop where
  activeKnown : entries heap lists.activeKnown = c.activeKnown
  activeUnknown : entries heap lists.activeUnknown = c.activeUnknown
  knownInactive : entries heap lists.knownInactive = c.knownInactive keyOrder

theorem reduceOption_map_some {α : Type} (l : List α) : (l.map some).reduceOption = l := by
  rw [List.reduceOption, List.filterMap_map]
  exact List.filterMap_some

theorem classify_classified (keyOrder : List String → List String) {heap : Heap}
    {knownRobots activeRobots : RobotList} {c : Contents}
    (known : entries heap knownRobots = c.known) (active : entries heap activeRobots = c.robots) :
    Classified keyOrder heap (classify heap keyOrder knownRobots activeRobots) c := by
  have knownIDs : extractMachineIDs heap knownRobots = c.knownIDs := by
    rw [extractMachineIDs_eq, known, Contents.knownIDs]
  have activeIDs : extractMachineIDs heap activeRobots = c.activeIDs := by
    rw [extractMachineIDs_eq, active, Contents.activeIDs]
  constructor
  · rw [entries, classify, reduceOption_map_some, List.map_filterMap, Contents.activeKnown,
      ← activeIDs, extractMachineIDs, List.filterMap_map]
    exact List.filterMap_congr fun p _ => knownRobot_entry known _
  · rw [entries, classify, reduceOption_map_some, Contents.activeUnknown, ← active, entries,
      List.filter_map]
    congr 1
    refine List.filter_congr fun p _ => ?_
    simp only [Function.comp_apply, ← knownRobot_entry known, Option.isNone_map]
    rfl
  · have keys : (extractMachineIDs heap knownRobots).dedup = c.knownIDs := by
      rw [knownIDs, List.Nodup.dedup (knownIDs_nodup c)]
    rw [entries, classify, keys, Contents.knownInactive, Contents.inactiveIDs]
    simp only [List.reduceOption, List.filterMap_map, List.map_filterMap]
    rw [← activeIDs]
    exact List.filterMap_congr fun machineID _ => knownRobot_entry known machineID

theorem classify_made (keyOrder : List String → List String) {heap : Heap}
    {knownRobots activeRobots : RobotList} (known : Made heap knownRobots)
    (active : Made heap activeRobots) :
    Made heap (classify heap keyOrder knownRobots activeRobots).activeKnown ∧
      Made heap (classify heap keyOrder knownRobots activeRobots).activeUnknown ∧
      Made heap (classify heap keyOrder knownRobots activeRobots).knownInactive := by
  have ofKnown : ∀ machineID p, knownRobot heap knownRobots machineID = some p → p < heap.size := by
    intro machineID p found
    exact known p (List.mem_reverse.mp (List.mem_of_find?_eq_some found))
  refine ⟨?_, ?_, ?_⟩
  · intro p mem
    rw [classify, reduceOption_map_some, List.mem_filterMap] at mem
    obtain ⟨q, -, found⟩ := mem
    exact ofKnown _ p found
  · intro p mem
    rw [classify, reduceOption_map_some] at mem
    exact active p (List.mem_of_mem_filter mem)
  · intro p mem
    rw [classify, List.reduceOption_mem_iff, List.mem_map] at mem
    obtain ⟨machineID, -, found⟩ := mem
    exact ofKnown machineID p found

/-! ### The table -/

/-- The heap and the lists that an update of the table classifies. -/
def classified (keyOrder : List String → List String) (executed : Bool) (s : State) :
    Heap × Categories :=
  let (knownRobots, heap) := s.heap.allocateAll (loadRobots executed s.repo)
  (heap, classify heap keyOrder knownRobots (s.robots.map some))

/-- The rows of a table filled from scratch. -/
def fromScratch (keyOrder : List String → List String) (executed : Bool) (s : State) :
    List TableRow :=
  let (heap, lists) := classified keyOrder executed s
  fillTableWithRobots heap lists.activeKnown .activeKnown ++
    fillTableWithRobots heap lists.activeUnknown .activeUnknown ++
    fillTableWithRobots heap lists.knownInactive .knownInactive

def shown (row : TableRow) : Category × Texts :=
  (row.category, ⟨row.text, row.machineID, row.address, row.port⟩)

theorem fillTableWithRobots_shown (heap : Heap) (robots : RobotList) (category : Category) :
    (fillTableWithRobots heap robots category).map shown =
      (entries heap robots).map fun robot => (category, texts robot) := by
  rw [fillTableWithRobots, entries, List.map_map, List.map_map]
  rfl

/-- The pointers are made, and their entries have the machine IDs of the robots. -/
structure HasIDs (heap : Heap) (pointers : RobotList) (robots : List RobotEntry) : Prop where
  made : Made heap pointers
  ids : ∀ machineID, machineID ∈ (entries heap pointers).map machineKey ↔
    machineID ∈ robots.map machineKey

theorem HasIDs.of_entries {heap : Heap} {pointers : RobotList} {robots : List RobotEntry}
    (made : Made heap pointers) (same : entries heap pointers = robots) :
    HasIDs heap pointers robots := by
  subst same
  exact ⟨made, fun _ => Iff.rfl⟩

theorem HasIDs.later {heap heap' : Heap} {pointers : RobotList} {robots : List RobotEntry}
    (has : HasIDs heap pointers robots) (size : heap.size ≤ heap'.size)
    (machineID : ∀ p < heap.size, (heap'.entry p).machineID = (heap.entry p).machineID) :
    HasIDs heap' pointers robots := by
  have same : (entries heap' pointers).map machineKey = (entries heap pointers).map machineKey := by
    rw [entries, entries, List.map_map, List.map_map]
    refine List.map_congr_left fun p mem => ?_
    exact congrArg (Option.getD · "") (machineID p (has.made p mem))
  refine ⟨fun p mem => Nat.lt_of_lt_of_le (has.made p mem) size, ?_⟩
  rw [same]
  exact has.ids

/-- The lists have the machine IDs of the categories of the contents. -/
structure Tracks (keyOrder : List String → List String) (c : Contents) (heap : Heap)
    (lists : Categories) : Prop where
  activeUnknown : HasIDs heap lists.activeUnknown c.activeUnknown
  knownInactive : HasIDs heap lists.knownInactive (c.knownInactive keyOrder)
  activeKnown : HasIDs heap lists.activeKnown c.activeKnown

theorem Tracks.later {keyOrder : List String → List String} {c : Contents} {heap heap' : Heap}
    {lists : Categories} (tracks : Tracks keyOrder c heap lists) (size : heap.size ≤ heap'.size)
    (machineID : ∀ p < heap.size, (heap'.entry p).machineID = (heap.entry p).machineID) :
    Tracks keyOrder c heap' lists :=
  ⟨tracks.activeUnknown.later size machineID, tracks.knownInactive.later size machineID,
    tracks.activeKnown.later size machineID⟩

theorem HasIDs.congr {heap : Heap} {pointers : RobotList} {robots robots' : List RobotEntry}
    (has : HasIDs heap pointers robots)
    (same : ∀ machineID, machineID ∈ robots.map machineKey ↔ machineID ∈ robots'.map machineKey) :
    HasIDs heap pointers robots' :=
  ⟨has.made, fun machineID => (has.ids machineID).trans (same machineID)⟩

section Classified
variable {keyOrder : List String → List String} {c : Contents} {s : State}

theorem classified_spec (keyOrder : List String → List String) (found : Found c s) :
    Extends s.heap (classified keyOrder c.executed s).1 ∧
      Classified keyOrder (classified keyOrder c.executed s).1
        (classified keyOrder c.executed s).2 c ∧
      Tracks keyOrder c (classified keyOrder c.executed s).1
        (classified keyOrder c.executed s).2 := by
  obtain ⟨later, madeKnown, known⟩ := allocateAll_spec (loadRobots c.executed s.repo) s.heap
  have madeActive : Made s.heap (s.robots.map some) := by
    intro p mem
    rw [reduceOption_map_some] at mem
    exact found.made p mem
  have active : entries (s.heap.allocateAll (loadRobots c.executed s.repo)).2 (s.robots.map some)
      = c.robots := by
    rw [later.entries madeActive, entries, reduceOption_map_some, found.robots]
  have lists := classify_classified keyOrder (known.trans (by rw [found.repo]; rfl)) active
  obtain ⟨activeKnown, activeUnknown, knownInactive⟩ :=
    classify_made keyOrder madeKnown (later.made madeActive)
  exact ⟨later, lists, .of_entries activeUnknown lists.activeUnknown,
    .of_entries knownInactive lists.knownInactive, .of_entries activeKnown lists.activeKnown⟩

theorem fromScratch_shown (found : Found c s) :
    (fromScratch keyOrder c.executed s).map shown = c.rows keyOrder := by
  obtain ⟨-, lists, -⟩ := classified_spec keyOrder found
  simp only [fromScratch, List.map_append, fillTableWithRobots_shown, lists.activeKnown,
    lists.activeUnknown, lists.knownInactive, Contents.rows]

/-- The comparison of `categorizeRobots`. -/
def sameLists (heap : Heap) (lists lists' : Categories) : Bool :=
  sameMachineIDs heap lists.activeUnknown lists'.activeUnknown &&
    sameMachineIDs heap lists.knownInactive lists'.knownInactive &&
    sameMachineIDs heap lists.activeKnown lists'.activeKnown

theorem categorizeRobots_eq (heap : Heap) (keyOrder : List String → List String)
    (knownRobots activeRobots : RobotList) (lists : Categories) :
    categorizeRobots heap keyOrder knownRobots activeRobots lists =
      if sameLists heap lists (classify heap keyOrder knownRobots activeRobots) then (false, lists)
      else (true, classify heap keyOrder knownRobots activeRobots) := by
  have changed : (!sameMachineIDs heap lists.activeUnknown
        (classify heap keyOrder knownRobots activeRobots).activeUnknown ||
      !sameMachineIDs heap lists.knownInactive
        (classify heap keyOrder knownRobots activeRobots).knownInactive ||
      !sameMachineIDs heap lists.activeKnown
        (classify heap keyOrder knownRobots activeRobots).activeKnown) =
      !sameLists heap lists (classify heap keyOrder knownRobots activeRobots) := by
    rw [sameLists, Bool.not_and, Bool.not_and]
  simp only [categorizeRobots, changed]
  cases sameLists heap lists (classify heap keyOrder knownRobots activeRobots) <;> rfl

theorem updateTable_same {executed : Bool}
    (same : sameLists (classified keyOrder executed s).1 s.categories
      (classified keyOrder executed s).2 = true) :
    updateTable keyOrder executed s = { s with heap := (classified keyOrder executed s).1 } := by
  rw [classified] at same
  simp only [updateTable, categorizeRobots_eq, same]
  rfl

theorem updateTable_rebuilt {executed : Bool}
    (differ : sameLists (classified keyOrder executed s).1 s.categories
      (classified keyOrder executed s).2 = false) :
    updateTable keyOrder executed s = { s with
      heap := (classified keyOrder executed s).1
      categories := (classified keyOrder executed s).2
      table := fromScratch keyOrder executed s
      rebuilds := s.rebuilds + 1 } := by
  rw [classified] at differ
  simp only [updateTable, categorizeRobots_eq, differ]
  rfl

/-- `updateTable` rebuilds the table exactly if a set of machine IDs differs from
the last call. -/
theorem updateTable_spec (listed : ∀ keys, (keyOrder keys).Perm keys) {previous : Contents}
    (tracks : Tracks keyOrder previous s.heap s.categories) (found : Found c s) :
    Tracks keyOrder c (updateTable keyOrder c.executed s).heap
        (updateTable keyOrder c.executed s).categories ∧
      (SameMachineIDs previous c → (updateTable keyOrder c.executed s).table = s.table) ∧
      (¬SameMachineIDs previous c →
        (updateTable keyOrder c.executed s).table = fromScratch keyOrder c.executed s) := by
  obtain ⟨later, -, new⟩ := classified_spec keyOrder found
  have kept := tracks.later later.size fun p small => by rw [later.entry p small]
  have compared : sameLists (classified keyOrder c.executed s).1 s.categories
      (classified keyOrder c.executed s).2 ↔ SameMachineIDs previous c := by
    rw [← sameCategories_iff listed]
    simp only [sameLists, Bool.and_eq_true, sameMachineIDs_iff, kept.activeUnknown.ids,
      kept.knownInactive.ids, kept.activeKnown.ids, new.activeUnknown.ids, new.knownInactive.ids,
      new.activeKnown.ids, and_assoc]
  by_cases same : SameMachineIDs previous c
  · obtain ⟨unknown, inactive, known⟩ := (sameCategories_iff listed previous c).mpr same
    rw [updateTable_same (compared.mpr same)]
    exact ⟨⟨kept.activeUnknown.congr unknown, kept.knownInactive.congr inactive,
      kept.activeKnown.congr known⟩, fun _ => rfl, fun differ => absurd same differ⟩
  · rw [updateTable_rebuilt (Bool.eq_false_iff.mpr (mt compared.mp same))]
    exact ⟨new, fun again => absurd again same, fun _ => rfl⟩

end Classified

/-! ### Sequences of calls -/

/-- What may happen from one call to the next: entries are made and changed, none
of them in its machine ID, and the repository and the list of the network become
anything. -/
structure Between (s t : State) : Prop where
  size : s.heap.size ≤ t.heap.size
  machineID : ∀ p < s.heap.size, (t.heap.entry p).machineID = (s.heap.entry p).machineID
  categories : t.categories = s.categories
  table : t.table = s.table

theorem registerRobot_between (senderAddress : String) (senderPort : UInt16)
    (machineID : Option String) (arpingPort : Int) (s : State) :
    Between s (registerRobot senderAddress senderPort machineID arpingPort s) := by
  rcases registerRobot_cases senderAddress senderPort machineID arpingPort s with
    same | ⟨robot, added⟩
  · rw [same]
    exact ⟨Nat.le_refl _, fun _ _ => rfl, rfl, rfl⟩
  · have later := allocate_extends robot s.heap
    rw [added]
    exact ⟨later.size, fun p small => congrArg RobotEntry.machineID (later.entry p small), rfl, rfl⟩

/-- The states after calls that find the contents, one after the other. -/
inductive Calls (keyOrder : List String → List String) : List Contents → State → Prop where
  | start (repo : Repository) : Calls keyOrder [] (ConnectTable.start repo)
  | call {before : List Contents} {s t : State} {c : Contents} : Calls keyOrder before s →
      Between s t → Found c t →
      Calls keyOrder (before ++ [c]) (updateTable keyOrder c.executed t)

/-- After the call that finds `c`, the rows are those of a table filled from
scratch. -/
def Current (keyOrder : List String → List String) (before : List Contents) (c : Contents) : Prop :=
  ∀ s t, Calls keyOrder before s → Between s t → Found c t →
    (updateTable keyOrder c.executed t).table.map shown
      = (fromScratch keyOrder c.executed t).map shown

/-- If the same machine IDs are known and the same are active as at the call
before, then all that is shown of them is the same. -/
def Renewed (keyOrder : List String → List String) (before : List Contents) (c : Contents) : Prop :=
  ∀ previous, before.getLast? = some previous → SameMachineIDs previous c →
    ShowsSame keyOrder previous c

def previousContents (before : List Contents) : Contents := before.getLast?.getD .empty

section Runs
variable {keyOrder : List String → List String}

theorem renewed_iff (before : List Contents) (c : Contents) : Renewed keyOrder before c ↔
    (SameMachineIDs (previousContents before) c →
      ShowsSame keyOrder (previousContents before) c) := by
  rw [Renewed, previousContents]
  cases last : before.getLast? with
  | none => simpa using showsSame_empty
  | some previous => simp

theorem tracks_start (keyOrder : List String → List String) (repo : Repository) :
    Tracks keyOrder .empty (ConnectTable.start repo).heap
      (ConnectTable.start repo).categories := by
  have made : Made (ConnectTable.start repo).heap [] := fun p mem => absurd mem List.not_mem_nil
  refine ⟨.of_entries made rfl, ?_, .of_entries made rfl⟩
  exact .of_entries made knownInactive_empty.symm

theorem Between.tracks {s t : State} (between : Between s t) {c : Contents}
    (tracks : Tracks keyOrder c s.heap s.categories) : Tracks keyOrder c t.heap t.categories := by
  rw [between.categories]
  exact tracks.later between.size between.machineID

/-- After any calls the lists have the machine IDs that the last call found. -/
theorem calls_tracks (listed : ∀ keys, (keyOrder keys).Perm keys) {before : List Contents}
    {s : State} (calls : Calls keyOrder before s) :
    Tracks keyOrder (previousContents before) s.heap s.categories := by
  induction calls with
  | start repo => exact tracks_start keyOrder repo
  | call _ between found ih =>
    rw [previousContents, List.getLast?_concat, Option.getD_some]
    exact (updateTable_spec listed (between.tracks ih) found).1

theorem calls_shown {before : List Contents} {s : State} (calls : Calls keyOrder before s)
    (current : Along (Current keyOrder) before) :
    s.table.map shown = (previousContents before).rows keyOrder := by
  cases calls with
  | start repo => exact rows_empty.symm
  | call calls between found =>
    rw [previousContents, List.getLast?_concat, Option.getD_some, ← fromScratch_shown found]
    exact (along_concat.mp current).2 _ _ calls between found

theorem exists_found (s : State) (c : Contents) : ∃ t, Between s t ∧ Found c t := by
  obtain ⟨later, made, found⟩ := allocateAll_spec c.robots s.heap
  refine ⟨{ s with
    heap := (s.heap.allocateAll c.robots).2
    robots := (s.heap.allocateAll c.robots).1.reduceOption
    repo := c.repo }, ?_, ⟨rfl, made, found⟩⟩
  exact ⟨later.size, fun p small => congrArg RobotEntry.machineID (later.entry p small), rfl, rfl⟩

theorem exists_calls (keyOrder : List String → List String) (before : List Contents) :
    ∃ s, Calls keyOrder before s := by
  induction before using List.reverseRecOn with
  | nil => exact ⟨_, .start UniqueRows.empty⟩
  | append_singleton before c ih =>
    obtain ⟨s, calls⟩ := ih
    obtain ⟨t, between, found⟩ := exists_found s c
    exact ⟨_, .call calls between found⟩

/-- The rows are current after every call exactly when each call that finds the
machine IDs of the call before also finds what was shown of them. -/
theorem table_current_iff (listed : ∀ keys, (keyOrder keys).Perm keys) (contents : List Contents) :
    Along (Current keyOrder) contents ↔ Along (Renewed keyOrder) contents := by
  refine along_iff_along ?_ contents
  intro before c current
  rw [renewed_iff]
  -- with the same machine IDs the old rows stay, and with others the table is rebuilt
  have exact_call : ∀ s t, Calls keyOrder before s → Between s t → Found c t →
      ((updateTable keyOrder c.executed t).table.map shown
          = (fromScratch keyOrder c.executed t).map shown ↔
        (SameMachineIDs (previousContents before) c →
          ShowsSame keyOrder (previousContents before) c)) := by
    intro s t calls between found
    obtain ⟨-, kept, rebuilt⟩ :=
      updateTable_spec listed (between.tracks (calls_tracks listed calls)) found
    by_cases same : SameMachineIDs (previousContents before) c
    · rw [kept same, between.table, calls_shown calls current, fromScratch_shown found,
        rows_eq_iff listed same]
      exact ⟨fun shows _ => shows, fun shows => shows same⟩
    · rw [rebuilt same]
      exact iff_of_true rfl fun again => absurd again same
  constructor
  · intro always
    obtain ⟨s, calls⟩ := exists_calls keyOrder before
    obtain ⟨t, between, found⟩ := exists_found s c
    exact (exact_call s t calls between found).mp (always s t calls between found)
  · intro shows s t calls between found
    exact (exact_call s t calls between found).mpr shows

/-- An unnamed robot that is not in the repository. -/
def robotAt (address : String) : RobotEntry := ⟨"", some "m1", some address, 5555, 0, ""⟩

def oneAddress : Contents := ⟨true, UniqueRows.empty, [robotAt "10.0.0.1"]⟩

def twoAddresses : Contents := ⟨true, UniqueRows.empty, [robotAt "10.0.0.1", robotAt "10.0.0.2"]⟩

/-- The robot has sent its answers from another port, which the table does not show. -/
def answeredAgain : Contents :=
  ⟨true, UniqueRows.empty, [{ robotAt "10.0.0.1" with portForAnswer := 40002 }]⟩

theorem answeredAgain_current : Along (Current id) [oneAddress, answeredAgain] := by
  refine (table_current_iff (fun _ => .refl _) [oneAddress, answeredAgain]).mpr ?_
  have first : Along (Renewed id) ([] ++ [oneAddress]) :=
    along_concat.mpr ⟨along_nil _, fun previous none => nomatch none⟩
  refine along_concat.mpr ⟨first, fun previous last _ => ?_⟩
  cases last
  exact ⟨fun _ => rfl, by decide, by decide, by decide⟩

/-- A robot is seen at a second address after its row was filled. -/
theorem second_address_missed :
    ¬∀ (keyOrder : List String → List String) (contents : List Contents),
      (∀ keys, (keyOrder keys).Perm keys) → Along (Current keyOrder) contents := by
  intro claimed
  have current := claimed id [oneAddress, twoAddresses] (fun _ => .refl _)
    [oneAddress] twoAddresses [] rfl
  let seenFirst := registerRobot "10.0.0.1" 5555 (some "m1") 0 (start UniqueRows.empty)
  let shownFirst := updateTable id true seenFirst
  let seenAgain := registerRobot "10.0.0.2" 5555 (some "m1") 0 shownFirst
  have calls : Calls id ([] ++ [oneAddress]) shownFirst :=
    .call (.start UniqueRows.empty) (registerRobot_between ..) ⟨rfl, by decide, by decide⟩
  have shows := current shownFirst seenAgain calls (registerRobot_between ..)
    ⟨rfl, by decide, by decide⟩
  have rows := congrArg List.length shows
  revert rows
  decide

end Runs

end TableStaleness
