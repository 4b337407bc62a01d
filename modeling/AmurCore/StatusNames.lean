import AmurCore.DeclinedDeletion
import AmurCore.NameHandler
import AmurCore.StatusText

/-!
# The robot of the status message

The window follows the robots that the network has registered. They keep their
machine IDs and never lose a name, so the message is about the first robot until
some robot has a name, and from then on it moves to robots registered earlier only.
The repository is asked for a name at most once in a run of the program.
-/

namespace StatusNames

open ConnectTable hiding State Event step start Reaches
open EventRuns RobotRepository NameEdits TableStaleness DeletionQuestion DeclinedDeletion
open NameHandler StatusMessage

variable {keyOrder : List String → List String} {locale : QLocale}

/-! ### Entries as time goes by -/

/-- Entries keep their machine IDs, and names are given but never taken away. -/
structure Renames (heap heap' : Heap) : Prop where
  size : heap.size ≤ heap'.size
  machineID : ∀ p < heap.size, (heap'.entry p).machineID = (heap.entry p).machineID
  named : ∀ p < heap.size, (heap.entry p).name ≠ "" → (heap'.entry p).name ≠ ""

theorem Renames.of_extends {heap heap' : Heap} (later : Extends heap heap') :
    Renames heap heap' := by
  refine ⟨later.size, ?_, ?_⟩
  · intro p made
    rw [later.entry p made]
  · intro p made
    rw [later.entry p made]
    exact id

theorem Renames.refl (heap : Heap) : Renames heap heap := .of_extends (.refl heap)

theorem Renames.trans {heap heap' heap'' : Heap} (first : Renames heap heap')
    (second : Renames heap' heap'') : Renames heap heap'' := by
  refine ⟨Nat.le_trans first.size second.size, ?_, ?_⟩
  · intro p made
    rw [second.machineID p (Nat.lt_of_lt_of_le made first.size), first.machineID p made]
  · intro p made has_name
    exact second.named p (Nat.lt_of_lt_of_le made first.size) (first.named p made has_name)

theorem setName_entry (heap : Heap) (robot : Pointer) (name : String) :
    (heap.setName robot name).entry robot = { heap.entry robot with name := name } :=
  Function.update_self ..

theorem setName_other (heap : Heap) {robot p : Pointer} (name : String) (other : p ≠ robot) :
    (heap.setName robot name).entry p = heap.entry p :=
  Function.update_of_ne other _ _

theorem setName_machineID (heap : Heap) (robot p : Pointer) (name : String) :
    ((heap.setName robot name).entry p).machineID = (heap.entry p).machineID := by
  by_cases same : p = robot
  · rw [same, setName_entry]
  · rw [setName_other heap name same]

/-- Giving a name takes none away, unless it is empty and the robot had one. -/
theorem setName_renames {heap : Heap} {robot : Pointer} {name : String}
    (given : (heap.entry robot).name ≠ "" → name ≠ "") :
    Renames heap (heap.setName robot name) := by
  refine ⟨Nat.le_refl _, fun p _ => setName_machineID heap robot p name, ?_⟩
  intro p _ has_name
  by_cases same : p = robot
  · rw [same] at has_name ⊢
    rw [setName_entry]
    exact given has_name
  · rw [setName_other heap name same]
    exact has_name

/-- The handler gives names, and never an empty one. -/
theorem renames_respected : Respected fun s t => Renames s.heap t.heap where
  refl s := .refl s.heap
  trans := .trans
  putRow _ _ _ := .refl _
  setName _ _ _ given := setName_renames fun _ => given
  repo _ _ := .refl _
  question _ _ := .refl _

/-! ### The registered robots -/

/-- The robots in the order of their registration, which is that of their making. -/
structure Registered (s : ConnectTable.State) : Prop where
  made : ∀ p ∈ s.robots, p < s.heap.size
  ordered : s.robots.Pairwise (· < ·)

/-- A step of the network and the dialog may register one more robot. -/
structure Grows (s t : ConnectTable.State) : Prop where
  renames : Renames s.heap t.heap
  robots : t.robots = s.robots ∨ t.robots = s.robots ++ [s.heap.size] ∧ s.heap.size < t.heap.size

theorem updateTable_grows (executed : Bool) (s : ConnectTable.State) :
    Grows s (updateTable keyOrder executed s) := by
  have later := Renames.of_extends (classified_extends keyOrder executed s)
  cases change : findsChange keyOrder executed s with
  | false =>
    rw [updateTable_kept change]
    exact ⟨later, Or.inl rfl⟩
  | true =>
    rw [updateTable_found change]
    exact ⟨later, Or.inl rfl⟩

theorem step_grows {s t : ConnectTable.State} {e : ConnectTable.Event}
    (h : ConnectTable.step keyOrder s e = some t) : Grows s t := by
  cases e with
  | datagram senderAddress senderPort machineID arpingPort =>
    cases h
    rcases registerRobot_cases senderAddress senderPort machineID arpingPort s with
      same | ⟨robot, added⟩
    · rw [same]
      exact ⟨.refl _, Or.inl rfl⟩
    · rw [added]
      exact ⟨.of_extends (allocate_extends robot s.heap), Or.inr ⟨rfl, Nat.lt_succ_self _⟩⟩
  | updateTable executed =>
    cases h
    exact updateTable_grows executed s
  | editName i text sql =>
    simp only [ConnectTable.step] at h
    split at h
    · cases h
    · have same := setText_samePointers (onRobotNameChanged_samePointers sql _ _) h
      exact ⟨renames_respected.editName h, Or.inl same.robots⟩
  | answer yes sql =>
    exact ⟨renames_respected.answer h, Or.inl (answerQuestion_samePointers h).robots⟩

theorem Registered.grows {s t : ConnectTable.State} (registered : Registered s)
    (grows : Grows s t) : Registered t := by
  obtain ⟨made, ordered⟩ := registered
  have larger := grows.renames.size
  rcases grows.robots with same | ⟨added, room⟩
  · rw [← same] at made ordered
    exact ⟨fun p mem => Nat.lt_of_lt_of_le (made p mem) larger, ordered⟩
  · constructor
    · intro p mem
      rw [added] at mem
      rcases List.mem_append.mp mem with mem | mem
      · exact Nat.lt_of_lt_of_le (made p mem) larger
      · rw [List.mem_singleton.mp mem]
        exact room
    · rw [added, List.pairwise_append]
      refine ⟨ordered, List.pairwise_singleton _ _, ?_⟩
      intro p mem q last
      rw [List.mem_singleton.mp last]
      exact made p mem

/-! ### One tick -/

/-- A robot that the window prefers. -/
def hasName (heap : Heap) (robot : Pointer) : Bool := (heap.entry robot).name ≠ ""

/-- The first robot with a name is selected, or else the first robot. -/
theorem selectRobot_eq (heap : Heap) (activeRobot : Option Pointer) (robots : List Pointer) :
    selectRobot heap activeRobot robots
      = (robots.find? (hasName heap)).or (activeRobot.or robots.head?) := by
  induction robots generalizing activeRobot with
  | nil => simp [selectRobot]
  | cons robot robots ih =>
    rw [selectRobot]
    split
    · rename_i named
      have prefers : hasName heap robot = true := decide_eq_true named
      rw [List.find?_cons_of_pos prefers, Option.some_or]
    · rename_i unnamed
      have passes : ¬hasName heap robot = true :=
        fun prefers => unnamed (of_decide_eq_true prefers)
      rw [List.find?_cons_of_neg passes, ih, Option.or_assoc, Option.some_or, List.head?_cons]

theorem selected_cases {heap : Heap} {robots : List Pointer} {robot : Pointer}
    (selected : selectRobot heap none robots = some robot) :
    robot ∈ robots ∧ hasName heap robot = true ∨
      (∀ p ∈ robots, ¬hasName heap p = true) ∧ robots.head? = some robot := by
  rw [selectRobot_eq, Option.none_or] at selected
  cases found : robots.find? (hasName heap) with
  | none =>
    rw [found, Option.none_or] at selected
    exact Or.inr ⟨List.find?_eq_none.mp found, selected⟩
  | some q =>
    rw [found, Option.some_or] at selected
    cases selected
    exact Or.inl ⟨List.mem_of_find?_eq_some found, List.find?_some found⟩

/-- A robot without a name that is selected stays so when it gets one. -/
theorem selectRobot_setName {heap : Heap} {robots : List Pointer} {robot : Pointer} (name : String)
    (selected : selectRobot heap none robots = some robot)
    (unnamed : (heap.entry robot).name = "") :
    selectRobot (heap.setName robot name) none robots = some robot := by
  rcases selected_cases selected with ⟨-, named⟩ | ⟨none_named, head⟩
  · exact absurd unnamed (of_decide_eq_true named)
  · rw [selectRobot_eq, Option.none_or, head]
    obtain ⟨rest, rfl⟩ := List.head?_eq_some_iff.mp head
    by_cases named : hasName (heap.setName robot name) robot = true
    · rw [List.find?_cons_of_pos named, Option.some_or]
    · have still_none : (robot :: rest).find? (hasName (heap.setName robot name)) = none := by
        rw [List.find?_eq_none]
        intro p mem
        by_cases same : p = robot
        · rw [same]
          exact named
        · rw [hasName, setName_other heap name same]
          exact none_named p mem
      rw [still_none, Option.none_or]

section Tick
variable {s : State} {robot : Pointer} {executed : Bool}

@[simp] theorem showStatus_shared (message : String) (s : State) :
    (showStatus message s).shared = s.shared := by
  rw [showStatus]
  split <;> rfl

@[simp] theorem showStatus_currentRobotId (message : String) (s : State) :
    (showStatus message s).currentRobotId = s.currentRobotId := by
  rw [showStatus]
  split <;> rfl

theorem showStatus_label {message : String} (same : s.statusLabel = s.statusMessage) :
    (showStatus message s).statusLabel = message ∧
      (showStatus message s).statusMessage = message := by
  rw [showStatus]
  split
  · rename_i unchanged
    exact ⟨same.trans unchanged.symm, unchanged.symm⟩
  · exact ⟨rfl, rfl⟩

/-- Looking for a stored name at most gives one to a robot that has none. -/
theorem pullName_cases (executed : Bool) (robot : Pointer) (s : State) :
    pullName executed robot s = s ∨ (s.shared.heap.entry robot).name = "" ∧ ∃ name,
      pullName executed robot s
        = { s with shared := { s.shared with heap := s.shared.heap.setName robot name } } := by
  rw [pullName]
  split
  · rename_i needed
    have unnamed : (s.shared.heap.entry robot).name = "" := (of_decide_eq_true needed).1
    simp only
    split
    · exact Or.inl rfl
    · rename_i first found
      exact Or.inr ⟨unnamed, first.name, rfl⟩
  · exact Or.inl rfl

theorem pullName_renames (executed : Bool) (robot : Pointer) (s : State) :
    Renames s.shared.heap (pullName executed robot s).shared.heap ∧
      (pullName executed robot s).shared.robots = s.shared.robots := by
  rcases pullName_cases executed robot s with same | ⟨unnamed, name, pulled⟩
  · rw [same]
    exact ⟨.refl _, rfl⟩
  · rw [pulled]
    exact ⟨setName_renames fun named => absurd unnamed named, rfl⟩

theorem updateStatusMessage_of_none
    (selected : selectRobot s.shared.heap none s.shared.robots = none) :
    updateStatusMessage locale executed s
      = showStatus "No robot connected" { s with currentRobotId := "" } := by
  rw [updateStatusMessage, selected]

theorem updateStatusMessage_of_some
    (selected : selectRobot s.shared.heap none s.shared.robots = some robot) :
    updateStatusMessage locale executed s
      = showStatus (robotMessage locale ((pullName executed robot s).shared.heap.entry robot))
          { pullName executed robot s with
            currentRobotId := (pullName executed robot s).shared.heap.machineKey robot } := by
  rw [updateStatusMessage, selected]

/-- A tick registers no robot. -/
theorem updateStatusMessage_grows (locale : QLocale) (executed : Bool) (s : State) :
    Grows s.shared (updateStatusMessage locale executed s).shared := by
  cases selected : selectRobot s.shared.heap none s.shared.robots with
  | none =>
    rw [updateStatusMessage_of_none selected, showStatus_shared]
    exact ⟨.refl _, Or.inl rfl⟩
  | some robot =>
    obtain ⟨renames, robots⟩ := pullName_renames executed robot s
    rw [updateStatusMessage_of_some selected, showStatus_shared]
    exact ⟨renames, Or.inl robots⟩

theorem updateStatusMessage_current
    (selected : selectRobot s.shared.heap none s.shared.robots = some robot) :
    (updateStatusMessage locale executed s).currentRobotId = s.shared.heap.machineKey robot := by
  rw [updateStatusMessage_of_some selected, showStatus_currentRobotId]
  rcases pullName_cases executed robot s with same | ⟨-, name, pulled⟩
  · rw [same]
  · rw [pulled, Heap.machineKey, Heap.machineKey, setName_machineID]

end Tick

/-! ### Runs -/

/-- The machine ID that a step looks up in the repository. -/
def searched (s : State) : Event → List String
  | .frameUpdate _ =>
    match selectRobot s.shared.heap none s.shared.robots with
    | none => []
    | some robot => if needsSearch s robot then [s.shared.heap.machineKey robot] else []
  | .shared _ => []

/-- The robot that a step shows. -/
def shownRobot (s : State) : Event → List Pointer
  | .frameUpdate _ => (selectRobot s.shared.heap none s.shared.robots).toList
  | .shared _ => []

section Step
variable {s t : State} {e : Event} {first p : Pointer}

theorem step_cases (h : step keyOrder locale s e = some t) :
    (∃ change, e = .shared change ∧ Grows s.shared t.shared ∧
      t.currentRobotId = s.currentRobotId ∧ t.statusMessage = s.statusMessage ∧
        t.statusLabel = s.statusLabel) ∨
      ∃ executed, e = .frameUpdate executed ∧ t = updateStatusMessage locale executed s := by
  cases e with
  | shared change =>
    obtain ⟨shared, taken, result⟩ := Option.map_eq_some_iff.mp h
    rw [← result]
    exact Or.inl ⟨change, rfl, step_grows taken, rfl, rfl, rfl⟩
  | frameUpdate executed =>
    cases h
    exact Or.inr ⟨executed, rfl, rfl⟩

theorem step_shared_grows (h : step keyOrder locale s e = some t) : Grows s.shared t.shared := by
  rcases step_cases h with ⟨_, _, grows, _⟩ | ⟨executed, -, result⟩
  · exact grows
  · rw [result]
    exact updateStatusMessage_grows locale executed s

end Step

section Grown
variable {s t : ConnectTable.State} {first p : Pointer}

theorem Grows.mem (grows : Grows s t) (mem : p ∈ s.robots) : p ∈ t.robots := by
  rcases grows.robots with same | ⟨added, -⟩
  · exact same ▸ mem
  · exact added ▸ List.mem_append_left _ mem

theorem Grows.head (grows : Grows s t) (head : s.robots.head? = some first) :
    t.robots.head? = some first := by
  rcases grows.robots with same | ⟨added, -⟩
  · exact same ▸ head
  · rw [added, List.head?_append, head, Option.some_or]

theorem Grows.machineKey (grows : Grows s t) (registered : Registered s) (mem : p ∈ s.robots) :
    t.heap.machineKey p = s.heap.machineKey p := by
  rw [Heap.machineKey, Heap.machineKey, grows.renames.machineID p (registered.made p mem)]

theorem Grows.hasName (grows : Grows s t) (registered : Registered s) (mem : p ∈ s.robots)
    (named : hasName s.heap p = true) : hasName t.heap p = true :=
  decide_eq_true (grows.renames.named p (registered.made p mem) (of_decide_eq_true named))

end Grown

/-! ### Looking for a stored name -/

/-- The repository is not asked any more. -/
def Settled (s : State) : Prop :=
  (∃ p ∈ s.shared.robots, hasName s.shared.heap p = true) ∨
    ∃ first, s.shared.robots.head? = some first ∧
      s.currentRobotId = s.shared.heap.machineKey first

/-- What was looked up so far. -/
def SearchedOnce (ids : List String) (s : State) : Prop :=
  ids = [] ∨ ∃ first, s.shared.robots.head? = some first ∧
    ids = [s.shared.heap.machineKey first] ∧ Settled s

section Search
variable {s t : State} {robot first : Pointer} {executed : Bool}

theorem not_needsSearch (named : hasName s.shared.heap robot = true) :
    needsSearch s robot = false := by
  have has_name : (s.shared.heap.entry robot).name ≠ "" := of_decide_eq_true named
  exact decide_eq_false fun needed => has_name needed.1

theorem Settled.grows (settled : Settled s) (registered : Registered s.shared)
    (grows : Grows s.shared t.shared) (same : t.currentRobotId = s.currentRobotId) : Settled t := by
  rcases settled with ⟨p, mem, named⟩ | ⟨first, head, current⟩
  · exact Or.inl ⟨p, grows.mem mem, grows.hasName registered mem named⟩
  · refine Or.inr ⟨first, grows.head head, ?_⟩
    rw [same, current, grows.machineKey registered (List.mem_of_mem_head? head)]

/-- After a tick that selects a robot nothing is left to be looked up. -/
theorem tick_settled (locale : QLocale) (registered : Registered s.shared)
    (selected : selectRobot s.shared.heap none s.shared.robots = some robot) :
    Settled (updateStatusMessage locale executed s) := by
  have grows := updateStatusMessage_grows locale executed s
  rcases selected_cases selected with ⟨mem, named⟩ | ⟨-, head⟩
  · exact Or.inl ⟨robot, grows.mem mem, grows.hasName registered mem named⟩
  · refine Or.inr ⟨robot, grows.head head, ?_⟩
    rw [updateStatusMessage_current selected,
      grows.machineKey registered (List.mem_of_mem_head? head)]

theorem settled_not_searched (settled : Settled s) : searched s (.frameUpdate executed) = [] := by
  cases selected : selectRobot s.shared.heap none s.shared.robots with
  | none => rw [searched, selected]
  | some robot =>
    have idle : needsSearch s robot = false := by
      rcases selected_cases selected with ⟨-, named⟩ | ⟨unnamed, head⟩
      · exact not_needsSearch named
      · rcases settled with ⟨p, mem, named⟩ | ⟨first, head', current⟩
        · exact absurd named (unnamed p mem)
        · rw [head, Option.some.injEq] at head'
          rw [← head'] at current
          exact decide_eq_false fun needed => needed.2.1 current.symm
    simp only [searched, selected, idle, Bool.false_eq_true, if_false]

/-- Only the first robot is looked up. -/
theorem searched_cases (s : State) (executed : Bool) :
    searched s (.frameUpdate executed) = [] ∨ ∃ first, s.shared.robots.head? = some first ∧
      searched s (.frameUpdate executed) = [s.shared.heap.machineKey first] ∧
      selectRobot s.shared.heap none s.shared.robots = some first := by
  cases selected : selectRobot s.shared.heap none s.shared.robots with
  | none => exact Or.inl (by rw [searched, selected])
  | some robot =>
    cases needed : needsSearch s robot with
    | false =>
      exact Or.inl (by simp only [searched, selected, needed, Bool.false_eq_true, if_false])
    | true =>
      rcases selected_cases selected with ⟨-, named⟩ | ⟨-, head⟩
      · rw [not_needsSearch named] at needed
        cases needed
      · exact Or.inr ⟨robot, head, by simp only [searched, selected, needed, if_true], rfl⟩

end Search

section Runs
variable {repo : Repository} {events : List Event} {s t : State} {e : Event} {ids : List String}

theorem registered_step (h : step keyOrder locale s e = some t) (registered : Registered s.shared) :
    Registered t.shared :=
  registered.grows (step_shared_grows h)

theorem registered_start (repo : Repository) : Registered (start repo).shared :=
  ⟨fun _ mem => absurd mem List.not_mem_nil, .nil⟩

theorem searchedOnce_step (h : step keyOrder locale s e = some t) (registered : Registered s.shared)
    (once : SearchedOnce ids s) : SearchedOnce (ids ++ searched s e) t := by
  have grows := step_shared_grows h
  rcases step_cases h with ⟨change, shared, -, same, -⟩ | ⟨executed, tick, result⟩
  · rw [shared, searched, List.append_nil]
    rcases once with nothing | ⟨first, head, ids_eq, settled⟩
    · exact Or.inl nothing
    · refine Or.inr ⟨first, grows.head head, ?_, settled.grows registered grows same⟩
      rw [ids_eq, grows.machineKey registered (List.mem_of_mem_head? head)]
  · rw [tick]
    rcases once with nothing | ⟨first, head, ids_eq, settled⟩
    · rw [nothing, List.nil_append]
      rcases searched_cases s executed with none_searched | ⟨first, head, looked_up, selected⟩
      · exact Or.inl none_searched
      · refine Or.inr ⟨first, grows.head head, ?_, ?_⟩
        · rw [looked_up, grows.machineKey registered (List.mem_of_mem_head? head)]
        · rw [result]
          exact tick_settled locale registered selected
    · rw [settled_not_searched settled, List.append_nil]
      refine Or.inr ⟨first, grows.head head, ?_, ?_⟩
      · rw [ids_eq, grows.machineKey registered (List.mem_of_mem_head? head)]
      · rw [result]
        cases selected : selectRobot s.shared.heap none s.shared.robots with
        | none =>
          rw [selectRobot_eq, head, Option.none_or, Option.or_some] at selected
          cases selected
        | some robot => exact tick_settled locale registered selected

/-- In a run of the program the repository is asked for a name at most once, for
the robot that was registered first. -/
theorem repository_searched_once (reached : Reaches keyOrder locale repo events s) :
    trace (lift (step keyOrder locale)) (lifted searched) (some (start repo)) events = [] ∨
      ∃ first, s.shared.robots.head? = some first ∧
        trace (lift (step keyOrder locale)) (lifted searched) (some (start repo)) events
          = [s.shared.heap.machineKey first] := by
  have kept : ∀ (ids : List String) (s : State) (e : Event) (t : State),
      step keyOrder locale s e = some t → Registered s.shared ∧ SearchedOnce ids s →
        Registered t.shared ∧ SearchedOnce (ids ++ searched s e) t := by
    rintro ids s e t h ⟨registered, once⟩
    exact ⟨registered_step h registered, searchedOnce_step h registered once⟩
  have whole := trace_lift_invariant kept ⟨registered_start repo, Or.inl rfl⟩ reached
  rcases whole.2 with nothing | ⟨first, head, looked_up, -⟩
  · exact Or.inl nothing
  · exact Or.inr ⟨first, head, looked_up⟩

/-- A robot is seen while the database cannot be read, and another one after it. -/
def twoRobots : List Event :=
  [.shared (.datagram "10.0.0.1" 5555 (some "m1") 0), .frameUpdate false,
    .shared (.datagram "10.0.0.2" 5555 (some "m2") 0)] ++ [.frameUpdate true]

theorem second_robot_not_searched : ∃ s, Reaches id StatusText.plainLocale .empty twoRobots s ∧
    (trace (lift (step id StatusText.plainLocale)) (lifted searched) (some (start .empty))
        twoRobots = [] ∨
      ∃ first, s.shared.robots.head? = some first ∧
        trace (lift (step id StatusText.plainLocale)) (lifted searched) (some (start .empty))
          twoRobots = [s.shared.heap.machineKey first]) :=
  ⟨_, rfl, repository_searched_once rfl⟩

/-! ### The robots shown -/

/-- The first robot is shown until some robot has a name; then the robot shown
has one, and was never registered after the one shown before. -/
structure ShownBack (waiting later : List Pointer) (s : State) : Prop where
  waiting : ∀ p ∈ waiting, s.shared.robots.head? = some p
  named : ∀ p ∈ later, p ∈ s.shared.robots ∧ hasName s.shared.heap p = true
  earlier : later.Pairwise fun p q => q ≤ p

theorem ShownBack.grows {waiting later : List Pointer} (back : ShownBack waiting later s)
    (registered : Registered s.shared) (grows : Grows s.shared t.shared) :
    ShownBack waiting later t := by
  refine ⟨fun p mem => grows.head (back.waiting p mem), ?_, back.earlier⟩
  intro p mem
  obtain ⟨listed, named⟩ := back.named p mem
  exact ⟨grows.mem listed, grows.hasName registered listed named⟩

/-- The robot selected among those with names is the one registered first. -/
theorem selected_least {robot p : Pointer} (registered : Registered s.shared)
    (selected : selectRobot s.shared.heap none s.shared.robots = some robot)
    (listed : p ∈ s.shared.robots) (named : hasName s.shared.heap p = true) : robot ≤ p := by
  rw [selectRobot_eq, Option.none_or] at selected
  cases found : s.shared.robots.find? (hasName s.shared.heap) with
  | none => exact absurd named (List.find?_eq_none.mp found p listed)
  | some q =>
    rw [found, Option.some_or, Option.some.injEq] at selected
    rw [← selected]
    obtain ⟨-, before, after, split, passed⟩ := List.find?_eq_some_iff_append.mp found
    rw [split] at listed
    rcases List.mem_append.mp listed with mem | mem
    · exact absurd named (by simpa using passed p mem)
    · rcases List.mem_cons.mp mem with rfl | mem
      · exact Nat.le_refl _
      · have ordered := registered.ordered
        rw [split, List.pairwise_append, List.pairwise_cons] at ordered
        exact Nat.le_of_lt (ordered.2.1.1 p mem)

theorem tick_shownBack {waiting later : List Pointer} (executed : Bool)
    (registered : Registered s.shared) (back : ShownBack waiting later s) :
    ∃ waiting' later', waiting ++ later ++ shownRobot s (.frameUpdate executed)
      = waiting' ++ later' ∧ ShownBack waiting' later' s := by
  cases selected : selectRobot s.shared.heap none s.shared.robots with
  | none => exact ⟨waiting, later, by rw [shownRobot, selected]; simp, back⟩
  | some robot =>
    have shows_it : shownRobot s (.frameUpdate executed) = [robot] := by
      rw [shownRobot, selected]
      rfl
    rw [shows_it]
    rcases selected_cases selected with ⟨listed, named⟩ | ⟨unnamed, head⟩
    · refine ⟨waiting, later ++ [robot], List.append_assoc _ _ _, back.waiting, ?_, ?_⟩
      · intro p mem
        rcases List.mem_append.mp mem with mem | mem
        · exact back.named p mem
        · rw [List.mem_singleton.mp mem]
          exact ⟨listed, named⟩
      · refine List.pairwise_append.mpr ⟨back.earlier, List.pairwise_singleton _ _, ?_⟩
        intro p mem q last
        rw [List.mem_singleton.mp last]
        obtain ⟨p_listed, p_named⟩ := back.named p mem
        exact selected_least registered selected p_listed p_named
    · have none_named : later = [] := by
        refine List.eq_nil_iff_forall_not_mem.mpr ?_
        intro p mem
        obtain ⟨p_listed, p_named⟩ := back.named p mem
        exact unnamed p p_listed p_named
      refine ⟨waiting ++ [robot], [], by rw [none_named]; simp, ?_, ?_, .nil⟩
      · intro p mem
        rcases List.mem_append.mp mem with mem | mem
        · exact back.waiting p mem
        · rw [List.mem_singleton.mp mem]
          exact head
      · exact fun p mem => absurd mem List.not_mem_nil

/-- The robots shown in a run: first the one registered first, and from the first
one with a name on only robots registered earlier and earlier. -/
theorem shown_robots_move_back (reached : Reaches keyOrder locale repo events s) :
    ∃ waiting later, trace (lift (step keyOrder locale)) (lifted shownRobot) (some (start repo))
        events = waiting ++ later ∧ ShownBack waiting later s := by
  have kept : ∀ (shown : List Pointer) (s : State) (e : Event) (t : State),
      step keyOrder locale s e = some t →
        (Registered s.shared ∧ ∃ waiting later, shown = waiting ++ later ∧
          ShownBack waiting later s) →
        Registered t.shared ∧ ∃ waiting later, shown ++ shownRobot s e = waiting ++ later ∧
          ShownBack waiting later t := by
    rintro shown s e t h ⟨registered, waiting, later, rfl, back⟩
    have grows := step_shared_grows h
    refine ⟨registered_step h registered, ?_⟩
    cases e with
    | shared change =>
      refine ⟨waiting, later, ?_, back.grows registered grows⟩
      rw [shownRobot, List.append_nil]
    | frameUpdate executed =>
      obtain ⟨waiting', later', shown_eq, back'⟩ := tick_shownBack executed registered back
      exact ⟨waiting', later', shown_eq, back'.grows registered grows⟩
  have initial : ShownBack [] [] (start repo) :=
    ⟨fun p mem => absurd mem List.not_mem_nil, fun p mem => absurd mem List.not_mem_nil, .nil⟩
  exact (trace_lift_invariant kept ⟨registered_start repo, [], [], rfl, initial⟩ reached).2

theorem twoRobots_shown : ∃ s, Reaches id StatusText.plainLocale .empty twoRobots s ∧
    ∃ waiting later, trace (lift (step id StatusText.plainLocale)) (lifted shownRobot)
        (some (start .empty)) twoRobots = waiting ++ later ∧ ShownBack waiting later s :=
  ⟨_, rfl, shown_robots_move_back rfl⟩

/-! ### The text of the label -/

/-- The message that the robots of a state call for. -/
def currentMessage (locale : QLocale) (s : State) : String :=
  match selectRobot s.shared.heap none s.shared.robots with
  | none => "No robot connected"
  | some robot => robotMessage locale (s.shared.heap.entry robot)

theorem tick_label (locale : QLocale) (executed : Bool) (same : s.statusLabel = s.statusMessage) :
    (updateStatusMessage locale executed s).statusLabel
        = currentMessage locale (updateStatusMessage locale executed s) ∧
      (updateStatusMessage locale executed s).statusMessage
        = currentMessage locale (updateStatusMessage locale executed s) := by
  cases selected : selectRobot s.shared.heap none s.shared.robots with
  | none =>
    rw [updateStatusMessage_of_none selected, currentMessage, showStatus_shared]
    simp only [selected]
    exact showStatus_label same
  | some robot =>
    have still : selectRobot (pullName executed robot s).shared.heap none
        (pullName executed robot s).shared.robots = some robot := by
      rcases pullName_cases executed robot s with unchanged | ⟨unnamed, name, pulled⟩
      · rw [unchanged]
        exact selected
      · rw [pulled]
        exact selectRobot_setName name selected unnamed
    have same_after : (pullName executed robot s).statusLabel
        = (pullName executed robot s).statusMessage := by
      rcases pullName_cases executed robot s with unchanged | ⟨-, name, pulled⟩
      · rw [unchanged]
        exact same
      · rw [pulled]
        exact same
    rw [updateStatusMessage_of_some selected, currentMessage, showStatus_shared]
    simp only [still]
    exact showStatus_label same_after

theorem reaches_label (reached : Reaches keyOrder locale repo events s) :
    s.statusLabel = s.statusMessage := by
  have kept : ∀ (s : State) (e : Event) (t : State), step keyOrder locale s e = some t →
      s.statusLabel = s.statusMessage → t.statusLabel = t.statusMessage := by
    intro s e t h same
    rcases step_cases h with ⟨_, _, _, _, message, label⟩ | ⟨executed, -, result⟩
    · rw [message, label]
      exact same
    · obtain ⟨label, message⟩ := tick_label locale executed same
      rw [result, label, message]
  exact run_lift_invariant kept rfl reached

/-- After every tick the label shows the message that the robots call for: about
the first one with a name, or else about the first one. -/
theorem label_current_after_tick {executed : Bool}
    (reached : Reaches keyOrder locale repo (events ++ [.frameUpdate executed]) s) :
    s.statusLabel = currentMessage locale s := by
  obtain ⟨t, before, last⟩ := run_lift_concat reached
  cases last
  exact (tick_label locale executed (reaches_label before)).1

theorem twoRobots_label : ∃ s, Reaches id StatusText.plainLocale .empty twoRobots s ∧
    s.statusLabel = currentMessage StatusText.plainLocale s := by
  have reached : Reaches id StatusText.plainLocale .empty twoRobots _ := rfl
  exact ⟨_, reached, label_current_after_tick reached⟩

end Runs

end StatusNames
