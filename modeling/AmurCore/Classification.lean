import AmurCore.TableStaleness

/-!
# The classification of robots

`categorizeRobots` called again and again, on any two lists, with the three
result lists of the last call. A robot is known by its machine ID: an active
robot that is known is listed as the entry that the known list has of it.
-/

namespace Classification

open EventRuns RobotRepository ConnectTable TableStaleness

/-- A call. The entries may have changed since the last one in anything but the
machine ID, which is set before an entry is shared. -/
structure Call (machineID : Pointer → Option String) where
  heap : Heap
  kept : ∀ p, (heap.entry p).machineID = machineID p
  knownRobots : RobotList
  activeRobots : RobotList

/-- The machine IDs of the entries, without the null pointers. -/
def ids (machineID : Pointer → Option String) (robots : RobotList) : List String :=
  robots.reduceOption.map fun robot => (machineID robot).getD ""

section
variable {machineID : Pointer → Option String} (keyOrder : List String → List String)

def categorize (lists : Categories) (call : Call machineID) : Bool × Categories :=
  categorizeRobots call.heap keyOrder call.knownRobots call.activeRobots lists

/-- The lists that a call builds. -/
def built (call : Call machineID) : Categories :=
  classify call.heap keyOrder call.knownRobots call.activeRobots

/-- The result lists after the calls. -/
def resultLists (calls : List (Call machineID)) : Categories :=
  run (fun lists call => (categorize keyOrder lists call).2) .empty calls

end

variable {machineID : Pointer → Option String} {keyOrder : List String → List String}

def SameIDs (machineID : Pointer → Option String) (lists lists' : Categories) : Prop :=
  (∀ id, id ∈ ids machineID lists.activeUnknown ↔ id ∈ ids machineID lists'.activeUnknown) ∧
  (∀ id, id ∈ ids machineID lists.knownInactive ↔ id ∈ ids machineID lists'.knownInactive) ∧
  ∀ id, id ∈ ids machineID lists.activeKnown ↔ id ∈ ids machineID lists'.activeKnown

/-- The lists have the machine IDs that belong into them. -/
structure Classifies (lists : Categories) (call : Call machineID) : Prop where
  activeKnown : ∀ id, id ∈ ids machineID lists.activeKnown ↔
    id ∈ ids machineID call.knownRobots ∧ id ∈ ids machineID call.activeRobots
  activeUnknown : ∀ id, id ∈ ids machineID lists.activeUnknown ↔
    id ∈ ids machineID call.activeRobots ∧ id ∉ ids machineID call.knownRobots
  knownInactive : ∀ id, id ∈ ids machineID lists.knownInactive ↔
    id ∈ ids machineID call.knownRobots ∧ id ∉ ids machineID call.activeRobots

/-- The two lists of the call name no machine ID twice. -/
structure Distinct (call : Call machineID) : Prop where
  known : (ids machineID call.knownRobots).Nodup
  active : (ids machineID call.activeRobots).Nodup

/-- Every robot of the call appears once in one of the lists. -/
def EachOnce (lists : Categories) (call : Call machineID) : Prop :=
  ∀ id, id ∈ ids machineID call.knownRobots ∨ id ∈ ids machineID call.activeRobots →
    (ids machineID lists.activeKnown ++ ids machineID lists.activeUnknown ++
      ids machineID lists.knownInactive).count id = 1

/-! ### The lists that a call builds -/

section Built
variable (call : Call machineID)

theorem machineKey_call (robot : Pointer) :
    call.heap.machineKey robot = (machineID robot).getD "" := by
  rw [Heap.machineKey, call.kept]

theorem extractMachineIDs_call (robots : RobotList) :
    extractMachineIDs call.heap robots = ids machineID robots :=
  List.map_congr_left fun robot _ => machineKey_call call robot

theorem sameLists_iff (lists lists' : Categories) :
    sameLists call.heap lists lists' = true ↔ SameIDs machineID lists lists' := by
  simp only [sameLists, Bool.and_eq_true, sameMachineIDs_iff, ← extractMachineIDs_eq,
    extractMachineIDs_call, SameIDs, and_assoc]

/-- What is found under a key has this key, and something is found under the
keys of the known robots. -/
theorem knownRobot_key (id : String) :
    (knownRobot call.heap call.knownRobots id).map (fun robot => (machineID robot).getD "")
      = Option.guard (ids machineID call.knownRobots).contains id := by
  have some_iff : (knownRobot call.heap call.knownRobots id).isSome ↔
      id ∈ ids machineID call.knownRobots := by
    simp only [knownRobot, List.find?_isSome, List.mem_reverse, decide_eq_true_eq,
      machineKey_call, ids, List.mem_map]
  cases found : knownRobot call.heap call.knownRobots id with
  | none =>
    have unknown : id ∉ ids machineID call.knownRobots := by
      rw [← some_iff, found]
      exact Bool.false_ne_true
    simp [Option.guard, unknown]
  | some robot =>
    have known : id ∈ ids machineID call.knownRobots := by
      rw [← some_iff, found]
      rfl
    have key : call.heap.machineKey robot = id := by
      simpa using List.find?_some found
    rw [machineKey_call] at key
    simp [Option.guard, known, key]

theorem ids_map_some (robots : List Pointer) :
    ids machineID (robots.map some) = robots.map fun robot => (machineID robot).getD "" := by
  rw [ids, reduceOption_map_some]

theorem built_activeKnown : ids machineID (built keyOrder call).activeKnown
    = (ids machineID call.activeRobots).filter (ids machineID call.knownRobots).contains := by
  have active : ids machineID call.activeRobots
      = call.activeRobots.reduceOption.map fun robot => (machineID robot).getD "" := rfl
  rw [built, classify, ids_map_some, List.map_filterMap, ← List.filterMap_eq_filter, active,
    List.filterMap_map]
  refine List.filterMap_congr fun robot _ => ?_
  rw [knownRobot_key, machineKey_call]
  rfl

theorem built_activeUnknown : ids machineID (built keyOrder call).activeUnknown
    = (ids machineID call.activeRobots).filter
        fun id => !(ids machineID call.knownRobots).contains id := by
  have active : ids machineID call.activeRobots
      = call.activeRobots.reduceOption.map fun robot => (machineID robot).getD "" := rfl
  rw [built, classify, ids_map_some, active, List.filter_map]
  congr 1
  refine List.filter_congr fun robot _ => ?_
  rw [Function.comp_apply, ← Option.isNone_map, knownRobot_key, machineKey_call, Option.guard]
  cases (ids machineID call.knownRobots).contains ((machineID robot).getD "") <;> rfl

theorem built_knownInactive (listed : ∀ keys, (keyOrder keys).Perm keys) :
    ids machineID (built keyOrder call).knownInactive
      = (keyOrder (ids machineID call.knownRobots).dedup).filter
          fun id => !(ids machineID call.activeRobots).contains id := by
  rw [built, classify, ids, List.reduceOption, List.filterMap_map, List.map_filterMap,
    extractMachineIDs_call, extractMachineIDs_call]
  conv_rhs => rw [← List.filterMap_some (l := List.filter _ _)]
  refine List.filterMap_congr fun id mem => ?_
  have known : id ∈ ids machineID call.knownRobots :=
    List.mem_dedup.mp ((listed _).mem_iff.mp (List.mem_of_mem_filter mem))
  apply (knownRobot_key call id).trans
  simp [Option.guard, known]

theorem built_classifies (listed : ∀ keys, (keyOrder keys).Perm keys) :
    Classifies (built keyOrder call) call := by
  constructor
  · intro id
    rw [built_activeKnown, List.mem_filter, List.contains_iff_mem, and_comm]
  · intro id
    rw [built_activeUnknown, List.mem_filter]
    simp
  · intro id
    rw [built_knownInactive call listed, List.mem_filter, (listed _).mem_iff, List.mem_dedup]
    simp

end Built

/-! ### Successive calls -/

theorem SameIDs.symm {lists lists' : Categories} (same : SameIDs machineID lists lists') :
    SameIDs machineID lists' lists :=
  ⟨fun id => (same.1 id).symm, fun id => (same.2.1 id).symm, fun id => (same.2.2 id).symm⟩

theorem Classifies.of_sameIDs {lists lists' : Categories} {call : Call machineID}
    (classifies : Classifies lists call) (same : SameIDs machineID lists' lists) :
    Classifies lists' call :=
  ⟨fun id => (same.2.2 id).trans (classifies.activeKnown id),
    fun id => (same.1 id).trans (classifies.activeUnknown id),
    fun id => (same.2.1 id).trans (classifies.knownInactive id)⟩

/-- A call keeps lists that have the machine IDs of the built ones. -/
theorem categorize_cases (lists : Categories) (call : Call machineID) :
    (SameIDs machineID lists (built keyOrder call) ∧
        categorize keyOrder lists call = (false, lists)) ∨
      (¬SameIDs machineID lists (built keyOrder call) ∧
        categorize keyOrder lists call = (true, built keyOrder call)) := by
  have compared := sameLists_iff call lists (built keyOrder call)
  have result := categorizeRobots_eq call.heap keyOrder call.knownRobots call.activeRobots lists
  by_cases same : SameIDs machineID lists (built keyOrder call)
  · exact Or.inl ⟨same, result.trans (if_pos (compared.mpr same))⟩
  · exact Or.inr ⟨same, result.trans (if_neg (mt compared.mp same))⟩

theorem resultLists_concat (before : List (Call machineID)) (call : Call machineID) :
    resultLists keyOrder (before ++ [call])
      = (categorize keyOrder (resultLists keyOrder before) call).2 :=
  run_concat _ _ _ _

/-- After the call the lists have the machine IDs that belong into them, and the
call has returned whether they changed. -/
def ExactCall (keyOrder : List String → List String) (before : List (Call machineID))
    (call : Call machineID) : Prop :=
  Classifies (resultLists keyOrder (before ++ [call])) call ∧
    ((categorize keyOrder (resultLists keyOrder before) call).1 = true ↔
      ¬SameIDs machineID (resultLists keyOrder before) (resultLists keyOrder (before ++ [call])))

theorem exactCall (listed : ∀ keys, (keyOrder keys).Perm keys) (before : List (Call machineID))
    (call : Call machineID) : ExactCall keyOrder before call := by
  have new := built_classifies call listed
  rw [ExactCall, resultLists_concat]
  rcases categorize_cases (resultLists keyOrder before) call with ⟨same, result⟩ | ⟨differ, result⟩
  · rw [result]
    have unchanged : SameIDs machineID (resultLists keyOrder before)
        (resultLists keyOrder before) :=
      ⟨fun _ => Iff.rfl, fun _ => Iff.rfl, fun _ => Iff.rfl⟩
    exact ⟨new.of_sameIDs same, iff_of_false Bool.false_ne_true fun differ => differ unchanged⟩
  · rw [result]
    exact ⟨new, iff_of_true rfl differ⟩

/-- No list names a machine ID twice. -/
structure NoRepeats (machineID : Pointer → Option String) (lists : Categories) : Prop where
  activeKnown : (ids machineID lists.activeKnown).Nodup
  activeUnknown : (ids machineID lists.activeUnknown).Nodup
  knownInactive : (ids machineID lists.knownInactive).Nodup

theorem built_noRepeats (listed : ∀ keys, (keyOrder keys).Perm keys) {call : Call machineID}
    (distinct : Distinct call) : NoRepeats machineID (built keyOrder call) := by
  constructor
  · rw [built_activeKnown]
    exact distinct.active.filter _
  · rw [built_activeUnknown]
    exact distinct.active.filter _
  · rw [built_knownInactive call listed]
    exact ((listed _).nodup_iff.mpr (List.nodup_dedup _)).filter _

/-- Kept lists have no repeats because they had none when they were built. -/
theorem resultLists_noRepeats (listed : ∀ keys, (keyOrder keys).Perm keys)
    {calls : List (Call machineID)} (distinct : ∀ call ∈ calls, Distinct call) :
    NoRepeats machineID (resultLists keyOrder calls) := by
  induction calls using List.reverseRecOn with
  | nil => exact ⟨List.nodup_nil, List.nodup_nil, List.nodup_nil⟩
  | append_singleton before call ih =>
    have earlier : ∀ call ∈ before, Distinct call :=
      fun call mem => distinct call (List.mem_append_left _ mem)
    rw [resultLists_concat]
    rcases categorize_cases (resultLists keyOrder before) call with ⟨-, result⟩ | ⟨-, result⟩
    · rw [result]
      exact ih earlier
    · rw [result]
      exact built_noRepeats listed (distinct call (by simp))

theorem Classifies.eachOnce {lists : Categories} {call : Call machineID}
    (classifies : Classifies lists call) (noRepeats : NoRepeats machineID lists) :
    EachOnce lists call := by
  intro id mem
  obtain ⟨activeKnown, activeUnknown, knownInactive⟩ := classifies
  refine List.count_eq_one_of_mem ?_ ?_
  · refine (noRepeats.activeKnown.append noRepeats.activeUnknown ?_).append
      noRepeats.knownInactive ?_
    · intro id known unknown
      exact ((activeUnknown id).mp unknown).2 ((activeKnown id).mp known).1
    · intro id active inactive
      obtain ⟨known, absent⟩ := (knownInactive id).mp inactive
      rcases List.mem_append.mp active with active | active
      · exact absent ((activeKnown id).mp active).2
      · exact absent ((activeUnknown id).mp active).1
  · rw [List.mem_append, List.mem_append, activeKnown, activeUnknown, knownInactive]
    tauto

/-- Every call classifies its two lists and returns whether the result changed;
and if no call is given a machine ID twice, each robot is listed once. -/
theorem classification_exact (listed : ∀ keys, (keyOrder keys).Perm keys)
    (calls : List (Call machineID)) :
    Along (ExactCall keyOrder) calls ∧
      ((∀ call ∈ calls, Distinct call) →
        Along (fun before call => EachOnce (resultLists keyOrder (before ++ [call])) call)
          calls) := by
  refine ⟨fun before call _ _ => exactCall listed before call, ?_⟩
  rintro distinct before call after rfl
  have sofar : ∀ c ∈ before ++ [call], Distinct c := by
    intro c mem
    rcases List.mem_append.mp mem with mem | mem
    · exact distinct c (List.mem_append_left _ mem)
    · rw [List.mem_singleton.mp mem]
      exact distinct call (by simp)
  exact (exactCall listed before call).1.eachOnce (resultLists_noRepeats listed sofar)

/-- Two robots of the network, one of which the repository has as well. -/
def sightings : Heap := ⟨3, fun p => ⟨"", some (if p = 2 then "r2" else "r1"), none, 0, 0, ""⟩⟩

/-- The other one leaves the network. -/
def sighted : List (Call fun p => (sightings.entry p).machineID) :=
  [⟨sightings, fun _ => rfl, [some 0, none], [some 1, some 2]⟩,
    ⟨sightings, fun _ => rfl, [some 0, none], [some 1]⟩]

theorem sighted_once :
    Along (ExactCall id) sighted ∧
      Along (fun before call => EachOnce (resultLists id (before ++ [call])) call) sighted := by
  obtain ⟨exact_calls, once⟩ := classification_exact (fun _ => .refl _) sighted
  have distinct : ∀ call ∈ sighted, Distinct call := by
    intro call mem
    rcases List.mem_cons.mp mem with rfl | mem
    · exact ⟨by decide, by decide⟩
    · rw [List.mem_singleton.mp mem]
      exact ⟨by decide, by decide⟩
  exact ⟨exact_calls, once distinct⟩

end Classification
