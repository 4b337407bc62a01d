import AmurCore.ConfigAccess
import AmurCore.EventRuns

/-!
# Settings over time

The questions of `ConfigProcessor` about the type of a setting, and runs of its
accessors. A setting is a register of one type: the type never changes, so it can be
asked for once, and the value is the last one that a rewrite of this type brought.
-/

namespace ConfigTypes

open EventRuns LabelledTrees LabelledTrees.Tree ConfigProcessor ConfigAccess

variable {D F V : Type}

/-! ### Questions -/

/-- What the questions call: `Config::exists`, and four members of `Setting`. -/
structure Questions (D : Type) where
  settingExists : Config D → String → Bool
  getType : Config D → Place → SettingType
  isScalar : Config D → Place → Bool
  isNumber : Config D → Place → Bool
  isAggregate : Config D → Place → Bool

structure Answer (α : Type) where
  result : Except Exception α
  cerr : List String

section Ask
variable (lib : Libconfig D F) (questions : Questions D)

/-- What the four questions do. -/
def ask {α : Type} (question : Config D → Place → α) (absent : α) (config : Config D)
    (settingName : String) : Answer α :=
  if settingName = "" then ⟨.ok absent, []⟩
  else if !questions.settingExists config settingName then
    ⟨.ok absent, ["Parameter not found! - " ++ settingName]⟩
  else ⟨(lib.lookup config settingName).map (question config), []⟩

def getType (config : Config D) (settingName : String) : Answer SettingType :=
  ask lib questions questions.getType .none config settingName

def isScalar (config : Config D) (settingName : String) : Answer Bool :=
  ask lib questions questions.isScalar false config settingName

def isNumber (config : Config D) (settingName : String) : Answer Bool :=
  ask lib questions questions.isNumber false config settingName

def isAggregate (config : Config D) (settingName : String) : Answer Bool :=
  ask lib questions questions.isAggregate false config settingName

end Ask

def scalarType : SettingType → Bool
  | .int | .int64 | .float | .string | .boolean => true
  | .none | .group | .array | .list => false

def numberType : SettingType → Bool
  | .int | .int64 | .float => true
  | .none | .string | .boolean | .group | .array | .list => false

def aggregateType : SettingType → Bool
  | .group | .array | .list => true
  | .none | .int | .int64 | .float | .string | .boolean => false

/-- The members answer by the type, and a path exists if it can be looked up. -/
structure Answers (lib : Libconfig D F) (questions : Questions D) : Prop where
  settingExists : ∀ config path, questions.settingExists config path = true ↔
    ∃ setting, lib.lookup config path = .ok setting
  getType : ∀ config setting e, config.at? setting = some e →
    questions.getType config setting = settingType e
  isScalar : ∀ config setting e, config.at? setting = some e →
    questions.isScalar config setting = scalarType (settingType e)
  isNumber : ∀ config setting e, config.at? setting = some e →
    questions.isNumber config setting = numberType (settingType e)
  isAggregate : ∀ config setting e, config.at? setting = some e →
    questions.isAggregate config setting = aggregateType (settingType e)

/-! ### Calls -/

/-- The type of the settings that an accessor is for. -/
def callType : Call F → SettingType
  | .searchString _ | .rewriteString _ => .string
  | .searchInt _ | .rewriteInt _ => .int
  | .searchFloat _ | .rewriteFloat _ => .float
  | .searchBool _ | .rewriteBool _ => .boolean

/-- What the accessor stores in a setting of its type. -/
def stored (widen : F → D) : Call F → Option (Scalar D)
  | .searchString _ | .searchInt _ | .searchFloat _ | .searchBool _ => none
  | .rewriteString value => some (.string (CString.of value))
  | .rewriteInt value => some (.int value)
  | .rewriteFloat value => some (.float (widen value))
  | .rewriteBool value => some (.boolean value)

section Calls
variable (lib : Libconfig D F)

/-- How a call ends, and the configuration that it leaves. -/
def perform (config : Config D) (settingName : String) : Call F → Except Exception Int × Config D
  | .searchString out =>
    let outcome := searchString lib config settingName out
    (outcome.result, outcome.state.1)
  | .searchInt out =>
    let outcome := searchInt lib config settingName out
    (outcome.result, outcome.state.1)
  | .searchFloat out =>
    let outcome := searchFloat lib config settingName out
    (outcome.result, outcome.state.1)
  | .searchBool out =>
    let outcome := searchBool lib config settingName out
    (outcome.result, outcome.state.1)
  | .rewriteString value =>
    let outcome := rewriteString lib config settingName value
    (outcome.result, outcome.state)
  | .rewriteInt value =>
    let outcome := rewriteInt lib config settingName value
    (outcome.result, outcome.state)
  | .rewriteFloat value =>
    let outcome := rewriteFloat lib config settingName value
    (outcome.result, outcome.state)
  | .rewriteBool value =>
    let outcome := rewriteBool lib config settingName value
    (outcome.result, outcome.state)

/-- A step of a run: a name, and a call with it. -/
def step (config : Config D) (call : String × Call F) : Config D :=
  (perform lib config call.1 call.2).2

/-- What the call stores at the place. -/
def storesAt (widen : F → D) (config : Config D) (place : Place) (call : String × Call F) :
    Option (Scalar D) :=
  match lib.lookup config call.1 with
  | .error _ => none
  | .ok setting =>
    if call.1 ≠ "" ∧ setting = place ∧ (config.at? place).map settingType = some (callType call.2)
    then stored widen call.2
    else none

end Calls

/-! ### One call -/

section OneCall
variable {lib : Libconfig D F} {widen : F → D} {narrow : D → F} {config : Config D}
  {settingName : String}

theorem search_config {convert : Config D → Place → Except Exception V} (out : V) :
    (search lib convert config settingName out).state.1 = config := by
  rw [search]
  split
  · rfl
  · split <;> rfl

/-- A search succeeds exactly for a setting of its type. -/
theorem search_succeeds_iff (documented : Documented lib widen narrow)
    {convert : Config D → Place → Except Exception V} {read : SettingEntry D → Option V}
    {type : SettingType} (converts : Converts convert read)
    (typed : ∀ e, (read e).isSome ↔ settingType e = type) (out : V) :
    (search lib convert config settingName out).result = .ok 0 ↔
      Admits lib config settingName type := by
  rcases missing_or_found documented config settingName with missing | ⟨setting, e, found⟩
  · have failed := (@search_missing D F V lib config settingName convert missing out).1
    rw [failed]
    refine iff_of_false (fun same => ?_) ?_
    · cases same
    · rintro ⟨setting, e, h, -⟩
      exact missing.not_found h
  · rw [found.admits_iff, ← typed]
    cases readable : read e with
    | none =>
      rw [search_mismatch converts found readable out]
      exact iff_of_false (fun same => by cases same) Bool.false_ne_true
    | some value => exact iff_of_true (search_found converts found readable out).1 rfl

/-- What a rewrite leaves: the value in a setting of its type, or all as it was. -/
theorem rewrite_cases (documented : Documented lib widen narrow)
    {assign : Config D → Place → V → Except Exception Unit × Config D} {type : SettingType}
    {write : V → Scalar D} (assigns : Assigns assign type write) (value : V) :
    (¬Admits lib config settingName type ∧
        (rewrite lib assign config settingName value).result ≠ .ok 0 ∧
        (rewrite lib assign config settingName value).state = config) ∨
      ∃ setting e, Found lib config settingName setting e ∧ settingType e = type ∧
        (rewrite lib assign config settingName value).result = .ok 0 ∧
        (rewrite lib assign config settingName value).state
          = config.setLeaf setting (write value) := by
  have failure : (.ok exitFailure : Except Exception Int) ≠ .ok 0 := fun same => by cases same
  rcases missing_or_found documented config settingName with missing | ⟨setting, e, found⟩
  · obtain ⟨failed, kept⟩ := @rewrite_missing D F V lib config settingName assign missing value
    refine Or.inl ⟨?_, by rw [failed]; exact failure, kept⟩
    rintro ⟨setting, e, h, -⟩
    exact missing.not_found h
  · by_cases typed : settingType e = type
    · obtain ⟨done, state⟩ := rewrite_found assigns found typed value
      exact Or.inr ⟨setting, e, found, typed, done, state⟩
    · obtain ⟨failed, kept⟩ := rewrite_mismatch assigns found typed value
      exact Or.inl ⟨fun admits => typed (found.admits_iff.mp admits),
        by rw [failed]; exact failure, kept⟩

/-- A call succeeds exactly for a setting of its type, and leaves the value that it
stores in one, or all as it was. -/
structure Performs (lib : Libconfig D F) (widen : F → D) (config : Config D)
    (settingName : String) (call : Call F) : Prop where
  succeeds : (perform lib config settingName call).1 = .ok 0 ↔
    Admits lib config settingName (callType call)
  kept : stored widen call = none ∨ ¬Admits lib config settingName (callType call) →
    (perform lib config settingName call).2 = config
  written : ∀ setting e scalar, Found lib config settingName setting e →
    settingType e = callType call → stored widen call = some scalar →
      (perform lib config settingName call).2 = config.setLeaf setting scalar

theorem performs_search {call : Call F} {convert : Config D → Place → Except Exception V} {out : V}
    (same : perform lib config settingName call
      = ((search lib convert config settingName out).result,
        (search lib convert config settingName out).state.1))
    (nothing : stored widen call = none)
    (succeeds : (search lib convert config settingName out).result = .ok 0 ↔
      Admits lib config settingName (callType call)) :
    Performs lib widen config settingName call := by
  constructor
  · rw [same]
    exact succeeds
  · intro _
    rw [same]
    exact search_config out
  · intro setting e scalar _ _ stores
    rw [nothing] at stores
    cases stores

theorem performs_rewrite (documented : Documented lib widen narrow) {call : Call F}
    {assign : Config D → Place → V → Except Exception Unit × Config D} {write : V → Scalar D}
    {value : V} (assigns : Assigns assign (callType call) write)
    (same : perform lib config settingName call
      = ((rewrite lib assign config settingName value).result,
        (rewrite lib assign config settingName value).state))
    (stores : stored widen call = some (write value)) :
    Performs lib widen config settingName call := by
  rcases @rewrite_cases D F V lib widen narrow config settingName documented assign (callType call)
      write assigns value with
    ⟨refused, failed, kept⟩ | ⟨setting, e, found, typed, done, state⟩
  · constructor
    · rw [same]
      exact iff_of_false failed refused
    · intro _
      rw [same]
      exact kept
    · intro setting e scalar found typed _
      exact absurd ⟨setting, e, found, typed⟩ refused
  · have admits : Admits lib config settingName (callType call) := ⟨setting, e, found, typed⟩
    constructor
    · rw [same]
      exact iff_of_true done admits
    · rintro (nothing | refused)
      · rw [stores] at nothing
        cases nothing
      · exact absurd admits refused
    · intro setting' e' scalar found' _ stores'
      obtain ⟨place, -⟩ := found.unique found'
      rw [stores] at stores'
      cases stores'
      rw [same, place]
      exact state

/-- Every accessor does. -/
theorem performs (documented : Documented lib widen narrow) (config : Config D)
    (settingName : String) (call : Call F) : Performs lib widen config settingName call := by
  cases call with
  | searchString out =>
    refine performs_search rfl rfl (search_succeeds_iff documented
      (documented.cStr.map CString.text) (fun e => ?_) out)
    rw [Option.isSome_map, textOf_isSome]
    rfl
  | searchInt out =>
    exact performs_search rfl rfl (search_succeeds_iff documented documented.toInt intOf_isSome out)
  | searchFloat out =>
    refine performs_search rfl rfl (search_succeeds_iff documented documented.toFloat
      (fun e => ?_) out)
    rw [Option.isSome_map, floatOf_isSome]
    rfl
  | searchBool out =>
    exact performs_search rfl rfl
      (search_succeeds_iff documented documented.toBool boolOf_isSome out)
  | rewriteString value => exact performs_rewrite documented documented.assignString rfl rfl
  | rewriteInt value => exact performs_rewrite documented documented.assignInt rfl rfl
  | rewriteFloat value => exact performs_rewrite documented documented.assignFloat rfl rfl
  | rewriteBool value => exact performs_rewrite documented documented.assignBool rfl rfl

theorem stored_type {call : Call F} {scalar : Scalar D} (h : stored widen call = some scalar) :
    scalar.type = callType call := by
  cases call <;> cases h <;> rfl

end OneCall

/-! ### Runs -/

section Runs
variable {lib : Libconfig D F} {widen : F → D} {narrow : D → F} {config : Config D}

theorem settingType_congr {e e' : SettingEntry D} (same : e.map Scalar.type = e'.map Scalar.type) :
    settingType e = settingType e' := by
  cases e with
  | leaf value =>
    cases e' with
    | leaf value' => exact Entry.leaf.inj same
    | node kind names => cases same
  | node kind names =>
    cases e' with
    | leaf value => cases same
    | node kind' names' =>
      cases same
      rfl

/-- Trees with the same outline have settings of the same types. -/
theorem outline_type {config' : Config D} (outline : SameOutline Scalar.type config config')
    (place : Place) : (config.at? place).map settingType = (config'.at? place).map settingType := by
  have same := outline place
  cases here : config.at? place with
  | none =>
    cases there : config'.at? place with
    | none => rfl
    | some e =>
      rw [here, there] at same
      cases same
  | some e =>
    cases there : config'.at? place with
    | none =>
      rw [here, there] at same
      cases same
    | some e' =>
      rw [here, there] at same
      exact congrArg some (settingType_congr (Option.some.inj same))

theorem storesAt_self {settingName : String} {setting : Place} {e : SettingEntry D}
    {call : Call F} (found : Found lib config settingName setting e)
    (typed : settingType e = callType call) :
    storesAt lib widen config setting (settingName, call) = stored widen call := by
  have here : (config.at? setting).map settingType = some (callType call) := by
    rw [found.entry, Option.map_some, typed]
  rw [storesAt, found.lookup]
  exact if_pos ⟨found.name, rfl, here⟩

theorem storesAt_other {settingName : String} {setting place : Place} {e : SettingEntry D}
    (found : Found lib config settingName setting e) (other : place ≠ setting) (call : Call F) :
    storesAt lib widen config place (settingName, call) = none := by
  rw [storesAt, found.lookup]
  exact if_neg fun same => other same.2.1.symm

/-- A call that stores something leads to a setting of its type. -/
theorem storesAt_admits (documented : Documented lib widen narrow) {place : Place}
    {call : String × Call F} {scalar : Scalar D}
    (stores : storesAt lib widen config place call = some scalar) :
    stored widen call.2 = some scalar ∧ ∃ e, Found lib config call.1 place e ∧
      settingType e = callType call.2 := by
  rw [storesAt] at stores
  cases looked : lib.lookup config call.1 with
  | error thrown =>
    rw [looked] at stores
    cases stores
  | ok setting =>
    rw [looked] at stores
    obtain ⟨⟨name, rfl, typed⟩, scalar_stored⟩ := Option.ite_none_right_eq_some.mp stores
    obtain ⟨e, entry⟩ := documented.lookup_found config call.1 setting looked
    rw [entry, Option.map_some] at typed
    exact ⟨scalar_stored, e, ⟨name, looked, entry⟩, Option.some.inj typed⟩

/-- One step, seen at one place. -/
theorem step_at? (documented : Documented lib widen narrow) (config : Config D)
    (call : String × Call F) :
    SameOutline Scalar.type config (step lib config call) ∧
      ∀ place, (step lib config call).at? place =
        ((storesAt lib widen config place call).map Entry.leaf).or (config.at? place) := by
  have one := performs documented config call.1 call.2
  by_cases writes : ∃ setting e scalar, Found lib config call.1 setting e ∧
      settingType e = callType call.2 ∧ stored widen call.2 = some scalar
  · obtain ⟨setting, e, scalar, found, typed, stores⟩ := writes
    have after : step lib config call = config.setLeaf setting scalar :=
      one.written setting e scalar found typed stores
    obtain ⟨old, rfl, same⟩ := leaf_of_type (typed.trans (stored_type stores).symm)
    rw [after]
    refine ⟨setLeaf_sameOutline found.entry same, fun place => ?_⟩
    by_cases here : place = setting
    · subst here
      have there : storesAt lib widen config place call = some scalar :=
        (storesAt_self found typed).trans stores
      rw [there]
      exact at?_setLeaf_self found.entry scalar
    · have nothing : storesAt lib widen config place call = none :=
        storesAt_other found here call.2
      rw [nothing]
      exact at?_setLeaf_of_ne config here scalar
  · have idle : stored widen call.2 = none ∨ ¬Admits lib config call.1 (callType call.2) := by
      cases stores : stored widen call.2 with
      | none => exact Or.inl rfl
      | some scalar =>
        refine Or.inr ?_
        rintro ⟨setting, e, found, typed⟩
        exact writes ⟨setting, e, scalar, found, typed, stores⟩
    have after : step lib config call = config := one.kept idle
    rw [after]
    refine ⟨fun _ => rfl, fun place => ?_⟩
    cases stores : storesAt lib widen config place call with
    | none => rfl
    | some scalar =>
      obtain ⟨scalar_stored, e, found, typed⟩ := storesAt_admits documented stores
      exact absurd ⟨place, e, scalar, found, typed, scalar_stored⟩ writes

/-- What a call stores depends on the outline only. -/
theorem storesAt_outline (documented : Documented lib widen narrow) {config' : Config D}
    (outline : SameOutline Scalar.type config config') (place : Place) (call : String × Call F) :
    storesAt lib widen config' place call = storesAt lib widen config place call := by
  rw [storesAt, storesAt, documented.lookup_outline config config' call.1 outline,
    outline_type outline place]

theorem run_at? (documented : Documented lib widen narrow) (config : Config D)
    (calls : List (String × Call F)) :
    SameOutline Scalar.type config (run (step lib) config calls) ∧
      ∀ place, (run (step lib) config calls).at? place =
        ((latest (storesAt lib widen config place) calls).map Entry.leaf).or
          (config.at? place) := by
  induction calls using List.reverseRecOn with
  | nil => exact ⟨fun _ => rfl, fun _ => rfl⟩
  | append_singleton calls call ih =>
    obtain ⟨outline, values⟩ := ih
    obtain ⟨next, written⟩ := step_at? documented (run (step lib) config calls) call
    rw [run_concat]
    refine ⟨fun place => (outline place).trans (next place), fun place => ?_⟩
    rw [written, storesAt_outline documented outline, values, latest_concat, Option.map_or,
      Option.or_assoc]

section Asked
variable {questions : Questions D} {settingName : String} {setting : Place} {e : SettingEntry D}
  {α : Type} {question : Config D → Place → α} {absent : α}

theorem ask_missing (answers : Answers lib questions)
    (missing : Missing lib config settingName) :
    (ask lib questions question absent config settingName).result = .ok absent := by
  rw [ask]
  split
  · rfl
  · rename_i nonempty
    have unknown : questions.settingExists config settingName = false := by
      rw [← Bool.not_eq_true, answers.settingExists, missing.resolve_left nonempty]
      rintro ⟨setting, same⟩
      cases same
    rw [unknown]
    rfl

theorem ask_found (answers : Answers lib questions)
    (found : Found lib config settingName setting e) :
    (ask lib questions question absent config settingName).result
      = .ok (question config setting) := by
  have known : questions.settingExists config settingName = true :=
    (answers.settingExists config settingName).mpr ⟨setting, found.lookup⟩
  rw [ask, if_neg found.name, known, found.lookup]
  rfl

/-- The questions answer by the type of the setting, which is none if there is none. -/
structure AnsweredBy (lib : Libconfig D F) (questions : Questions D) (config : Config D)
    (settingName : String) (type : SettingType) : Prop where
  getType : (getType lib questions config settingName).result = .ok type
  isScalar : (isScalar lib questions config settingName).result = .ok (scalarType type)
  isNumber : (isNumber lib questions config settingName).result = .ok (numberType type)
  isAggregate : (isAggregate lib questions config settingName).result = .ok (aggregateType type)

theorem answeredBy_missing (answers : Answers lib questions)
    (missing : Missing lib config settingName) :
    AnsweredBy lib questions config settingName .none :=
  ⟨ask_missing answers missing, ask_missing answers missing, ask_missing answers missing,
    ask_missing answers missing⟩

theorem answeredBy_found (answers : Answers lib questions)
    (found : Found lib config settingName setting e) :
    AnsweredBy lib questions config settingName (settingType e) := by
  constructor
  · rw [getType, ask_found answers found, answers.getType config setting e found.entry]
  · rw [isScalar, ask_found answers found, answers.isScalar config setting e found.entry]
  · rw [isNumber, ask_found answers found, answers.isNumber config setting e found.entry]
  · rw [isAggregate, ask_found answers found, answers.isAggregate config setting e found.entry]

/-- A configuration with the same outline has a setting of the same type. -/
theorem found_outline (documented : Documented lib widen narrow) {config' : Config D}
    (outline : SameOutline Scalar.type config config')
    (found : Found lib config settingName setting e) :
    ∃ e', Found lib config' settingName setting e' ∧ settingType e' = settingType e := by
  have looked : lib.lookup config' settingName = .ok setting := by
    rw [← documented.lookup_outline config config' settingName outline]
    exact found.lookup
  obtain ⟨e', entry⟩ := documented.lookup_found config' settingName setting looked
  have same := outline_type outline setting
  rw [found.entry, entry] at same
  exact ⟨e', ⟨found.name, looked, entry⟩, (Option.some.inj same).symm⟩

theorem missing_outline (documented : Documented lib widen narrow) {config' : Config D}
    (outline : SameOutline Scalar.type config config')
    (missing : Missing lib config settingName) : Missing lib config' settingName := by
  rw [Missing, ← documented.lookup_outline config config' settingName outline]
  exact missing

end Asked

/-- Along every run of the accessors a setting has the value that the last rewrite of
its type stored in it, under whatever name, and else the one that it had. -/
theorem settings_are_registers (documented : Documented lib widen narrow) (config : Config D)
    (calls : List (String × Call F)) (place : Place) :
    (run (step lib) config calls).at? place =
      ((latest (storesAt lib widen config place) calls).map Entry.leaf).or (config.at? place) :=
  (run_at? documented config calls).2 place

theorem callType_ne_none (call : Call F) : callType call ≠ .none := by
  cases call <;> exact fun same => by cases same

/-- Two rewrites of the number of frames, of which one brings no number. -/
def session : List (String × Call ℚ) :=
  [("Amur.gstreamer.fps", .rewriteInt 30), ("Amur.gstreamer.fps", .rewriteBool true),
    ("Amur.gstreamer.src", .rewriteString "libcamera-vid")]

theorem session_fps :
    ((run (step (dotted ℚ)) camera session).at? [0, 0, 0]).bind intOf = some 30 := by
  rw [settings_are_registers (dotted_documented ℚ)]
  decide +kernel

/-- The type of a setting can be asked for once: after every run the questions have
the same answers, and a call succeeds exactly if its type was the one answered. -/
theorem type_asked_once (documented : Documented lib widen narrow) {questions : Questions D}
    (answers : Answers lib questions) (config : Config D) (calls : List (String × Call F))
    (settingName : String) :
    ∃ type, AnsweredBy lib questions config settingName type ∧
      AnsweredBy lib questions (run (step lib) config calls) settingName type ∧
      ∀ call, (perform lib (run (step lib) config calls) settingName call).1 = .ok 0 ↔
        callType call = type := by
  have outline := (run_at? documented config calls).1
  rcases missing_or_found documented config settingName with missing | ⟨setting, e, found⟩
  · have later := missing_outline documented outline missing
    refine ⟨.none, answeredBy_missing answers missing, answeredBy_missing answers later, ?_⟩
    intro call
    rw [(performs documented _ settingName call).succeeds]
    refine iff_of_false ?_ (callType_ne_none call)
    rintro ⟨setting, e, found, -⟩
    exact later.not_found found
  · obtain ⟨e', later, same⟩ := found_outline documented outline found
    have answered := answeredBy_found answers later
    rw [same] at answered
    refine ⟨settingType e, answeredBy_found answers found, answered, fun call => ?_⟩
    rw [(performs documented _ settingName call).succeeds, later.admits_iff, same]
    exact eq_comm

/-- The questions about a library with dotted paths. -/
def dottedQuestions (D : Type) : Questions D where
  settingExists config path := (config.locate (dottedNames path)).isSome
  getType config setting := ((config.at? setting).map settingType).getD .none
  isScalar config setting :=
    ((config.at? setting).map fun e => scalarType (settingType e)).getD false
  isNumber config setting :=
    ((config.at? setting).map fun e => numberType (settingType e)).getD false
  isAggregate config setting :=
    ((config.at? setting).map fun e => aggregateType (settingType e)).getD false

theorem dotted_answers (D : Type) : Answers (dotted D) (dottedQuestions D) := by
  constructor
  · intro config path
    simp only [dottedQuestions, dotted, dottedLookup, Option.isSome_iff_exists]
    constructor
    · rintro ⟨setting, located⟩
      exact ⟨setting, by rw [located]⟩
    · rintro ⟨setting, found⟩
      split at found
      · rename_i place located
        exact ⟨place, located⟩
      · cases found
  · intro config setting e entry
    simp only [dottedQuestions, entry, Option.map_some, Option.getD_some]
  · intro config setting e entry
    simp only [dottedQuestions, entry, Option.map_some, Option.getD_some]
  · intro config setting e entry
    simp only [dottedQuestions, entry, Option.map_some, Option.getD_some]
  · intro config setting e entry
    simp only [dottedQuestions, entry, Option.map_some, Option.getD_some]

theorem session_types : ∃ type,
    AnsweredBy (dotted ℚ) (dottedQuestions ℚ) camera "Amur.gstreamer.fps" type ∧
      AnsweredBy (dotted ℚ) (dottedQuestions ℚ) (run (step (dotted ℚ)) camera session)
        "Amur.gstreamer.fps" type ∧
      ∀ call, (perform (dotted ℚ) (run (step (dotted ℚ)) camera session)
        "Amur.gstreamer.fps" call).1 = .ok 0 ↔ callType call = type :=
  type_asked_once (dotted_documented ℚ) (dotted_answers ℚ) camera session "Amur.gstreamer.fps"

end Runs

end ConfigTypes
