import Mathlib.Data.Rat.Init
import AmurCore.ConfigProcessor

/-!
# Searching and rewriting settings

What the accessors of `ConfigProcessor` promise, on a library that behaves as it
is documented. A rewrite catches both exceptions. A search catches the one of the
lookup only, so a setting of another type ends it with the exception of the
conversion. A text is stored and read back as a C string.
-/

namespace ConfigAccess

open LabelledTrees LabelledTrees.Tree ConfigProcessor

variable {D F V : Type}

abbrev SettingEntry (D : Type) := Entry Aggregate (Option String) (Scalar D)

/-! ### The library as documented -/

def textOf : SettingEntry D → Option CString
  | .leaf (.string value) => some value
  | _ => none

def intOf : SettingEntry D → Option Int32
  | .leaf (.int value) => some value
  | _ => none

def floatOf : SettingEntry D → Option D
  | .leaf (.float value) => some value
  | _ => none

def boolOf : SettingEntry D → Option Bool
  | .leaf (.boolean value) => some value
  | _ => none

/-- The conversion gives the value of a setting of its type and throws on any other. -/
def Converts (convert : Config D → Place → Except Exception V)
    (read : SettingEntry D → Option V) : Prop :=
  ∀ config setting e, config.at? setting = some e →
    convert config setting = match read e with
      | some value => .ok value
      | none => .error .settingType

/-- The assignment sets a setting of its type and throws on any other. -/
def Assigns (assign : Config D → Place → V → Except Exception Unit × Config D)
    (type : SettingType) (write : V → Scalar D) : Prop :=
  ∀ config setting e value, config.at? setting = some e →
    assign config setting value =
      if settingType e = type then (.ok (), config.setLeaf setting (write value))
      else (.error .settingType, config)

/-- A path is looked up by names and kinds alone. A missing one throws
`SettingNotFoundException`, a wrong type `SettingTypeException`. Converting a
`float` to `double` and back is exact. -/
structure Documented (lib : Libconfig D F) (widen : F → D) (narrow : D → F) : Prop where
  lookup_throws : ∀ config path e, lib.lookup config path = .error e → e = .settingNotFound
  lookup_found : ∀ config path setting, lib.lookup config path = .ok setting →
    ∃ e, config.at? setting = some e
  lookup_outline : ∀ config config' path, SameOutline Scalar.type config config' →
    lib.lookup config path = lib.lookup config' path
  cStr : Converts lib.cStr textOf
  toInt : Converts lib.toInt intOf
  toFloat : Converts lib.toFloat fun e => (floatOf e).map narrow
  toBool : Converts lib.toBool boolOf
  assignString : Assigns lib.assignString .string fun value => .string (CString.of value)
  assignInt : Assigns lib.assignInt .int .int
  assignFloat : Assigns lib.assignFloat .float fun value => .float (widen value)
  assignBool : Assigns lib.assignBool .boolean .boolean
  narrow_widen : ∀ value, narrow (widen value) = value

/-! ### What an accessor promises -/

section Promises
variable (lib : Libconfig D F) (config : Config D) (settingName : String)

/-- The name leads to a setting. -/
structure Found (setting : Place) (e : SettingEntry D) : Prop where
  name : settingName ≠ ""
  lookup : lib.lookup config settingName = .ok setting
  entry : config.at? setting = some e

/-- The name leads to a setting of the type. -/
def Admits (type : SettingType) : Prop :=
  ∃ setting e, Found lib config settingName setting e ∧ settingType e = type

/-- The name does not lead to a setting of another type. -/
def NoMismatch (type : SettingType) : Prop :=
  ∀ setting e, Found lib config settingName setting e → settingType e = type

/-- A search returns a code, 0 exactly for a setting of its type, and nothing
else than the out parameter changes, on success only. -/
def SearchSettles (search : Config D → String → V → Outcome (Config D × V)) (type : SettingType)
    (out : V) : Prop :=
  let outcome := search config settingName out
  ∃ code, outcome.result = .ok code ∧ (code = 0 ↔ Admits lib config settingName type) ∧
    (code ≠ 0 → outcome.state.2 = out) ∧ outcome.state.1 = config

/-- A rewrite returns a code, 0 exactly for a setting of its type. On failure the
configuration is unchanged; on success the search finds the value, and every
other setting is unchanged. -/
def RewriteSettles (rewrite : Config D → String → V → Outcome (Config D))
    (search : Config D → String → V → Outcome (Config D × V)) (type : SettingType) (value : V) :
    Prop :=
  let outcome := rewrite config settingName value
  ∃ code, outcome.result = .ok code ∧ (code = 0 ↔ Admits lib config settingName type) ∧
    (code ≠ 0 → outcome.state = config) ∧
    (code = 0 →
      (∀ out, (search outcome.state settingName out).result = .ok 0 ∧
        (search outcome.state settingName out).state.2 = value) ∧
      ∀ setting, lib.lookup config settingName = .ok setting → ∀ other, other ≠ setting →
        outcome.state.at? other = config.at? other)

end Promises

section Accessors
variable {lib : Libconfig D F} {widen : F → D} {narrow : D → F} {config : Config D}
  {settingName : String} {setting : Place} {e : SettingEntry D} {type : SettingType}

/-! ### Lookups -/

theorem Found.unique {setting' : Place} {e' : SettingEntry D}
    (h : Found lib config settingName setting e) (h' : Found lib config settingName setting' e') :
    setting' = setting ∧ e' = e := by
  have place : setting' = setting := Except.ok.inj (h'.lookup.symm.trans h.lookup)
  subst place
  exact ⟨rfl, Option.some.inj (h'.entry.symm.trans h.entry)⟩

theorem Found.admits_iff (h : Found lib config settingName setting e) :
    Admits lib config settingName type ↔ settingType e = type := by
  constructor
  · rintro ⟨setting', e', h', typed⟩
    rw [← (h.unique h').2]
    exact typed
  · exact fun typed => ⟨setting, e, h, typed⟩

theorem Found.noMismatch_iff (h : Found lib config settingName setting e) :
    NoMismatch lib config settingName type ↔ settingType e = type := by
  constructor
  · exact fun none_other => none_other setting e h
  · intro typed setting' e' h'
    rw [(h.unique h').2]
    exact typed

/-- The name is empty, or its lookup throws. -/
def Missing (lib : Libconfig D F) (config : Config D) (settingName : String) : Prop :=
  settingName = "" ∨ lib.lookup config settingName = .error .settingNotFound

theorem Missing.not_found (missing : Missing lib config settingName) :
    ¬Found lib config settingName setting e := by
  intro h
  rcases missing with empty | thrown
  · exact h.name empty
  · rw [h.lookup] at thrown
    cases thrown

theorem missing_or_found (documented : Documented lib widen narrow) (config : Config D)
    (settingName : String) : Missing lib config settingName ∨
      ∃ setting e, Found lib config settingName setting e := by
  by_cases empty : settingName = ""
  · exact .inl (.inl empty)
  · cases h : lib.lookup config settingName with
    | error thrown =>
      rw [documented.lookup_throws config settingName thrown h] at h
      exact .inl (.inr h)
    | ok setting =>
      obtain ⟨e, entry⟩ := documented.lookup_found config settingName setting h
      exact .inr ⟨setting, e, empty, h, entry⟩

/-! ### The searches -/

section Search
variable {convert : Config D → Place → Except Exception V} {read : SettingEntry D → Option V}

theorem search_missing (missing : Missing lib config settingName) (out : V) :
    (search lib convert config settingName out).result = .ok exitFailure ∧
      (search lib convert config settingName out).state = (config, out) := by
  unfold search
  split
  · exact ⟨rfl, rfl⟩
  · rename_i nonempty
    rw [missing.resolve_left nonempty]
    exact ⟨rfl, rfl⟩

theorem search_found (converts : Converts convert read)
    (h : Found lib config settingName setting e) {value : V} (readable : read e = some value)
    (out : V) : (search lib convert config settingName out).result = .ok exitSuccess ∧
      (search lib convert config settingName out).state = (config, value) := by
  have converted := converts config setting e h.entry
  rw [readable] at converted
  rw [search, if_neg h.name, h.lookup, Except.bind, converted]
  exact ⟨rfl, rfl⟩

/-- The conversion throws what the search does not catch. -/
theorem search_mismatch (converts : Converts convert read)
    (h : Found lib config settingName setting e) (unreadable : read e = none) (out : V) :
    (search lib convert config settingName out).result = .error .settingType := by
  have thrown := converts config setting e h.entry
  rw [unreadable] at thrown
  rw [search, if_neg h.name, h.lookup, Except.bind, thrown]

/-- A search keeps its promise exactly where no setting of another type is found. -/
theorem search_settles_iff (documented : Documented lib widen narrow)
    (converts : Converts convert read) (typed : ∀ e, (read e).isSome ↔ settingType e = type)
    (config : Config D) (settingName : String) (out : V) :
    SearchSettles lib config settingName (search lib convert) type out ↔
      NoMismatch lib config settingName type := by
  rcases missing_or_found documented config settingName with missing | ⟨setting, e, found⟩
  · obtain ⟨failed, kept⟩ := @search_missing D F V lib config settingName convert missing out
    refine iff_of_true ⟨exitFailure, failed, ?_, ?_, ?_⟩ fun setting e h =>
      absurd h missing.not_found
    · refine iff_of_false (by decide) ?_
      rintro ⟨setting, e, h, -⟩
      exact missing.not_found h
    · exact fun _ => congrArg Prod.snd kept
    · exact congrArg Prod.fst kept
  · rw [found.noMismatch_iff, ← typed]
    cases readable : read e with
    | none =>
      have thrown := search_mismatch converts found readable out
      refine iff_of_false ?_ Bool.false_ne_true
      rintro ⟨code, returned, -⟩
      rw [thrown] at returned
      cases returned
    | some value =>
      obtain ⟨done, state⟩ := search_found converts found readable out
      refine iff_of_true ⟨exitSuccess, done, ?_, ?_, ?_⟩ rfl
      · refine iff_of_true rfl (found.admits_iff.mpr ((typed e).mp ?_))
        rw [readable]
        rfl
      · exact fun failed => absurd rfl failed
      · exact congrArg Prod.fst state

end Search

/-! ### The rewrites -/

theorem leaf_of_type {scalar : Scalar D} (typed : settingType e = scalar.type) :
    ∃ old : Scalar D, e = .leaf old ∧ old.type = scalar.type := by
  cases e with
  | leaf old => exact ⟨old, rfl, typed⟩
  | node kind names => cases kind <;> cases scalar <;> cases typed

/-- After the assignment the name still leads to the setting, which has the value. -/
theorem Found.assigned (documented : Documented lib widen narrow)
    (h : Found lib config settingName setting e) {scalar : Scalar D}
    (typed : settingType e = scalar.type) :
    Found lib (config.setLeaf setting scalar) settingName setting (.leaf scalar) := by
  obtain ⟨old, rfl, same⟩ := leaf_of_type typed
  refine ⟨h.name, ?_, at?_setLeaf_self h.entry scalar⟩
  have outline : SameOutline Scalar.type config (config.setLeaf setting scalar) :=
    setLeaf_sameOutline h.entry same
  rw [← documented.lookup_outline config _ settingName outline]
  exact h.lookup

section Rewrite
variable {assign : Config D → Place → V → Except Exception Unit × Config D}
  {write : V → Scalar D}

theorem rewrite_missing (missing : Missing lib config settingName) (value : V) :
    (rewrite lib assign config settingName value).result = .ok exitFailure ∧
      (rewrite lib assign config settingName value).state = config := by
  unfold rewrite
  split
  · exact ⟨rfl, rfl⟩
  · rename_i nonempty
    rw [missing.resolve_left nonempty]
    exact ⟨rfl, rfl⟩

theorem rewrite_mismatch (assigns : Assigns assign type write)
    (h : Found lib config settingName setting e) (mismatch : settingType e ≠ type) (value : V) :
    (rewrite lib assign config settingName value).result = .ok exitFailure ∧
      (rewrite lib assign config settingName value).state = config := by
  have thrown := assigns config setting e value h.entry
  rw [if_neg mismatch] at thrown
  rw [rewrite, if_neg h.name, h.lookup]
  dsimp only
  rw [thrown]
  exact ⟨rfl, rfl⟩

theorem rewrite_found (assigns : Assigns assign type write)
    (h : Found lib config settingName setting e) (typed : settingType e = type) (value : V) :
    (rewrite lib assign config settingName value).result = .ok exitSuccess ∧
      (rewrite lib assign config settingName value).state
        = config.setLeaf setting (write value) := by
  have assigned := assigns config setting e value h.entry
  rw [if_pos typed] at assigned
  rw [rewrite, if_neg h.name, h.lookup]
  dsimp only
  rw [assigned]
  exact ⟨rfl, rfl⟩

/-- A failed rewrite keeps its promise. -/
theorem rewrite_settles_of_failure {search : Config D → String → V → Outcome (Config D × V)}
    {value : V}
    (failure : (rewrite lib assign config settingName value).result = .ok exitFailure ∧
      (rewrite lib assign config settingName value).state = config)
    (refused : ¬Admits lib config settingName type) :
    RewriteSettles lib config settingName (rewrite lib assign) search type value :=
  ⟨exitFailure, failure.1, iff_of_false (by decide) refused, fun _ => failure.2,
    fun done => absurd done (by decide)⟩

/-- A rewrite keeps its promise exactly where the value that it stores, if it
does, is read back as it is. -/
theorem rewrite_settles_iff {convert : Config D → Place → Except Exception V}
    {read : SettingEntry D → Option V} (documented : Documented lib widen narrow)
    (converts : Converts convert read) (assigns : Assigns assign type write)
    (write_type : ∀ value, (write value).type = type)
    {kept : V → V} (read_write : ∀ value, read (.leaf (write value)) = some (kept value))
    (config : Config D) (settingName : String) (value : V) :
    RewriteSettles lib config settingName (rewrite lib assign) (search lib convert) type value ↔
      (Admits lib config settingName type → kept value = value) := by
  rcases missing_or_found documented config settingName with missing | ⟨setting, e, found⟩
  · have refused : ¬Admits lib config settingName type := by
      rintro ⟨setting, e, h, -⟩
      exact missing.not_found h
    exact iff_of_true (rewrite_settles_of_failure (rewrite_missing missing value) refused)
      fun admits => absurd admits refused
  · by_cases typed : settingType e = type
    · obtain ⟨done, state⟩ := rewrite_found assigns found typed value
      have after := found.assigned documented (typed.trans (write_type value).symm)
      have searched := search_found converts after (read_write value)
      have admits : Admits lib config settingName type := found.admits_iff.mpr typed
      constructor
      · rintro ⟨code, returned, -, -, stored⟩ -
        rw [done] at returned
        cases returned
        obtain ⟨-, value_back⟩ := (stored rfl).1 value
        rw [state, (searched value).2] at value_back
        exact value_back
      · intro same
        refine ⟨exitSuccess, done, iff_of_true rfl admits, fun failed => absurd rfl failed,
          fun _ => ⟨fun out => ?_, fun setting' lookup other elsewhere => ?_⟩⟩
        · rw [state]
          obtain ⟨code, found_value⟩ := searched out
          rw [found_value]
          exact ⟨code, same admits⟩
        · rw [found.lookup] at lookup
          cases lookup
          rw [state]
          exact at?_setLeaf_of_ne config elsewhere (write value)
    · have refused : ¬Admits lib config settingName type := fun admits =>
        typed (found.admits_iff.mp admits)
      exact iff_of_true (rewrite_settles_of_failure (rewrite_mismatch assigns found typed value)
        refused) fun admits => absurd admits refused

/-- So it always does where every value is read back as it was stored. -/
theorem rewrite_settles {convert : Config D → Place → Except Exception V}
    {read : SettingEntry D → Option V} (documented : Documented lib widen narrow)
    (converts : Converts convert read) (assigns : Assigns assign type write)
    (write_type : ∀ value, (write value).type = type)
    (read_write : ∀ value, read (.leaf (write value)) = some value)
    (config : Config D) (settingName : String) (value : V) :
    RewriteSettles lib config settingName (rewrite lib assign) (search lib convert) type value :=
  (rewrite_settles_iff documented converts assigns write_type read_write config settingName
    value).mpr fun _ => rfl

end Rewrite

/-! ### The eight accessors -/

theorem Converts.map {W : Type} {convert : Config D → Place → Except Exception V}
    {read : SettingEntry D → Option V} (h : Converts convert read) (f : V → W) :
    Converts (fun config setting => (convert config setting).map f) fun e => (read e).map f := by
  intro config setting e entry
  dsimp only
  rw [h config setting e entry]
  cases read e <;> rfl

theorem textOf_isSome (e : SettingEntry D) : (textOf e).isSome ↔ settingType e = .string := by
  cases e with
  | leaf value => cases value <;> simp [textOf, settingType, Scalar.type]
  | node kind names => cases kind <;> simp [textOf, settingType]

theorem intOf_isSome (e : SettingEntry D) : (intOf e).isSome ↔ settingType e = .int := by
  cases e with
  | leaf value => cases value <;> simp [intOf, settingType, Scalar.type]
  | node kind names => cases kind <;> simp [intOf, settingType]

theorem floatOf_isSome (e : SettingEntry D) : (floatOf e).isSome ↔ settingType e = .float := by
  cases e with
  | leaf value => cases value <;> simp [floatOf, settingType, Scalar.type]
  | node kind names => cases kind <;> simp [floatOf, settingType]

theorem boolOf_isSome (e : SettingEntry D) : (boolOf e).isSome ↔ settingType e = .boolean := by
  cases e with
  | leaf value => cases value <;> simp [boolOf, settingType, Scalar.type]
  | node kind names => cases kind <;> simp [boolOf, settingType]

/-- A text without NUL is kept whole. -/
theorem of_text_eq_iff (value : String) :
    (CString.of value).text = value ↔ nul ∉ value.toList := by
  have whole : (CString.of value).text = value ↔
      value.toList.takeWhile (· ≠ nul) = value.toList := by
    rw [← String.toList_inj, CString.of, String.toList_ofList]
  rw [whole, List.takeWhile_eq_self_iff]
  constructor
  · intro all mem
    simpa using all nul mem
  · intro absent x mem
    have differs : x ≠ nul := fun same => absent (same ▸ mem)
    simpa using differs

end Accessors

/-! ### A library with dotted paths -/

section Dotted

/-- The names of a path such as `Amur.Network.address`. -/
def dottedNames (path : String) : List (Option String) :=
  (path.toList.splitOn '.').map fun name => some (String.ofList name)

def dottedLookup (config : Config D) (path : String) : Except Exception Place :=
  match config.locate (dottedNames path) with
  | some setting => .ok setting
  | none => .error .settingNotFound

def convertBy (read : SettingEntry D → Option V) (config : Config D) (setting : Place) :
    Except Exception V :=
  match (config.at? setting).bind read with
  | some value => .ok value
  | none => .error .settingType

def assignBy (type : SettingType) (write : V → Scalar D) (config : Config D) (setting : Place)
    (value : V) : Except Exception Unit × Config D :=
  if (config.at? setting).map settingType = some type then
    (.ok (), config.setLeaf setting (write value))
  else (.error .settingType, config)

/-- Paths are names with dots between them, and a `float` is a `double`. -/
def dotted (D : Type) : Libconfig D D where
  lookup := dottedLookup
  cStr := convertBy textOf
  toInt := convertBy intOf
  toFloat := convertBy floatOf
  toBool := convertBy boolOf
  assignString := assignBy .string fun value => .string (CString.of value)
  assignInt := assignBy .int .int
  assignFloat := assignBy .float .float
  assignBool := assignBy .boolean .boolean

theorem convertBy_converts (read : SettingEntry D → Option V) :
    Converts (convertBy read) read := by
  intro config setting e entry
  rw [convertBy, entry, Option.bind_some]

theorem assignBy_assigns (type : SettingType) (write : V → Scalar D) :
    Assigns (assignBy type write) type write := by
  intro config setting e value entry
  rw [assignBy, entry, Option.map_some]
  simp only [Option.some.injEq]

theorem dotted_documented (D : Type) : Documented (dotted D) id id where
  lookup_throws := by
    intro config path e h
    simp only [dotted, dottedLookup] at h
    split at h
    · cases h
    · cases h
      rfl
  lookup_found := by
    intro config path setting h
    simp only [dotted, dottedLookup] at h
    split at h
    · rename_i located
      cases h
      exact locate_found located
    · cases h
  lookup_outline := by
    intro config config' path outline
    simp only [dotted, dottedLookup]
    rw [outline.locate]
  cStr := convertBy_converts textOf
  toInt := convertBy_converts intOf
  toFloat := by
    have same : (fun e : SettingEntry D => (floatOf e).map id) = floatOf :=
      funext fun e => Option.map_id_apply
    rw [same]
    exact convertBy_converts floatOf
  toBool := convertBy_converts boolOf
  assignString := assignBy_assigns .string _
  assignInt := assignBy_assigns .int _
  assignFloat := assignBy_assigns .float _
  assignBool := assignBy_assigns .boolean _
  narrow_widen := fun _ => rfl

end Dotted

/-! ### All calls -/

/-- A call of an accessor, with the out parameter or the value. -/
inductive Call (F : Type) where
  | searchString (out : String)
  | searchInt (out : Int32)
  | searchFloat (out : F)
  | searchBool (out : Bool)
  | rewriteString (value : String)
  | rewriteInt (value : Int32)
  | rewriteFloat (value : F)
  | rewriteBool (value : Bool)

section Calls
variable (lib : Libconfig D F) (config : Config D) (settingName : String)

/-- The call keeps the promise of its accessor. -/
def Settles : Call F → Prop
  | .searchString out => SearchSettles lib config settingName (searchString lib) .string out
  | .searchInt out => SearchSettles lib config settingName (searchInt lib) .int out
  | .searchFloat out => SearchSettles lib config settingName (searchFloat lib) .float out
  | .searchBool out => SearchSettles lib config settingName (searchBool lib) .boolean out
  | .rewriteString value =>
    RewriteSettles lib config settingName (rewriteString lib) (searchString lib) .string value
  | .rewriteInt value =>
    RewriteSettles lib config settingName (rewriteInt lib) (searchInt lib) .int value
  | .rewriteFloat value =>
    RewriteSettles lib config settingName (rewriteFloat lib) (searchFloat lib) .float value
  | .rewriteBool value =>
    RewriteSettles lib config settingName (rewriteBool lib) (searchBool lib) .boolean value

/-- A search finds no setting of another type, and a text that is stored has no
NUL in it. -/
def HoldsFor : Call F → Prop
  | .searchString _ => NoMismatch lib config settingName .string
  | .searchInt _ => NoMismatch lib config settingName .int
  | .searchFloat _ => NoMismatch lib config settingName .float
  | .searchBool _ => NoMismatch lib config settingName .boolean
  | .rewriteString value => Admits lib config settingName .string → nul ∉ value.toList
  | .rewriteInt _ | .rewriteFloat _ | .rewriteBool _ => True

end Calls

/-- Which calls keep the promise. -/
theorem accessors_settle_iff {lib : Libconfig D F} {widen : F → D} {narrow : D → F}
    (documented : Documented lib widen narrow) (config : Config D) (settingName : String)
    (call : Call F) :
    Settles lib config settingName call ↔ HoldsFor lib config settingName call := by
  have textConverts := documented.cStr.map CString.text
  cases call with
  | searchString out =>
    refine search_settles_iff documented textConverts (fun e => ?_) config settingName out
    rw [Option.isSome_map, textOf_isSome]
  | searchInt out =>
    exact search_settles_iff documented documented.toInt intOf_isSome config settingName out
  | searchFloat out =>
    refine search_settles_iff documented documented.toFloat (fun e => ?_) config settingName out
    rw [Option.isSome_map, floatOf_isSome]
  | searchBool out =>
    exact search_settles_iff documented documented.toBool boolOf_isSome config settingName out
  | rewriteString value =>
    have kept : ∀ value, (textOf (.leaf (.string (CString.of value)) : SettingEntry D)).map
        CString.text = some (CString.of value).text := fun _ => rfl
    have settles := rewrite_settles_iff documented textConverts documented.assignString
      (fun _ => rfl) kept config settingName value
    rw [of_text_eq_iff] at settles
    exact settles
  | rewriteInt value =>
    have settles := rewrite_settles documented documented.toInt documented.assignInt
      (fun _ => rfl) (fun _ => rfl) config settingName value
    exact iff_of_true settles trivial
  | rewriteFloat value =>
    have exact_float : ∀ value, (floatOf (.leaf (.float (widen value)) : SettingEntry D)).map
        narrow = some value := fun value => congrArg some (documented.narrow_widen value)
    have settles := rewrite_settles documented documented.toFloat documented.assignFloat
      (fun _ => rfl) exact_float config settingName value
    exact iff_of_true settles trivial
  | rewriteBool value =>
    have settles := rewrite_settles documented documented.toBool documented.assignBool
      (fun _ => rfl) (fun _ => rfl) config settingName value
    exact iff_of_true settles trivial

/-- A part of the configuration file that the repository comes with. -/
def camera : Config ℚ :=
  .node .group [(some "Amur", .node .group [(some "gstreamer", .node .group [
    (some "fps", .leaf (.int 15)), (some "src", .leaf (.string (CString.of "raspivid -o -")))])])]

theorem fps_rewritten : Settles (dotted ℚ) camera "Amur.gstreamer.fps" (.rewriteInt 30) :=
  (accessors_settle_iff (dotted_documented ℚ) camera "Amur.gstreamer.fps" (.rewriteInt 30)).mpr
    trivial

/-- The number of frames is asked for as a text. -/
theorem fps_as_text_escapes :
    ¬Settles (dotted ℚ) camera "Amur.gstreamer.fps" (.searchString "") := by
  have thrown : (searchString (dotted ℚ) camera "Amur.gstreamer.fps" "").result
      = .error .settingType := by
    decide +kernel
  rintro ⟨code, returned, -⟩
  rw [thrown] at returned
  cases returned

end ConfigAccess
