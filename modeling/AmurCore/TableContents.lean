import AmurCore.ConnectTable

/-!
# What the robot table is to show

The classification of `categorizeRobots` on entries themselves, without the heap
on which the dialog shares them: the rows that a table filled from given
contents shows, and the two sets of machine IDs that decide whether the
categories of two contents have the same IDs.
-/

namespace TableContents

open RobotRepository ConnectTable

section Lists
universe u v
variable {κ : Type u} {β : Type v}

/-- Values that carry the key they were found under determine the keys they were
looked up with. -/
theorem filterMap_eq_iff (keyOf : β → κ) {find find' : κ → Option β} {keys keys' : List κ}
    (found : ∀ k ∈ keys, (find k).map keyOf = some k)
    (found' : ∀ k ∈ keys', (find' k).map keyOf = some k) :
    keys.filterMap find = keys'.filterMap find' ↔ keys = keys' ∧ ∀ k ∈ keys, find k = find' k := by
  have recovered : ∀ (find : κ → Option β) (keys : List κ),
      (∀ k ∈ keys, (find k).map keyOf = some k) → (keys.filterMap find).map keyOf = keys := by
    intro find keys found
    rw [List.map_filterMap, List.filterMap_congr found, List.filterMap_some]
  constructor
  · intro same
    have keysEq : keys = keys' := by
      rw [← recovered find keys found, ← recovered find' keys' found', same]
    subst keysEq
    refine ⟨rfl, ?_⟩
    induction keys with
    | nil => exact fun k mem => nomatch mem
    | cons k keys ih =>
      rw [List.forall_mem_cons] at found found'
      obtain ⟨b, hb, -⟩ := Option.map_eq_some_iff.mp found.1
      obtain ⟨b', hb', -⟩ := Option.map_eq_some_iff.mp found'.1
      rw [List.filterMap_cons_some hb, List.filterMap_cons_some hb', List.cons.injEq] at same
      rw [List.forall_mem_cons, hb, hb']
      exact ⟨congrArg some same.1, ih found.2 found'.2 same.2⟩
  · rintro ⟨rfl, same⟩
    exact List.filterMap_congr same

/-- Where the keys differ, the last value with a key is the first one. -/
theorem find?_reverse_of_nodup [DecidableEq κ] (keyOf : β → κ) {l : List β}
    (keys : (l.map keyOf).Nodup) (k : κ) :
    l.reverse.find? (fun b => keyOf b = k) = l.find? fun b => keyOf b = k := by
  have single := UniqueRows.filter_key (⟨l, keys⟩ : UniqueRows keyOf) k
  rw [← List.head?_filter, ← List.head?_filter, List.filter_reverse, single]
  cases (⟨l, keys⟩ : UniqueRows keyOf).find k <;> rfl

end Lists

/-! ### Rows -/

/-- The texts of a row. -/
structure Texts where
  name : String
  machineID : String
  address : String
  port : String
  deriving DecidableEq

def machineKey (robot : RobotEntry) : String := robot.machineID.getD ""

def texts (robot : RobotEntry) : Texts :=
  ⟨robot.name, machineKey robot, robot.address.getD "", toString robot.port.toNat⟩

/-- What `updateTable` is given: whether the database could be read, its
contents, and the list of the network. -/
structure Contents where
  executed : Bool
  repo : Repository
  robots : List RobotEntry

namespace Contents

def empty : Contents := ⟨false, UniqueRows.empty, []⟩

variable (c : Contents)

def known : List RobotEntry := loadRobots c.executed c.repo

def find (machineID : String) : Option RobotEntry :=
  c.known.find? fun robot => machineKey robot = machineID

def knownIDs : List String := c.known.map machineKey

def activeIDs : List String := c.robots.map machineKey

/-- The machine IDs of the robots on the network that the repository has. -/
def foundIDs : List String := c.activeIDs.filter fun machineID => (c.find machineID).isSome

def inactiveIDs (keyOrder : List String → List String) : List String :=
  (keyOrder c.knownIDs).filter fun machineID => !c.activeIDs.contains machineID

def activeKnown : List RobotEntry := c.activeIDs.filterMap c.find

def activeUnknown : List RobotEntry :=
  c.robots.filter fun robot => (c.find (machineKey robot)).isNone

def knownInactive (keyOrder : List String → List String) : List RobotEntry :=
  (c.inactiveIDs keyOrder).filterMap c.find

def rows (keyOrder : List String → List String) : List (Category × Texts) :=
  (c.activeKnown.map fun robot => (.activeKnown, texts robot)) ++
    (c.activeUnknown.map fun robot => (.activeUnknown, texts robot)) ++
    (c.knownInactive keyOrder).map fun robot => (.knownInactive, texts robot)

end Contents

/-- The same machine IDs are in the repository, and the same are on the network. -/
structure SameMachineIDs (c d : Contents) : Prop where
  known : ∀ machineID, machineID ∈ c.knownIDs ↔ machineID ∈ d.knownIDs
  active : ∀ machineID, machineID ∈ c.activeIDs ↔ machineID ∈ d.activeIDs

/-- The repository shows the same under every machine ID, the robots it does not
have show the same, and the rest are listed in the same order. -/
structure ShowsSame (keyOrder : List String → List String) (c d : Contents) : Prop where
  known : ∀ machineID, (c.find machineID).map texts = (d.find machineID).map texts
  unknown : c.activeUnknown.map texts = d.activeUnknown.map texts
  found : c.foundIDs = d.foundIDs
  inactive : c.inactiveIDs keyOrder = d.inactiveIDs keyOrder

/-! ### Machine IDs of the categories -/

section MachineIDs
variable {c : Contents} {machineID : String}

theorem knownIDs_nodup (c : Contents) : c.knownIDs.Nodup := by
  rw [Contents.knownIDs, Contents.known, loadRobots]
  split
  · rw [List.map_map]
    exact c.repo.unique
  · exact List.nodup_nil

theorem find_key {robot : RobotEntry} (found : c.find machineID = some robot) :
    machineKey robot = machineID := by
  simpa using List.find?_some found

theorem find_isSome : (c.find machineID).isSome ↔ machineID ∈ c.knownIDs := by
  rw [Contents.find, List.find?_isSome, Contents.knownIDs, List.mem_map]
  simp

theorem find_eq_none : c.find machineID = none ↔ machineID ∉ c.knownIDs := by
  rw [← find_isSome, Option.not_isSome_iff_eq_none]

theorem find_map_key (mem : machineID ∈ c.knownIDs) :
    (c.find machineID).map machineKey = some machineID := by
  obtain ⟨robot, found⟩ := Option.isSome_iff_exists.mp (find_isSome.mpr mem)
  rw [found, Option.map_some, find_key found]

theorem mem_foundIDs : machineID ∈ c.foundIDs ↔
    machineID ∈ c.knownIDs ∧ machineID ∈ c.activeIDs := by
  rw [Contents.foundIDs, List.mem_filter, find_isSome, and_comm]

theorem activeKnown_eq (c : Contents) : c.activeKnown = c.foundIDs.filterMap c.find := by
  rw [Contents.activeKnown, Contents.foundIDs, List.filterMap_filter]
  refine List.filterMap_congr fun machineID _ => ?_
  cases c.find machineID <;> rfl

theorem activeKnown_keys (c : Contents) : c.activeKnown.map machineKey = c.foundIDs := by
  rw [activeKnown_eq, List.map_filterMap,
    List.filterMap_congr fun machineID mem => find_map_key (mem_foundIDs.mp mem).1,
    List.filterMap_some]

theorem mem_activeUnknown : machineID ∈ c.activeUnknown.map machineKey ↔
    machineID ∉ c.knownIDs ∧ machineID ∈ c.activeIDs := by
  simp only [Contents.activeUnknown, Contents.activeIDs, List.mem_map, List.mem_filter,
    Option.isNone_iff_eq_none, find_eq_none]
  constructor
  · rintro ⟨robot, ⟨mem, unknown⟩, rfl⟩
    exact ⟨unknown, robot, mem, rfl⟩
  · rintro ⟨unknown, robot, mem, rfl⟩
    exact ⟨robot, ⟨mem, unknown⟩, rfl⟩

variable {keyOrder : List String → List String}

theorem mem_inactiveIDs (listed : ∀ keys, (keyOrder keys).Perm keys) :
    machineID ∈ c.inactiveIDs keyOrder ↔ machineID ∈ c.knownIDs ∧ machineID ∉ c.activeIDs := by
  rw [Contents.inactiveIDs, List.mem_filter, (listed _).mem_iff]
  simp

theorem knownInactive_keys (listed : ∀ keys, (keyOrder keys).Perm keys) (c : Contents) :
    (c.knownInactive keyOrder).map machineKey = c.inactiveIDs keyOrder := by
  rw [Contents.knownInactive, List.map_filterMap,
    List.filterMap_congr fun machineID mem => find_map_key ((mem_inactiveIDs listed).mp mem).1,
    List.filterMap_some]

/-- The three comparisons of `categorizeRobots` amount to two. -/
theorem sameCategories_iff (listed : ∀ keys, (keyOrder keys).Perm keys) (c d : Contents) :
    ((∀ machineID, machineID ∈ c.activeUnknown.map machineKey ↔
        machineID ∈ d.activeUnknown.map machineKey) ∧
      (∀ machineID, machineID ∈ (c.knownInactive keyOrder).map machineKey ↔
        machineID ∈ (d.knownInactive keyOrder).map machineKey) ∧
      ∀ machineID, machineID ∈ c.activeKnown.map machineKey ↔
        machineID ∈ d.activeKnown.map machineKey) ↔ SameMachineIDs c d := by
  simp only [knownInactive_keys listed, activeKnown_keys, mem_activeUnknown, mem_foundIDs,
    mem_inactiveIDs listed]
  constructor
  · rintro ⟨unknown, inactive, found⟩
    constructor
    · intro machineID
      have := inactive machineID
      have := found machineID
      tauto
    · intro machineID
      have := unknown machineID
      have := found machineID
      tauto
  · rintro ⟨known, active⟩
    simp only [known, active, implies_true, and_self]

end MachineIDs

/-! ### When two contents show the same -/

section Rows
variable (keyOrder : List String → List String)

theorem rows_category (c : Contents) (category : Category) :
    (c.rows keyOrder).filterMap (fun row => if row.1 = category then some row.2 else none) =
      match category with
      | .activeKnown => c.activeKnown.map texts
      | .activeUnknown => c.activeUnknown.map texts
      | .knownInactive => (c.knownInactive keyOrder).map texts := by
  cases category <;> simp [Contents.rows, List.filterMap_map, List.filterMap_eq_map']

theorem rows_eq_iff_categories (c d : Contents) : c.rows keyOrder = d.rows keyOrder ↔
    c.activeKnown.map texts = d.activeKnown.map texts ∧
      c.activeUnknown.map texts = d.activeUnknown.map texts ∧
      (c.knownInactive keyOrder).map texts = (d.knownInactive keyOrder).map texts := by
  constructor
  · intro same
    have part := fun category => rows_category keyOrder c category
    simp only [same, rows_category] at part
    exact ⟨(part .activeKnown).symm, (part .activeUnknown).symm, (part .knownInactive).symm⟩
  · rintro ⟨activeKnown, activeUnknown, knownInactive⟩
    have tagged : ∀ (category : Category) (robots : List RobotEntry),
        robots.map (fun robot => (category, texts robot)) =
          (robots.map texts).map (Prod.mk category) := by
      intro category robots
      rw [List.map_map]
      rfl
    simp only [Contents.rows, tagged, activeKnown, activeUnknown, knownInactive]

variable {keyOrder}

theorem find_map_texts {c : Contents} {machineID : String} (mem : machineID ∈ c.knownIDs) :
    ((c.find machineID).map texts).map Texts.machineID = some machineID := by
  rw [Option.map_map]
  exact find_map_key mem

theorem activeKnown_eq_iff (c d : Contents) :
    c.activeKnown.map texts = d.activeKnown.map texts ↔ c.foundIDs = d.foundIDs ∧
      ∀ machineID ∈ c.foundIDs, (c.find machineID).map texts = (d.find machineID).map texts := by
  rw [activeKnown_eq, activeKnown_eq, List.map_filterMap, List.map_filterMap]
  refine filterMap_eq_iff Texts.machineID ?_ ?_
  · exact fun machineID mem => find_map_texts (mem_foundIDs.mp mem).1
  · exact fun machineID mem => find_map_texts (mem_foundIDs.mp mem).1

theorem knownInactive_eq_iff (listed : ∀ keys, (keyOrder keys).Perm keys) (c d : Contents) :
    (c.knownInactive keyOrder).map texts = (d.knownInactive keyOrder).map texts ↔
      c.inactiveIDs keyOrder = d.inactiveIDs keyOrder ∧ ∀ machineID ∈ c.inactiveIDs keyOrder,
        (c.find machineID).map texts = (d.find machineID).map texts := by
  rw [Contents.knownInactive, Contents.knownInactive, List.map_filterMap, List.map_filterMap]
  refine filterMap_eq_iff Texts.machineID ?_ ?_
  · exact fun machineID mem => find_map_texts ((mem_inactiveIDs listed).mp mem).1
  · exact fun machineID mem => find_map_texts ((mem_inactiveIDs listed).mp mem).1

/-- Contents with the same machine IDs fill the same rows exactly when they show
the same under each of them, in the same order. -/
theorem rows_eq_iff (listed : ∀ keys, (keyOrder keys).Perm keys) {c d : Contents}
    (same : SameMachineIDs c d) : c.rows keyOrder = d.rows keyOrder ↔ ShowsSame keyOrder c d := by
  rw [rows_eq_iff_categories, activeKnown_eq_iff, knownInactive_eq_iff listed]
  constructor
  · rintro ⟨⟨found, showsFound⟩, unknown, inactive, showsInactive⟩
    refine ⟨fun machineID => ?_, unknown, found, inactive⟩
    by_cases known : machineID ∈ c.knownIDs
    · by_cases active : machineID ∈ c.activeIDs
      · exact showsFound machineID (mem_foundIDs.mpr ⟨known, active⟩)
      · exact showsInactive machineID ((mem_inactiveIDs listed).mpr ⟨known, active⟩)
    · rw [find_eq_none.mpr known, find_eq_none.mpr ((same.known machineID).not.mp known)]
  · intro shows
    exact ⟨⟨shows.found, fun machineID _ => shows.known machineID⟩, shows.unknown, shows.inactive,
      fun machineID _ => shows.known machineID⟩

theorem knownInactive_empty : Contents.empty.knownInactive keyOrder = [] :=
  List.filterMap_eq_nil_iff.mpr fun _ _ => rfl

theorem rows_empty : Contents.empty.rows keyOrder = [] := by
  rw [Contents.rows, knownInactive_empty]
  rfl

/-- Contents without machine IDs show what empty contents show: nothing. -/
theorem showsSame_empty {c : Contents} (same : SameMachineIDs .empty c) :
    ShowsSame keyOrder .empty c := by
  have knownIDs : c.knownIDs = [] := List.eq_nil_iff_forall_not_mem.mpr fun machineID mem =>
    List.not_mem_nil ((same.known machineID).mpr mem)
  have activeIDs : c.activeIDs = [] := List.eq_nil_iff_forall_not_mem.mpr fun machineID mem =>
    List.not_mem_nil ((same.active machineID).mpr mem)
  have robots : c.robots = [] := List.map_eq_nil_iff.mp activeIDs
  refine ⟨fun machineID => ?_, ?_, ?_, ?_⟩
  · have unknown : machineID ∉ c.knownIDs := by simp [knownIDs]
    rw [find_eq_none.mpr unknown]
    rfl
  · rw [Contents.activeUnknown, Contents.activeUnknown, robots]
    rfl
  · rw [Contents.foundIDs, Contents.foundIDs, activeIDs]
    rfl
  · rw [Contents.inactiveIDs, Contents.inactiveIDs, knownIDs, activeIDs]
    rfl

end Rows

end TableContents
