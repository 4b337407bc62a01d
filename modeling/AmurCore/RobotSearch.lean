import Mathlib.Data.List.Basic
import AmurCore.RobotRepository

/-!
# Searching, deleting and updating rows

What the criteria of `searchRobots` and `deleteRobots` mean for a row, however
their statements are put together, and what `updateRobot` stores. The statement
of `updateRobot` has no column for the MAC address, and its success does not say
that there was a row.
-/

namespace RobotSearch

open RobotRepository

/-! ### The meaning of criteria -/

/-- The row agrees with every criterion that is not empty. -/
def Meets (c : Criteria) (row : Row) : Prop :=
  (c.machineID = "" ∨ row.machineID = c.machineID) ∧ (c.name = "" ∨ row.name = c.name) ∧
  (c.address = "" ∨ row.address = c.address) ∧ (c.macAddress = "" ∨ row.macAddress = c.macAddress)

theorem all_unlessEmpty {α : Type} (field : String) (added : α) (p : α → Bool) :
    (unlessEmpty field added).all p = true ↔ field = "" ∨ p added = true := by
  unfold unlessEmpty
  by_cases empty : field = "" <;> simp [empty]

theorem lookup_unlessEmpty (field key placeholder : String) :
    (unlessEmpty field (key, field)).lookup placeholder
      = if placeholder = key ∧ field ≠ "" then some field else none := by
  unfold unlessEmpty
  by_cases empty : field = ""
  · simp [empty]
  · by_cases same : placeholder = key <;> simp [empty, same]

/-- The value bound to a criterion is the criterion itself, if it is not empty. -/
theorem criterion_iff (field value : String) :
    (field = "" ∨ decide ((if field ≠ "" then some field else none) = some value) = true) ↔
      field = "" ∨ value = field := by
  by_cases empty : field = ""
  · simp [empty]
  · simp [empty, eq_comm]

theorem search_selects_iff (c : Criteria) (row : Row) :
    selects (searchConditions c) (searchBindings c) row = true ↔ Meets c row := by
  have machineID : (searchBindings c).lookup ":machineID"
      = if c.machineID ≠ "" then some c.machineID else none := by
    simp [searchBindings, List.lookup_append, lookup_unlessEmpty]
  have name : (searchBindings c).lookup ":name" = if c.name ≠ "" then some c.name else none := by
    simp [searchBindings, List.lookup_append, lookup_unlessEmpty]
  have address : (searchBindings c).lookup ":address"
      = if c.address ≠ "" then some c.address else none := by
    simp [searchBindings, List.lookup_append, lookup_unlessEmpty]
  have macAddress : (searchBindings c).lookup ":macAddress"
      = if c.macAddress ≠ "" then some c.macAddress else none := by
    simp [searchBindings, List.lookup_append, lookup_unlessEmpty]
  simp only [selects, searchConditions, List.all_append, Bool.and_eq_true, all_unlessEmpty,
    machineID, name, address, macAddress, Row.value, criterion_iff, Meets, and_assoc]

theorem delete_selects (c : Criteria) (row : Row) :
    selects (deleteConditions c) (deleteBindings c) row
      = selects (searchConditions c) (searchBindings c) row := rfl

/-! ### Searching after deleting -/

theorem toEntry_injective : Function.Injective Row.toEntry := by
  rintro ⟨machineID, name, address, port, portForAnswer, macAddress⟩ row same
  cases row
  simp_all [Row.toEntry]

/-- Searching and deleting by the same criteria split the rows, whether or not their
machine IDs are distinct. -/
theorem rows_split (c : Criteria) (rows : List Row) :
    let found := (rows.filter (selects (searchConditions c) (searchBindings c))).map Row.toEntry
    let kept := rows.filter fun row => !selects (deleteConditions c) (deleteBindings c) row
    kept = rows.filter (fun row => row.toEntry ∉ found) ∧
      (kept.filter (selects (searchConditions c) (searchBindings c))).map Row.toEntry = [] ∧
      (found ++ kept.map Row.toEntry).Perm (rows.map Row.toEntry) := by
  intro found kept
  have kept_eq : kept = rows.filter fun row =>
      !selects (searchConditions c) (searchBindings c) row :=
    List.filter_congr fun row _ => congrArg Bool.not (delete_selects c row)
  rw [kept_eq]
  refine ⟨?_, ?_, ?_⟩
  · refine List.filter_congr fun row stored => ?_
    have listed : row.toEntry ∈ found ↔ Meets c row := by
      rw [List.mem_map_of_injective toEntry_injective, List.mem_filter, search_selects_iff]
      exact and_iff_right stored
    rw [Bool.eq_iff_iff, Bool.not_eq_true', ← Bool.not_eq_true, search_selects_iff,
      decide_eq_true_iff, listed]
  · rw [List.filter_filter]
    simp
  · rw [← List.map_append]
    exact (List.filter_append_perm _ rows).map Row.toEntry

/-- Searching and deleting by the same criteria select the same rows. -/
theorem delete_search_exact (executed : Bool) (c : Criteria) (repo : Repository)
    (succeeded : (deleteRobots executed c repo).1 = true) :
    (deleteRobots executed c repo).2.rows
        = repo.rows.filter (fun row => row.toEntry ∉ searchRobots true c repo) ∧
      searchRobots true c (deleteRobots executed c repo).2 = [] ∧
      (searchRobots true c repo ++ loadRobots true (deleteRobots executed c repo).2).Perm
        (loadRobots true repo) := by
  cases executed with
  | false => cases succeeded
  | true => exact rows_split c repo.rows

def lamp : Row := ⟨"r1", "Lamp", "10.0.0.7", 5000, 0, ""⟩

def arm : Row := ⟨"r2", "Arm", "10.0.0.7", 5001, 0, "02:00:00:00:00:01"⟩

def lampAndArm : Repository := ⟨[lamp, arm], by decide⟩

theorem delete_search_lamp :
    (searchRobots true ⟨"", "Lamp", "10.0.0.7", ""⟩ lampAndArm ++
      loadRobots true (deleteRobots true ⟨"", "Lamp", "10.0.0.7", ""⟩ lampAndArm).2).Perm
      [lamp.toEntry, arm.toEntry] :=
  (delete_search_exact true ⟨"", "Lamp", "10.0.0.7", ""⟩ lampAndArm rfl).2.2

/-! ### Updating -/

/-- The entries found for an ID that is not empty. -/
theorem searchRobots_machineID (repo : Repository) {machineID : String} (named : machineID ≠ "") :
    searchRobots true ⟨machineID, "", "", ""⟩ repo
      = ((repo.find machineID).map Row.toEntry).toList := by
  rw [searchRobots, if_pos rfl, Option.toList_map, ← UniqueRows.filter_key]
  congr 1
  refine List.filter_congr fun row _ => ?_
  rw [Bool.eq_iff_iff, search_selects_iff, decide_eq_true_iff]
  simp [Meets, named]

/-- The empty ID is no criterion: everything is found. -/
theorem searchRobots_empty (repo : Repository) :
    searchRobots true ⟨"", "", "", ""⟩ repo = repo.rows.map Row.toEntry := by
  rw [searchRobots, if_pos rfl]
  congr 1
  refine List.filter_eq_self.mpr fun row _ => ?_
  rw [search_selects_iff]
  simp [Meets]

theorem search_eq_singleton_iff (repo : Repository) {r : RobotEntry} {machineID : String}
    (hm : r.machineID = some machineID) :
    searchRobots true ⟨machineID, "", "", ""⟩ repo = [r] ↔
      (repo.find machineID).map Row.toEntry = some r ∧ (machineID = "" → repo.rows.length = 1) := by
  by_cases named : machineID = ""
  · subst named
    rw [searchRobots_empty]
    constructor
    · intro single
      obtain ⟨row, rows, entry⟩ := List.map_eq_singleton_iff.mp single
      have key : row.machineID = "" := Option.some.inj ((congrArg _ entry).trans hm)
      have found : repo.find "" = some row := by
        rw [UniqueRows.find, rows]
        exact List.find?_cons_of_pos (decide_eq_true key)
      exact ⟨by rw [found, Option.map_some, entry], fun _ => by rw [rows]; rfl⟩
    · rintro ⟨found, single⟩
      obtain ⟨row, rows⟩ := List.length_eq_one_iff.mp (single rfl)
      obtain ⟨row', found, entry⟩ := Option.map_eq_some_iff.mp found
      have mem : row' ∈ repo.rows := List.mem_of_find?_eq_some found
      rw [rows, List.mem_singleton] at mem
      rw [rows, ← mem, List.map_singleton, entry]
  · rw [searchRobots_machineID repo named]
    cases (repo.find machineID).map Row.toEntry with
    | none => simp
    | some entry => simp [named]

/-- The update has stored the entry, and left the entries of all other IDs. -/
def Stores (executed : Bool) (r : RobotEntry) (machineID : String) (repo : Repository) : Prop :=
  (updateRobot executed r repo).1 = true →
    searchRobots true ⟨machineID, "", "", ""⟩ (updateRobot executed r repo).2 = [r] ∧
    ∀ machineID', machineID' ≠ machineID →
      (updateRobot executed r repo).2.find machineID' = repo.find machineID'

/-- There is a row to update, with the MAC address of the entry, and the search
can ask for it. -/
def Updatable (r : RobotEntry) (machineID : String) (repo : Repository) : Prop :=
  (repo.find machineID).map Row.macAddress = some r.macAddress ∧
  (machineID = "" → repo.rows.length = 1)

section Update
variable {r : RobotEntry} {machineID address : String}

theorem updateRobot_executed (repo : Repository) (hm : r.machineID = some machineID)
    (ha : r.address = some address) :
    updateRobot true r repo = (true, repo.amend machineID (fun row => { row with
      name := r.name
      address := address
      port := r.port
      portForAnswer := r.portForAnswer }) fun _ => rfl) := by
  obtain ⟨name, _, _, port, portForAnswer, macAddress⟩ := r
  cases hm
  cases ha
  rfl

/-- Everything but the MAC address is stored, where there is a row. -/
theorem updated_entry_iff (repo : Repository) (hm : r.machineID = some machineID)
    (ha : r.address = some address) :
    ((updateRobot true r repo).2.find machineID).map Row.toEntry = some r ↔
      (repo.find machineID).map Row.macAddress = some r.macAddress := by
  rw [updateRobot_executed repo hm ha, UniqueRows.find_amend, if_pos rfl]
  cases found : repo.find machineID with
  | none => simp
  | some row =>
    have key : row.machineID = machineID := by simpa using List.find?_some found
    obtain ⟨name, id, addr, port, portForAnswer, macAddress⟩ := r
    cases hm
    cases ha
    simp [Row.toEntry, key]

/-- An update that succeeds stores the entry exactly if there was a row with the
MAC address of the entry, and for the empty ID no other row. -/
theorem update_stores_iff (executed : Bool) (repo : Repository) (hm : r.machineID = some machineID)
    (ha : r.address = some address) :
    Stores executed r machineID repo ↔ (executed = true → Updatable r machineID repo) := by
  cases executed with
  | false => simp [Stores, updateRobot]
  | true =>
    have others : ∀ machineID', machineID' ≠ machineID →
        (updateRobot true r repo).2.find machineID' = repo.find machineID' := by
      intro machineID' other
      rw [updateRobot_executed repo hm ha, UniqueRows.find_amend, if_neg other]
    have sameLength : (updateRobot true r repo).2.rows.length = repo.rows.length := by
      rw [updateRobot_executed repo hm ha]
      exact List.length_map _
    have succeeds : (updateRobot true r repo).1 = true := by
      rw [updateRobot_executed repo hm ha]
    rw [Stores, search_eq_singleton_iff _ hm, updated_entry_iff repo hm ha, sameLength, Updatable]
    constructor
    · exact fun stored _ => (stored succeeds).1
    · exact fun updatable _ => ⟨updatable rfl, others⟩

/-- The entry of the lamp, renamed. -/
def renamedLamp : RobotEntry := { lamp.toEntry with name := "Light" }

theorem lamp_stored : Stores true renamedLamp "r1" lampAndArm :=
  (update_stores_iff true lampAndArm rfl rfl).mpr fun _ => ⟨by decide, fun empty => nomatch empty⟩

/-- The update of a robot that is not stored succeeds, and stores nothing. -/
theorem unknown_update_lost :
    ¬∀ (repo : Repository) (r : RobotEntry) (machineID address : String),
      r.machineID = some machineID → r.address = some address →
      Stores true r machineID repo := by
  intro claimed
  have stored := claimed UniqueRows.empty lamp.toEntry "r1" "10.0.0.7" rfl rfl rfl
  exact absurd stored.1 (by decide)

end Update

end RobotSearch
