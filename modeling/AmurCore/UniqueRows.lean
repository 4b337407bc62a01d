import Mathlib.Data.List.Nodup

/-!
# Tables with a unique key

A table is a list of rows in the order of their insertion, no two of which have
the same key. The statements of a database that respect the constraint are
operations on tables, and what they do to the table as a map from keys to rows
is stated beside each. Nothing here says what the rows are.
-/

universe u v

/-- Rows of type `ρ` with pairwise distinct keys. -/
structure UniqueRows {κ : Type u} {ρ : Type v} (key : ρ → κ) where
  rows : List ρ
  unique : (rows.map key).Nodup

namespace UniqueRows

variable {κ : Type u} {ρ : Type v} {key : ρ → κ}

def empty : UniqueRows key := ⟨[], List.nodup_nil⟩

/-- `DELETE … WHERE`: the rows that satisfy the predicate go. -/
def eraseWhere (t : UniqueRows key) (p : ρ → Bool) : UniqueRows key :=
  ⟨t.rows.filter fun r => !p r, (List.Sublist.map key List.filter_sublist).nodup t.unique⟩

variable [DecidableEq κ]

/-- The row with the key, if there is one. -/
def find (t : UniqueRows key) (k : κ) : Option ρ := t.rows.find? fun r => key r = k

/-- `INSERT OR IGNORE`: a row whose key is taken is not inserted. -/
def insertNew (t : UniqueRows key) (r : ρ) : UniqueRows key :=
  if taken : key r ∈ t.rows.map key then t
  else ⟨t.rows ++ [r], by
    rw [List.map_append, List.map_singleton, List.nodup_append_comm]
    exact List.nodup_cons.mpr ⟨taken, t.unique⟩⟩

/-- `DELETE … WHERE key = k`. -/
def erase (t : UniqueRows key) (k : κ) : UniqueRows key := t.eraseWhere fun r => key r = k

/-- `UPDATE … WHERE key = k` with columns other than the key. -/
def amend (t : UniqueRows key) (k : κ) (f : ρ → ρ) (keeps : ∀ r, key (f r) = key r) :
    UniqueRows key :=
  ⟨t.rows.map fun r => if key r = k then f r else r, by
    have sameKeys :
        (t.rows.map fun r => if key r = k then f r else r).map key = t.rows.map key := by
      rw [List.map_map]
      refine List.map_congr_left fun r _ => ?_
      by_cases h : key r = k
      · simp [h, keeps]
      · simp [h]
    rw [sameKeys]
    exact t.unique⟩

/-- The rows with the key are the row with the key. -/
theorem filter_key (t : UniqueRows key) (k : κ) :
    (t.rows.filter fun r => key r = k) = (t.find k).toList := by
  obtain ⟨rows, unique⟩ := t
  simp only [find]
  induction rows with
  | nil => rfl
  | cons r rows ih =>
    rw [List.map_cons, List.nodup_cons] at unique
    by_cases h : key r = k
    · have rest : (rows.filter fun r => key r = k) = [] := by
        rw [List.filter_eq_nil_iff]
        intro r' mem sameKey
        apply unique.1
        rw [h, ← of_decide_eq_true sameKey]
        exact List.mem_map_of_mem mem
      simp [h, rest]
    · simp [h, ih unique.2]

theorem find_eq_none {t : UniqueRows key} {k : κ} :
    t.find k = none ↔ k ∉ t.rows.map key := by
  rw [find, List.find?_eq_none]
  simp

theorem find_insertNew (t : UniqueRows key) (r : ρ) (k : κ) :
    (t.insertNew r).find k = (t.find k).or (if key r = k then some r else none) := by
  unfold insertNew
  split
  · rename_i taken
    by_cases h : key r = k
    · cases found : t.find k with
      | none => exact absurd (h ▸ taken) (find_eq_none.mp found)
      | some r' => rfl
    · simp [h]
  · by_cases h : key r = k <;> simp [find, List.find?_append, h]

theorem find_erase (t : UniqueRows key) (k k' : κ) :
    (t.erase k).find k' = if k' = k then none else t.find k' := by
  simp only [erase, eraseWhere, find, List.find?_filter]
  split
  · rename_i h
    rw [List.find?_eq_none]
    simp [h]
  · rename_i h
    congr 1
    funext r
    by_cases hr : key r = k' <;> simp [hr, h]

theorem find_amend (t : UniqueRows key) (k k' : κ) (f : ρ → ρ) (keeps : ∀ r, key (f r) = key r) :
    (t.amend k f keeps).find k' = if k' = k then (t.find k').map f else t.find k' := by
  simp only [amend, find, List.find?_map]
  have samePredicate : ((fun r => decide (key r = k')) ∘ fun r => if key r = k then f r else r)
      = fun r => decide (key r = k') := by
    funext r
    by_cases h : key r = k <;> simp [h, keeps]
  rw [samePredicate]
  cases found : t.rows.find? fun r => key r = k' with
  | none => simp
  | some r =>
    have keyOf : key r = k' := by simpa using List.find?_some found
    by_cases h : k' = k <;> simp [keyOf, h]

end UniqueRows
