import AmurCore.UniqueRows

/-!
# Tables whose key may be unguarded

A table of rows in the order of their insertion, and whether a constraint or an
index keeps its key unique. A guard that is asked for later needs rows that already
have distinct keys. As long as there is a guard, the statements do what they do to
a table with a unique key.
-/

universe u v

/-- Rows of type `ρ`; their keys are pairwise distinct if there is a guard. -/
structure GuardedRows {κ : Type u} {ρ : Type v} (key : ρ → κ) where
  rows : List ρ
  guarded : Bool
  unique : guarded = true → (rows.map key).Nodup

namespace GuardedRows

variable {κ : Type u} {ρ : Type v} {key : ρ → κ}

/-- A new table with the constraint. -/
def empty : GuardedRows key := ⟨[], true, fun _ => List.nodup_nil⟩

/-- A guarded table is a table with a unique key. -/
def toUnique (t : GuardedRows key) (guarded : t.guarded = true) : UniqueRows key :=
  ⟨t.rows, t.unique guarded⟩

/-- The guarded table is the table with a unique key. -/
def Guards (t : GuardedRows key) (u : UniqueRows key) : Prop :=
  ∃ guarded : t.guarded = true, t.toUnique guarded = u

/-- `DELETE … WHERE`. -/
def eraseWhere (t : GuardedRows key) (p : ρ → Bool) : GuardedRows key :=
  ⟨t.rows.filter fun r => !p r, t.guarded, fun guarded =>
    ((t.toUnique guarded).eraseWhere p).unique⟩

variable [DecidableEq κ]

/-- `CREATE UNIQUE INDEX IF NOT EXISTS`, which fails if there are duplicates. -/
def guard (t : GuardedRows key) : Option (GuardedRows key) :=
  if distinct : (t.rows.map key).Nodup then some ⟨t.rows, true, fun _ => distinct⟩ else none

/-- `INSERT OR IGNORE`, and whether the row was inserted. Only a guard can make
the statement ignore a row. -/
def insertOrIgnore (t : GuardedRows key) (r : ρ) : Bool × GuardedRows key :=
  if ignored : t.guarded = true ∧ key r ∈ t.rows.map key then (false, t)
  else (true, ⟨t.rows ++ [r], t.guarded, fun guarded => by
    have free : key r ∉ t.rows.map key := fun taken => ignored ⟨guarded, taken⟩
    rw [List.map_append, List.map_singleton, List.nodup_append_comm]
    exact List.nodup_cons.mpr ⟨free, t.unique guarded⟩⟩)

/-- `UPDATE … WHERE key = k` with columns other than the key. -/
def amend (t : GuardedRows key) (k : κ) (f : ρ → ρ) (keeps : ∀ r, key (f r) = key r) :
    GuardedRows key :=
  ⟨t.rows.map fun r => if key r = k then f r else r, t.guarded, fun guarded =>
    ((t.toUnique guarded).amend k f keeps).unique⟩

/-! ### Guarded tables -/

section Guards
variable {t : GuardedRows key} {u : UniqueRows key}

omit [DecidableEq κ] in
theorem Guards.rows (h : t.Guards u) : t.rows = u.rows := by
  obtain ⟨guarded, rfl⟩ := h
  rfl

omit [DecidableEq κ] in
theorem Guards.eraseWhere (h : t.Guards u) (p : ρ → Bool) :
    (t.eraseWhere p).Guards (u.eraseWhere p) := by
  obtain ⟨guarded, rfl⟩ := h
  exact ⟨guarded, rfl⟩

theorem Guards.amend (h : t.Guards u) (k : κ) (f : ρ → ρ) (keeps : ∀ r, key (f r) = key r) :
    (t.amend k f keeps).Guards (u.amend k f keeps) := by
  obtain ⟨guarded, rfl⟩ := h
  exact ⟨guarded, rfl⟩

/-- A guarded table ignores exactly the rows whose key is taken. -/
theorem Guards.insertOrIgnore (h : t.Guards u) (r : ρ) :
    (t.insertOrIgnore r).1 = (u.find (key r)).isNone ∧
      (t.insertOrIgnore r).2.Guards (u.insertNew r) := by
  obtain ⟨guarded, rfl⟩ := h
  by_cases taken : key r ∈ t.rows.map key
  · have ignored : t.insertOrIgnore r = (false, t) := dif_pos ⟨guarded, taken⟩
    have kept : (t.toUnique guarded).insertNew r = t.toUnique guarded := dif_pos taken
    have found : (t.toUnique guarded).find (key r) ≠ none :=
      fun none_found => UniqueRows.find_eq_none.mp none_found taken
    rw [ignored, kept]
    refine ⟨?_, guarded, rfl⟩
    rw [eq_comm, Option.isNone_eq_false_iff, ← Option.ne_none_iff_isSome]
    exact found
  · have free : ¬(t.guarded = true ∧ key r ∈ t.rows.map key) := fun both => taken both.2
    have none_found : (t.toUnique guarded).find (key r) = none :=
      UniqueRows.find_eq_none.mpr taken
    have inserted : (t.toUnique guarded).insertNew r = ⟨t.rows ++ [r], _⟩ := dif_neg taken
    rw [GuardedRows.insertOrIgnore, dif_neg free, none_found, inserted]
    exact ⟨rfl, guarded, rfl⟩

theorem guard_eq_some_iff {t t' : GuardedRows key} :
    t.guard = some t' ↔ t'.rows = t.rows ∧ t'.guarded = true := by
  constructor
  · intro h
    rw [guard] at h
    split at h
    · cases h
      exact ⟨rfl, rfl⟩
    · cases h
  · rintro ⟨same, guarded⟩
    have distinct := t'.unique guarded
    rw [same] at distinct
    rw [guard, dif_pos distinct]
    obtain ⟨rows, guarded', unique⟩ := t'
    subst same guarded
    rfl

end Guards

end GuardedRows
