import Mathlib.Data.Set.Function
import Mathlib.Logic.Function.Basic

/-!
# Mutexes and the sections they guard

A table of owners and, for each thread, the mutex that the section it is in
holds. The two agree as long as every section is entered by acquiring its mutex
and left by releasing it. Then no two threads are in sections of one mutex.
Nothing here says what the mutexes are meant to guard.
-/

namespace LockedSections

universe u v
variable {T : Type u} {M : Type v}

/-- The owner table says the same as the threads themselves. -/
def Consistent (owner : M → Option T) (holds : T → Option M) : Prop :=
  ∀ m t, owner m = some t ↔ holds t = some m

theorem consistent_unlocked : Consistent (fun _ : M => (none : Option T)) (fun _ => none) := by
  intro m t
  simp

namespace Consistent
variable {owner : M → Option T} {holds : T → Option M}

theorem exclusive (c : Consistent owner holds) {m : M} {t u : T} (ht : holds t = some m)
    (hu : holds u = some m) : t = u := by
  have owner_t := (c m t).mpr ht
  rw [(c m u).mpr hu] at owner_t
  exact (Option.some.inj owner_t).symm

variable [DecidableEq T] [DecidableEq M]

/-- A thread outside all sections acquires a free mutex. -/
theorem acquire (c : Consistent owner holds) {m : M} {t : T} (free : owner m = none)
    (outside : holds t = none) :
    Consistent (Function.update owner m (some t)) (Function.update holds t (some m)) := by
  intro k u
  by_cases hk : k = m
  · subst k
    by_cases hu : u = t
    · subst u
      simp
    · have other : holds u ≠ some m := by
        intro h
        rw [(c m u).mpr h] at free
        cases free
      simpa [Function.update_of_ne hu, other] using fun h : t = u => hu h.symm
  · by_cases hu : u = t
    · have notOwner : owner k ≠ some t := by
        intro h
        rw [(c k t).mp h] at outside
        cases outside
      have elsewhere : ¬m = k := fun h => hk h.symm
      simp [hu, Function.update_of_ne hk, notOwner, elsewhere]
    · simpa [Function.update_of_ne hk, Function.update_of_ne hu] using c k u

/-- A thread leaves its section and releases the mutex. -/
theorem release (c : Consistent owner holds) {m : M} {t : T} (inside : holds t = some m) :
    Consistent (Function.update owner m none) (Function.update holds t none) := by
  intro k u
  by_cases hk : k = m
  · subst k
    by_cases hu : u = t
    · subst u
      simp
    · have other : holds u ≠ some m := fun h => hu (c.exclusive h inside)
      simp [Function.update_of_ne hu, other]
  · by_cases hu : u = t
    · have notOwner : owner k ≠ some t := by
        intro h
        rw [(c k t).mp h] at inside
        exact hk (Option.some.inj inside)
      simp [hu, Function.update_of_ne hk, notOwner]
    · simpa [Function.update_of_ne hk, Function.update_of_ne hu] using c k u

end Consistent

end LockedSections
