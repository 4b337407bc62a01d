import AmurCore.ServerThreads

/-!
# Which mutex guards which message

Every thread locks correctly for itself, so the owner table always agrees with
the sections the threads are in. Whether the dialog and the handlers of one
message exclude each other depends on the references that the dialog was
constructed with. The construction in `AmurCore::initialize` hands them over in
the other order than `NavDialog::NavDialog` names them.
-/

namespace MutexWiring

open EventRuns LockedSections ServerThreads

/-- The section builds `controls.navControl` or reads `sensors`; `onMapUpdated`
reads the map. -/
def usesData : UiSection → Bool
  | .onMapUpdated => false
  | .followWaypoints | .goThroughPoses | .stopNavigation | .sendGoals | .taskStatusAsString
  | .updateStateFromStatus => true

theorem eq_onMapUpdated {sec : UiSection} (h : usesData sec = false) : sec = .onMapUpdated := by
  cases sec <;> first | rfl | cases h

theorem other_other (m : Mutex) : m.other.other = m := by
  cases m <;> rfl

section Steps
variable {ι : Type}

/-- No section of the dialog overlaps a handler's section on the same message. -/
def Exclusive (kind : ι → HandlerKind) (s : State ι) : Prop :=
  (∀ sec i, s.ui = some sec → usesData sec = true → (kind i).exchangesData = true →
    (s.pc i).locked = false) ∧
  ∀ i, s.ui = some .onMapUpdated → (kind i).exchangesData = false → (s.pc i).locked = false

theorem exclusive_iff {kind : ι → HandlerKind} {s : State ι} :
    Exclusive kind s ↔ ∀ sec i, s.ui = some sec → usesData sec = (kind i).exchangesData →
      (s.pc i).locked = false := by
  constructor
  · rintro ⟨data, map⟩ sec i inside same
    cases kindOf : (kind i).exchangesData with
    | true => exact data sec i inside (same.trans kindOf) kindOf
    | false =>
      rw [eq_onMapUpdated (same.trans kindOf)] at inside
      exact map i inside kindOf
  · intro h
    constructor
    · intro sec i inside used exchanges
      exact h sec i inside (used.trans exchanges.symm)
    · intro i inside exchanges
      exact h .onMapUpdated i inside exchanges.symm

variable [DecidableEq ι] {w : DialogMutexes} {kind : ι → HandlerKind} {s t : State ι}

/-- The acquisition that an action is, if it is one. -/
def acquires (w : DialogMutexes) (kind : ι → HandlerKind) :
    Action ι → Option (Thread ι × Mutex)
  | .uiLock sec => some (.ui, sec.mutex w)
  | .lock i => some (.handler i, (kind i).mutex)
  | .uiUnlock | .call _ | .arrive _ | .read _ | .close _ | .unlock _ => none

/-- What one step can do to the mutexes. -/
inductive Effect (w : DialogMutexes) (kind : ι → HandlerKind) (s : State ι) (a : Action ι)
    (t : State ι) : Prop
  | quiet (nothing : acquires w kind a = none) (owner : t.owner = s.owner)
      (held : holds w kind t = holds w kind s)
  | acquire (u : Thread ι) (m : Mutex) (acquired : acquires w kind a = some (u, m))
      (free : s.owner m = none) (outside : holds w kind s u = none)
      (owner : t.owner = Function.update s.owner m (some u))
      (held : holds w kind t = Function.update (holds w kind s) u (some m))
  | release (u : Thread ι) (m : Mutex) (nothing : acquires w kind a = none)
      (inside : holds w kind s u = some m)
      (owner : t.owner = Function.update s.owner m none)
      (held : holds w kind t = Function.update (holds w kind s) u none)

theorem holds_ui (owner : Mutex → Option (Thread ι)) (ui : Option UiSection) :
    holds w kind { s with owner := owner, ui := ui }
      = Function.update (holds w kind s) .ui (ui.map (UiSection.mutex w)) := by
  funext u
  cases u with
  | ui => simp [holds]
  | handler i => simp [holds]

theorem holds_pc (owner : Mutex → Option (Thread ι)) (arrived : ι → Nat) (i : ι)
    (pc : HandlerPc) :
    holds w kind { s with owner := owner, pc := Function.update s.pc i pc, arrived := arrived }
      = Function.update (holds w kind s) (.handler i)
          (if pc.locked then some (kind i).mutex else none) := by
  funext u
  cases u with
  | ui => simp [holds]
  | handler j =>
    by_cases hj : j = i
    · subst j
      simp [holds]
    · have other : Thread.handler j ≠ .handler i := fun h => hj (Thread.handler.inj h)
      simp [holds, Function.update_of_ne hj, Function.update_of_ne other]

/-- A handler that moves without touching the lock holds what it held. -/
theorem holds_pc_same {i : ι} {pc : HandlerPc} (arrived : ι → Nat)
    (same : pc.locked = (s.pc i).locked) :
    holds w kind { s with pc := Function.update s.pc i pc, arrived := arrived }
      = holds w kind s := by
  rw [holds_pc s.owner arrived i pc, same]
  exact Function.update_eq_self (.handler i) (holds w kind s)

theorem entry_unlocked (k : HandlerKind) : k.entry.locked = false := by
  cases k <;> rfl

theorem afterLock_locked (k : HandlerKind) : k.afterLock.locked = true := by
  cases k <;> rfl

theorem afterUnlock_unlocked (k : HandlerKind) : k.afterUnlock.locked = false := by
  cases k <;> rfl

theorem step_effect {a : Action ι} (h : step w kind s a = some t) : Effect w kind s a t := by
  cases step_stepped h with
  | uiLock sec outside free =>
    exact .acquire .ui (sec.mutex w) rfl free (by simp [holds, outside]) rfl (holds_ui _ _)
  | uiUnlock sec inside =>
    exact .release .ui (sec.mutex w) rfl (by simp [holds, inside]) rfl (holds_ui _ _)
  | call i idle =>
    exact .quiet rfl rfl (holds_pc_same s.arrived (by rw [idle, entry_unlocked]; rfl))
  | arrive i => exact .quiet rfl rfl rfl
  | lock i locking free =>
    refine .acquire (.handler i) (kind i).mutex rfl free ?_ rfl ?_
    · simp [holds, locking, HandlerPc.locked]
    · rw [holds_pc _ s.arrived, afterLock_locked, if_pos rfl]
  | read i reading => exact .quiet rfl rfl (holds_pc_same _ (by rw [reading]; rfl))
  | readLocked i reading => exact .quiet rfl rfl (holds_pc_same _ (by rw [reading]; rfl))
  | close i reading => exact .quiet rfl rfl (holds_pc_same s.arrived (by rw [reading]; rfl))
  | closeLocked i reading =>
    refine .release (.handler i) (kind i).mutex rfl ?_ rfl (holds_pc _ s.arrived i .idle)
    simp [holds, reading, HandlerPc.locked]
  | unlock i inside =>
    refine .release (.handler i) (kind i).mutex rfl ?_ rfl ?_
    · simp [holds, inside, HandlerPc.locked]
    · rw [holds_pc _ s.arrived, afterUnlock_unlocked]
      rfl

theorem step_consistent {a : Action ι} (h : step w kind s a = some t)
    (c : Consistent s.owner (holds w kind s)) : Consistent t.owner (holds w kind t) := by
  cases step_effect h with
  | quiet nothing owner held =>
    rw [owner, held]
    exact c
  | acquire u m acquired free outside owner held =>
    rw [owner, held]
    exact c.acquire free outside
  | release u m nothing inside owner held =>
    rw [owner, held]
    exact c.release inside

theorem reaches_consistent {actions : List (Action ι)} (reached : Reaches w kind actions s) :
    Consistent s.owner (holds w kind s) := by
  have kept : ∀ s a t, step w kind s a = some t → Consistent s.owner (holds w kind s) →
      Consistent t.owner (holds w kind t) := fun s a t h c => step_consistent h c
  have outside : holds w kind (start : State ι) = fun _ => none := by
    funext u
    cases u <;> rfl
  have initial : Consistent (start : State ι).owner (holds w kind start) := by
    rw [outside]
    exact consistent_unlocked
  exact run_lift_invariant kept initial reached

/-- Handlers that lock the same mutex are never both in their locked sections. -/
theorem handlers_exclusive {actions : List (Action ι)} (reached : Reaches w kind actions s)
    {i j : ι} (same : (kind i).mutex = (kind j).mutex) (hi : (s.pc i).locked = true)
    (hj : (s.pc j).locked = true) : i = j := by
  have c := reaches_consistent reached
  have both := c.exclusive (m := (kind i).mutex) (t := .handler i) (u := .handler j)
    (by simp [holds, hi]) (by simp [holds, hj, same])
  exact Thread.handler.inj both

/-- With the references in the order in which the constructor names them, a
section and a handler of one message lock the same mutex, and never overlap. -/
theorem exclusive_of_named_order {actions : List (Action ι)}
    (reached : Reaches (constructNavDialog getMutex getMapMutex) kind actions s) :
    Exclusive kind s := by
  have c := reaches_consistent reached
  rw [exclusive_iff]
  intro sec i atSec same
  by_contra locked
  rw [Bool.not_eq_false] at locked
  have sameMutex : sec.mutex (constructNavDialog getMutex getMapMutex) = (kind i).mutex := by
    cases sec <;> cases hk : kind i <;> rw [hk] at same <;> first | rfl | cases same
  have both := c.exclusive (m := (kind i).mutex) (t := .ui) (u := .handler i)
    (by simp [holds, atSec, sameMutex]) (by simp [holds, locked])
  cases both

/-- The threads are on different sides: one is the dialog and one a handler. -/
def Opposed : Thread ι → Thread ι → Prop
  | .ui, .handler _ | .handler _, .ui => True
  | .ui, .ui | .handler _, .handler _ => False

omit [DecidableEq ι] in
theorem Opposed.symm {u v : Thread ι} (h : Opposed u v) : Opposed v u := by
  cases u <;> cases v <;> exact h

/-- Opposed threads own the two mutexes. -/
def Crossed (owner : Mutex → Option (Thread ι)) : Prop :=
  ∃ m u v, owner m = some u ∧ owner m.other = some v ∧ Opposed u v

omit [DecidableEq ι] in
theorem crossed_iff {owner : Mutex → Option (Thread ι)} (m : Mutex) :
    Crossed owner ↔ ∃ u v, owner m = some u ∧ owner m.other = some v ∧ Opposed u v := by
  constructor
  · rintro ⟨k, u, v, hu, hv, opposed⟩
    cases k <;> cases m
    · exact ⟨u, v, hu, hv, opposed⟩
    · exact ⟨v, u, hv, hu, opposed.symm⟩
    · exact ⟨v, u, hv, hu, opposed.symm⟩
    · exact ⟨u, v, hu, hv, opposed⟩
  · rintro ⟨u, v, hu, hv, opposed⟩
    exact ⟨m, u, v, hu, hv, opposed⟩

/-- With the references as they are bound, the handler of the message that a
section is about locks the other mutex. -/
theorem wired_opposite (sec : UiSection) (k : HandlerKind) :
    usesData sec = k.exchangesData ↔ k.mutex = (sec.mutex wireNavDialog).other := by
  cases sec <;> cases k <;> simp [usesData, HandlerKind.exchangesData, HandlerKind.mutex,
    UiSection.mutex, wireNavDialog, constructNavDialog, getMapMutex, getMutex, Mutex.other]

omit [DecidableEq ι] in
theorem exclusive_iff_not_crossed (c : Consistent s.owner (holds wireNavDialog kind s)) :
    Exclusive kind s ↔ ¬Crossed s.owner := by
  rw [exclusive_iff]
  constructor
  · rintro exclusive ⟨m, u, v, hu, hv, opposed⟩
    -- one of the two owners is the dialog, and the other one a handler
    have clash : ∀ m i, s.owner m = some .ui → s.owner m.other = some (.handler i) → False := by
      intro m i hui hi
      have inside := (c m .ui).mp hui
      have locked := (c m.other (.handler i)).mp hi
      obtain ⟨sec, atSec, rfl⟩ := Option.map_eq_some_iff.mp inside
      simp only [holds, Option.ite_none_right_eq_some, Option.some.injEq] at locked
      have same := (wired_opposite sec (kind i)).mpr locked.2
      rw [exclusive sec i atSec same] at locked
      cases locked.1
    cases u with
    | ui =>
      cases v with
      | ui => exact opposed
      | handler i => exact clash m i hu hv
    | handler i =>
      cases v with
      | ui =>
        rw [← other_other m] at hu
        exact clash m.other i hv hu
      | handler j => exact opposed
  · intro notCrossed sec i atSec same
    by_contra locked
    rw [Bool.not_eq_false] at locked
    have ownsUi := (c (sec.mutex wireNavDialog) .ui).mpr (by simp [holds, atSec])
    have ownsHandler := (c (kind i).mutex (.handler i)).mpr (by simp [holds, locked])
    rw [(wired_opposite sec (kind i)).mp same] at ownsHandler
    exact notCrossed ⟨_, _, _, ownsUi, ownsHandler, trivial⟩

/-- When the action acquires a mutex, no opposed thread owns the other one. -/
def Unopposed (w : DialogMutexes) (kind : ι → HandlerKind) (s : State ι) (a : Action ι) : Prop :=
  ∀ u m v, acquires w kind a = some (u, m) → s.owner m.other = some v → ¬Opposed u v

/-- Only an acquisition can make the owners cross. -/
theorem step_crossed {a : Action ι} (h : step w kind s a = some t) (before : ¬Crossed s.owner) :
    ¬Crossed t.owner ↔ Unopposed w kind s a := by
  cases step_effect h with
  | quiet nothing owner held =>
    rw [owner]
    refine iff_of_true before ?_
    intro u m v acquired
    rw [nothing] at acquired
    cases acquired
  | release u m nothing inside owner held =>
    refine iff_of_true ?_ ?_
    · rw [crossed_iff m, owner]
      rintro ⟨u, v, hu, -, -⟩
      rw [Function.update_self] at hu
      cases hu
    · intro u m v acquired
      rw [nothing] at acquired
      cases acquired
  | acquire u m acquired free outside owner held =>
    have elsewhere : m.other ≠ m := by cases m <;> decide
    have now : Crossed t.owner ↔ ∃ v, s.owner m.other = some v ∧ Opposed u v := by
      rw [crossed_iff m, owner]
      simp [Function.update_of_ne elsewhere]
    rw [now]
    constructor
    · intro unopposed u' m' v acquired' owned opposed
      rw [acquired] at acquired'
      cases acquired'
      exact unopposed ⟨v, owned, opposed⟩
    · rintro unopposed ⟨v, owned, opposed⟩
      exact unopposed u m v acquired owned opposed

/-- The dialog and the handlers exclude each other in every state of a run
exactly when none of them acquires a mutex while the other side owns the other
mutex. -/
theorem mutual_exclusion_iff (kind : ι → HandlerKind) (actions : List (Action ι)) :
    Throughout
        (fun before => ∀ s, Reaches wireNavDialog kind before s → Exclusive kind s) actions ↔
      Along
        (fun before a => ∀ s t, Reaches wireNavDialog kind before s →
          step wireNavDialog kind s a = some t → Unopposed wireNavDialog kind s a) actions := by
  refine throughout_iff_along ?_ ?_ actions
  · intro s reached
    cases reached
    exact exclusive_iff.mpr fun sec i atSec => by cases atSec
  · intro before a throughout
    have soFar := throughout before [] (List.append_nil before).symm
    have exact_step : ∀ s t, Reaches wireNavDialog kind before s →
        step wireNavDialog kind s a = some t →
        (Exclusive kind t ↔ Unopposed wireNavDialog kind s a) := by
      intro s t reached h
      have c := reaches_consistent reached
      rw [exclusive_iff_not_crossed (step_consistent h c)]
      exact step_crossed h ((exclusive_iff_not_crossed c).mp (soFar s reached))
    constructor
    · intro exclusive s t reached h
      refine (exact_step s t reached h).mp (exclusive t ?_)
      rw [Reaches, run_concat, reached]
      exact h
    · intro unopposed t reached
      obtain ⟨s, earlier, h⟩ := run_lift_concat reached
      exact (exact_step s t earlier h).mpr (unopposed s t earlier h)

/-- From the call of a handler to its locked section. -/
def enterSection (k : HandlerKind) (i : ι) : List (Action ι) :=
  if k.exchangesData then [.call i, .lock i] else [.call i, .arrive i, .read i, .lock i]

theorem reaches_section (kind : ι → HandlerKind) (i : ι) :
    ∃ s, Reaches wireNavDialog kind (enterSection (kind i) i) s ∧ s.ui = none ∧
      (s.pc i).locked = true ∧ s.owner (kind i).mutex.other = none := by
  cases hk : kind i <;>
    simp [Reaches, enterSection, HandlerKind.exchangesData, run, lift, step, start, hk,
      HandlerKind.entry, HandlerKind.mutex, HandlerKind.afterLock, HandlerPc.locked, Mutex.other]

/-- While a handler is in its section the dialog can enter one on the same message. -/
theorem overlap_reachable (kind : ι → HandlerKind) (i : ι) :
    ∃ actions s, Reaches wireNavDialog kind actions s ∧ ¬Exclusive kind s := by
  obtain ⟨s, reached, outside, inside, free⟩ := reaches_section kind i
  obtain ⟨sec, same⟩ : ∃ sec, usesData sec = (kind i).exchangesData := by
    cases (kind i).exchangesData with
    | true => exact ⟨.followWaypoints, rfl⟩
    | false => exact ⟨.onMapUpdated, rfl⟩
  rw [(wired_opposite sec (kind i)).mp same, other_other] at free
  let entered : State ι := { s with
    owner := Function.update s.owner (sec.mutex wireNavDialog) (some .ui)
    ui := some sec }
  refine ⟨enterSection (kind i) i ++ [.uiLock sec], entered, ?_, ?_⟩
  · rw [Reaches, run_concat, reached]
    exact if_pos ⟨outside, free⟩
  · intro exclusive
    have unlocked := exclusive_iff.mp exclusive sec i rfl same
    rw [inside] at unlocked
    cases unlocked

/-- The exclusion is kept in all runs only where there is no handler to exclude. -/
theorem always_exclusive_iff (kind : ι → HandlerKind) :
    (∀ actions s, Reaches wireNavDialog kind actions s → Exclusive kind s) ↔ IsEmpty ι := by
  constructor
  · intro always
    refine ⟨fun i => ?_⟩
    obtain ⟨actions, s, reached, overlap⟩ := overlap_reachable kind i
    exact overlap (always actions s reached)
  · intro empty actions s reached
    exact exclusive_iff.mpr fun sec i => empty.elim i

end Steps

/-- A robot's `DataExchange` is in its locked section while the dialog builds a
command in the same `Controls`. -/
theorem builds_during_exchange :
    ¬∀ (kind : Unit → HandlerKind) (actions : List (Action Unit)) (s : State Unit),
      Reaches wireNavDialog kind actions s → Exclusive kind s := by
  intro claimed
  let kind : Unit → HandlerKind := fun _ => .dataExchange
  have exclusive := claimed kind [.call (), .lock (), .uiLock .followWaypoints] _ rfl
  have unlocked := exclusive.1 .followWaypoints () rfl rfl rfl
  cases unlocked

end MutexWiring
