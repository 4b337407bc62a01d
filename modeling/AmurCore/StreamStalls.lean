import AmurCore.MutexWiring

/-!
# Stalls between streams

`DataStreamExchange` calls `Read` while it holds `muServer`, so the robot behind
one stream decides how long the others wait. A stall is a handler with its
message at the lock while the owner of the mutex waits in `Read` without one.
The streams of the map read first and lock afterwards, and their mutex is never
held in `Read`.
-/

namespace StreamStalls

open EventRuns LockedSections ServerThreads MutexWiring

variable {ι : Type} {w : DialogMutexes} {kind : ι → HandlerKind} {s t : State ι}

/-- The handler waits for `muServer` with a message that has arrived: a unary
call has its message from the start. -/
def Waits (kind : ι → HandlerKind) (s : State ι) (i : ι) : Prop :=
  s.pc i = .locking ∧ (kind i = .dataExchange ∨ kind i = .dataStreamExchange ∧ 0 < s.arrived i)

/-- The handler holds `muServer` and waits in `Read` for a message that has not
arrived. -/
def HoldsInRead (s : State ι) (j : ι) : Prop :=
  s.owner .muServer = some (.handler j) ∧ s.pc j = .readingLocked ∧ s.arrived j = 0

def Stalled (kind : ι → HandlerKind) (s : State ι) : Prop :=
  ∃ i j, Waits kind s i ∧ HoldsInRead s j

/-- The condition on a step: a stream that takes the lock has a message or keeps
nobody waiting, and nobody starts to wait while a handler holds the lock in `Read`. -/
def Harmless (kind : ι → HandlerKind) (s : State ι) : Action ι → Prop
  | .lock j => kind j = .dataStreamExchange → s.arrived j = 0 → ∀ i, i ≠ j → ¬Waits kind s i
  | .call i =>
    kind i = .dataExchange ∨ kind i = .dataStreamExchange ∧ 0 < s.arrived i →
      ∀ j, ¬HoldsInRead s j
  | .arrive i => kind i = .dataStreamExchange → s.pc i = .locking → ∀ j, ¬HoldsInRead s j
  | .uiLock _ | .uiUnlock | .read _ | .close _ | .unlock _ => True

/-- The handler is at a place where its code has the `Read` that it is in. -/
def PcAsCoded (k : HandlerKind) (pc : HandlerPc) : Prop :=
  (pc = .reading → k.exchangesData = false) ∧ (pc = .readingLocked → k = .dataStreamExchange)

def ReadsAsCoded (kind : ι → HandlerKind) (s : State ι) : Prop :=
  ∀ i, PcAsCoded (kind i) (s.pc i)

theorem waits_congr {i : ι} (pc : t.pc i = s.pc i) (arrived : t.arrived i = s.arrived i) :
    Waits kind t i ↔ Waits kind s i := by
  rw [Waits, Waits, pc, arrived]

/-- Only the handler `j` has moved, and no other has acquired `muServer`. -/
structure Moved (s : State ι) (j : ι) (t : State ι) : Prop where
  pc : ∀ i, i ≠ j → t.pc i = s.pc i
  arrived : ∀ i, i ≠ j → t.arrived i = s.arrived i
  owner : ∀ k, k ≠ j → t.owner .muServer = some (.handler k) →
    s.owner .muServer = some (.handler k)

/-- A step that moves one handler stalls somebody exactly if that handler waits
for another one or keeps another one waiting. -/
theorem Moved.stalled_iff {j : ι} (moved : Moved s j t) (free : ¬Stalled kind s) :
    Stalled kind t ↔ (Waits kind t j ∧ ∃ k, k ≠ j ∧ HoldsInRead t k) ∨
      (HoldsInRead t j ∧ ∃ i, i ≠ j ∧ Waits kind s i) := by
  constructor
  · rintro ⟨i, k, waits, holds⟩
    by_cases hi : i = j
    · subst i
      refine .inl ⟨waits, k, ?_, holds⟩
      rintro rfl
      cases waits.1.symm.trans holds.2.1
    · have waited := (waits_congr (moved.pc i hi) (moved.arrived i hi)).mp waits
      by_cases hk : k = j
      · subst k
        exact .inr ⟨holds, i, hi, waited⟩
      · refine absurd ⟨i, k, waited, moved.owner k hk holds.1, ?_, ?_⟩ free
        · rw [← moved.pc k hk]
          exact holds.2.1
        · rw [← moved.arrived k hk]
          exact holds.2.2
  · rintro (⟨waits, k, -, holds⟩ | ⟨holds, i, hi, waited⟩)
    · exact ⟨j, k, waits, holds⟩
    · exact ⟨i, j, (waits_congr (moved.pc i hi) (moved.arrived i hi)).mpr waited, holds⟩

theorem entry_asCoded (k : HandlerKind) : PcAsCoded k k.entry := by
  cases k <;> simp [PcAsCoded, HandlerKind.entry, HandlerKind.exchangesData]

theorem afterLock_asCoded (k : HandlerKind) : PcAsCoded k k.afterLock := by
  cases k <;> simp [PcAsCoded, HandlerKind.afterLock, HandlerKind.exchangesData]

theorem afterUnlock_asCoded (k : HandlerKind) : PcAsCoded k k.afterUnlock := by
  cases k <;> simp [PcAsCoded, HandlerKind.afterUnlock, HandlerKind.exchangesData]

theorem afterLock_ne_locking (k : HandlerKind) : k.afterLock ≠ .locking := by
  cases k <;> exact fun h => nomatch h

theorem entry_ne_readingLocked (k : HandlerKind) : k.entry ≠ .readingLocked := by
  cases k <;> exact fun h => nomatch h

theorem afterUnlock_ne_readingLocked (k : HandlerKind) : k.afterUnlock ≠ .readingLocked := by
  cases k <;> exact fun h => nomatch h

/-- The handler neither waits with a message nor holds the lock in `Read`. -/
theorem Moved.not_stalled {j : ι} (moved : Moved s j t) (free : ¬Stalled kind s)
    (waits : ¬Waits kind t j) (holds : ¬HoldsInRead t j) : ¬Stalled kind t := by
  rw [moved.stalled_iff free]
  rintro (⟨waiting, -⟩ | ⟨holding, -⟩)
  · exact waits waiting
  · exact holds holding

/-- The handler has gone where it neither locks nor reads with the lock. -/
theorem Moved.settled {j : ι} (moved : Moved s j t) (free : ¬Stalled kind s)
    (locking : t.pc j ≠ .locking) (reading : t.pc j ≠ .readingLocked) : ¬Stalled kind t :=
  moved.not_stalled free (fun waits => locking waits.1) fun holds => reading holds.2.1

/-- A dialog section locks or unlocks, and no handler holds more than before. -/
theorem ui_not_stalled {owner : Mutex → Option (Thread ι)} {ui : Option UiSection}
    (free : ¬Stalled kind s)
    (kept : ∀ k, owner .muServer = some (.handler k) → s.owner .muServer = some (.handler k)) :
    ¬Stalled kind { s with owner := owner, ui := ui } := by
  rintro ⟨i, j, waits, holds⟩
  exact free ⟨i, j, waits, kept j holds.1, holds.2⟩

/-- Nobody owns a mutex who owned another one before. -/
theorem owner_update {owner : Mutex → Option (Thread ι)} {m : Mutex} {u : Option (Thread ι)}
    {k : ι} (other : u ≠ some (.handler k))
    (owned : Function.update owner m u .muServer = some (.handler k)) :
    owner .muServer = some (.handler k) := by
  by_cases server : Mutex.muServer = m
  · rw [← server, Function.update_self] at owned
    exact absurd owned other
  · rwa [Function.update_of_ne server] at owned

variable [DecidableEq ι]

theorem moved_pc (s : State ι) (j : ι) (pc : HandlerPc) :
    Moved s j { s with pc := Function.update s.pc j pc } :=
  ⟨fun _ ne => Function.update_of_ne ne _ _, fun _ _ => rfl, fun _ _ owned => owned⟩

theorem moved_arrived (s : State ι) (j : ι) (pc : HandlerPc) (n : Nat) :
    Moved s j { s with
      pc := Function.update s.pc j pc
      arrived := Function.update s.arrived j n } :=
  ⟨fun _ ne => Function.update_of_ne ne _ _, fun _ ne => Function.update_of_ne ne _ _,
    fun _ _ owned => owned⟩

theorem moved_owner (s : State ι) (j : ι) (m : Mutex) (pc : HandlerPc) {u : Option (Thread ι)}
    (own : ∀ k, k ≠ j → u ≠ some (.handler k)) :
    Moved s j { s with
      owner := Function.update s.owner m u
      pc := Function.update s.pc j pc } :=
  ⟨fun _ ne => Function.update_of_ne ne _ _, fun _ _ => rfl,
    fun k ne owned => owner_update (own k ne) owned⟩

theorem call_stalled {i : ι} (free : ¬Stalled kind s) (idle : s.pc i = .idle) :
    ¬Stalled kind { s with pc := Function.update s.pc i (kind i).entry } ↔
      Harmless kind s (.call i) := by
  rw [(moved_pc s i _).stalled_iff free]
  constructor
  · intro quiet ready j holds
    have ne : j ≠ i := by
      rintro rfl
      cases idle.symm.trans holds.2.1
    refine quiet (.inl ⟨⟨?_, ready⟩, j, ne, holds.1, ?_, holds.2.2⟩)
    · rcases ready with exchange | ⟨exchange, -⟩ <;> simp [exchange, HandlerKind.entry]
    · exact (Function.update_of_ne ne _ _).trans holds.2.1
  · rintro harmless (⟨⟨-, ready⟩, k, ne, owned, reading, none⟩ | ⟨⟨-, reading, -⟩, -⟩)
    · exact harmless ready k ⟨owned, (Function.update_of_ne ne _ _).symm.trans reading, none⟩
    · exact entry_ne_readingLocked _ ((Function.update_self ..).symm.trans reading)

theorem arrive_stalled {i : ι} (free : ¬Stalled kind s) :
    ¬Stalled kind { s with arrived := Function.update s.arrived i (s.arrived i + 1) } ↔
      Harmless kind s (.arrive i) := by
  have moved : Moved s i { s with arrived := Function.update s.arrived i (s.arrived i + 1) } :=
    ⟨fun _ _ => rfl, fun _ ne => Function.update_of_ne ne _ _, fun _ _ owned => owned⟩
  rw [moved.stalled_iff free]
  constructor
  · intro quiet stream locking j holds
    have ne : j ≠ i := by
      rintro rfl
      cases locking.symm.trans holds.2.1
    exact quiet (.inl ⟨⟨locking, .inr ⟨stream, by simp⟩⟩, j, ne, holds.1, holds.2.1,
      (Function.update_of_ne ne _ _).trans holds.2.2⟩)
  · rintro harmless (⟨⟨locking, ready⟩, k, ne, owned, reading, none⟩ | ⟨⟨-, -, none⟩, -⟩)
    · have holds : HoldsInRead s k :=
        ⟨owned, reading, (Function.update_of_ne ne _ _).symm.trans none⟩
      rcases ready with exchange | ⟨stream, -⟩
      · exact free ⟨i, k, ⟨locking, .inl exchange⟩, holds⟩
      · exact harmless stream locking k holds
    · simp at none

theorem lock_stalled {j : ι} (free : ¬Stalled kind s) :
    ¬Stalled kind { s with
        owner := Function.update s.owner (kind j).mutex (some (.handler j))
        pc := Function.update s.pc j (kind j).afterLock } ↔
      Harmless kind s (.lock j) := by
  have own (k : ι) (ne : k ≠ j) : some (Thread.handler j) ≠ some (.handler k) :=
    fun same => ne (Thread.handler.inj (Option.some.inj same)).symm
  rw [(moved_owner s j _ _ own).stalled_iff free]
  constructor
  · intro quiet stream none i ne waits
    exact quiet (.inr ⟨⟨by simp [stream, HandlerKind.mutex],
      by simp [stream, HandlerKind.afterLock], none⟩, i, ne, waits⟩)
  · rintro harmless (⟨⟨locking, -⟩, -⟩ | ⟨⟨-, reading, none⟩, i, ne, waits⟩)
    · exact afterLock_ne_locking _ ((Function.update_self ..).symm.trans locking)
    · have stream := (afterLock_asCoded (kind j)).2 ((Function.update_self ..).symm.trans reading)
      exact harmless stream none i ne waits

/-- Whoever locks `muServer` again after its section has left it free. -/
theorem unlock_stalled {j : ι} (free : ¬Stalled kind s) :
    ¬Stalled kind { s with
        owner := Function.update s.owner (kind j).mutex none
        pc := Function.update s.pc j (kind j).afterUnlock } := by
  rw [(moved_owner s j _ _ fun k _ other => by cases other).stalled_iff free]
  rintro (⟨⟨-, ready⟩, k, -, owned, -⟩ | ⟨⟨-, reading, -⟩, -⟩)
  · have server : (kind j).mutex = .muServer := by
      rcases ready with exchange | ⟨exchange, -⟩ <;> rw [exchange] <;> rfl
    simp [server] at owned
  · exact afterUnlock_ne_readingLocked _ ((Function.update_self ..).symm.trans reading)

theorem step_stalled {a : Action ι} (h : step w kind s a = some t) (c : ReadsAsCoded kind s)
    (free : ¬Stalled kind s) : ¬Stalled kind t ↔ Harmless kind s a := by
  cases step_stepped h with
  | uiLock sec outside unowned =>
    exact iff_of_true (ui_not_stalled free fun k => owner_update fun ui => nomatch ui) trivial
  | uiUnlock sec inside =>
    exact iff_of_true (ui_not_stalled free fun k => owner_update fun ui => nomatch ui) trivial
  | call i idle => exact call_stalled free idle
  | arrive i => exact arrive_stalled free
  | lock j locking unowned => exact lock_stalled free
  | read i reading =>
    refine iff_of_true ((moved_arrived s i _ _).not_stalled free ?_ ?_) trivial
    · have map := (c i).1 reading
      rintro ⟨-, exchange | ⟨exchange, -⟩⟩ <;> rw [exchange] at map <;> cases map
    · rintro ⟨-, holding, -⟩
      simp at holding
  | readLocked i reading =>
    exact iff_of_true ((moved_arrived s i _ _).settled free (by simp) (by simp)) trivial
  | close i reading =>
    exact iff_of_true ((moved_pc s i _).settled free (by simp) (by simp)) trivial
  | closeLocked i reading =>
    have own : ∀ k, k ≠ i → (none : Option (Thread ι)) ≠ some (.handler k) :=
      fun k _ other => nomatch other
    have moved := moved_owner s i (kind i).mutex .idle own
    exact iff_of_true (moved.settled free (by simp) (by simp)) trivial
  | unlock i inside => exact iff_of_true (unlock_stalled free) trivial

theorem step_readsAsCoded {a : Action ι} (h : step w kind s a = some t)
    (c : ReadsAsCoded kind s) : ReadsAsCoded kind t := by
  have moves (i : ι) (pc : HandlerPc) (fits : PcAsCoded (kind i) pc) :
      ∀ k, PcAsCoded (kind k) (Function.update s.pc i pc k) := by
    intro k
    by_cases hk : k = i
    · subst k
      rw [Function.update_self]
      exact fits
    · rw [Function.update_of_ne hk]
      exact c k
  have plain {k : HandlerKind} {pc : HandlerPc} (reading : pc ≠ .reading)
      (locked : pc ≠ .readingLocked) : PcAsCoded k pc :=
    ⟨fun same => absurd same reading, fun same => absurd same locked⟩
  cases step_stepped h with
  | uiLock sec outside free => exact c
  | uiUnlock sec inside => exact c
  | call i idle => exact moves i _ (entry_asCoded _)
  | arrive i => exact c
  | lock i locking free => exact moves i _ (afterLock_asCoded _)
  | read i reading => exact moves i _ (plain (by simp) (by simp))
  | readLocked i reading => exact moves i _ (plain (by simp) (by simp))
  | close i reading => exact moves i _ (plain (by simp) (by simp))
  | closeLocked i reading => exact moves i _ (plain (by simp) (by simp))
  | unlock i inside => exact moves i _ (afterUnlock_asCoded _)

theorem reaches_readsAsCoded {actions : List (Action ι)} (reached : Reaches w kind actions s) :
    ReadsAsCoded kind s := by
  have kept : ∀ s a t, step w kind s a = some t → ReadsAsCoded kind s → ReadsAsCoded kind t :=
    fun s a t h c => step_readsAsCoded h c
  refine run_lift_invariant kept ?_ reached
  exact fun i => ⟨fun reading => (nomatch reading), fun reading => (nomatch reading)⟩

/-- No handler is stalled in any state of a run exactly when no step of it lets
one wait for a stream that holds the lock in `Read`. -/
theorem stall_free_iff (w : DialogMutexes) (kind : ι → HandlerKind) (actions : List (Action ι)) :
    Throughout (fun before => ∀ s, Reaches w kind before s → ¬Stalled kind s) actions ↔
      Along (fun before a => ∀ s t, Reaches w kind before s → step w kind s a = some t →
        Harmless kind s a) actions := by
  refine throughout_iff_along ?_ ?_ actions
  · rintro s reached ⟨i, j, ⟨locking, -⟩, -⟩
    cases reached
    cases locking
  · intro before a throughout
    have soFar := throughout before [] (List.append_nil before).symm
    constructor
    · intro free s t reached h
      refine (step_stalled h (reaches_readsAsCoded reached) (soFar s reached)).mp (free t ?_)
      rw [Reaches, run_concat, reached]
      exact h
    · intro harmless t reached
      obtain ⟨s, earlier, h⟩ := run_lift_concat reached
      exact (step_stalled h (reaches_readsAsCoded earlier) (soFar s earlier)).mpr
        (harmless s t earlier h)

/-! ### Which handlers can stall -/

/-- The stream `j` is alone and waits in its first `Read`. -/
def firstRead (j : ι) : State ι :=
  { start with
    owner := Function.update start.owner .muServer (some (.handler j))
    pc := Function.update start.pc j .readingLocked }

theorem reaches_firstRead (w : DialogMutexes) {j : ι} (stream : kind j = .dataStreamExchange) :
    Reaches w kind [.call j, .lock j] (firstRead j) := by
  simp [Reaches, run, lift, step, start, firstRead, stream, HandlerKind.entry,
    HandlerKind.mutex, HandlerKind.afterLock]

theorem stall_reachable (w : DialogMutexes) {i j : ι} (ne : i ≠ j)
    (stream : kind j = .dataStreamExchange) (exchanges : (kind i).exchangesData = true) :
    ∃ actions s, Reaches w kind actions s ∧ Stalled kind s := by
  have reached := reaches_firstRead w stream
  have idle : (firstRead j).pc i = .idle := Function.update_of_ne ne _ _
  have locking : (kind i).entry = .locking := by
    cases hk : kind i <;> rw [hk] at exchanges <;> first | rfl | cases exchanges
  -- the message of a stream that is called now arrives before the lock is free
  let called : State ι := { firstRead j with
    pc := Function.update (firstRead j).pc i .locking
    arrived := Function.update (firstRead j).arrived i 1 }
  refine ⟨[.call j, .lock j, .call i, .arrive i], called, ?_, i, j, ⟨?_, ?_⟩, ?_, ?_, ?_⟩
  · have call : step w kind (firstRead j) (.call i) = some { firstRead j with
        pc := Function.update (firstRead j).pc i .locking } := by
      rw [step, if_pos idle, locking]
    change run (lift (step w kind)) (some start) ([.call j, .lock j] ++ [.call i, .arrive i]) = _
    rw [run_append, reached]
    change lift (step w kind) (step w kind (firstRead j) (.call i)) (.arrive i) = _
    rw [call]
    rfl
  · simp [called, firstRead]
  · cases hk : kind i with
    | dataExchange => exact .inl rfl
    | dataStreamExchange => exact .inr ⟨rfl, by simp [called]⟩
    | mapStream | poseStream | zoneStream => rw [hk] at exchanges; cases exchanges
  · simp [called, firstRead]
  · simp [called, firstRead, Function.update_of_ne ne.symm]
  · exact Function.update_of_ne ne.symm _ _

/-- Some run stalls a handler exactly if there is a data stream beside another
handler that exchanges data. -/
theorem never_stalls_iff (w : DialogMutexes) (kind : ι → HandlerKind) :
    (∀ actions s, Reaches w kind actions s → ¬Stalled kind s) ↔
      ∀ i j, i ≠ j → kind j = .dataStreamExchange → (kind i).exchangesData = false := by
  constructor
  · intro never i j ne stream
    by_contra exchanges
    rw [Bool.not_eq_false] at exchanges
    obtain ⟨actions, s, reached, stalled⟩ := stall_reachable w ne stream exchanges
    exact never actions s reached stalled
  · rintro alone actions s reached ⟨i, j, waits, holds⟩
    have stream := (reaches_readsAsCoded reached j).2 holds.2.1
    have ne : i ≠ j := by
      rintro rfl
      cases waits.1.symm.trans holds.2.1
    have other := alone i j ne stream
    rcases waits.2 with exchange | ⟨exchange, -⟩ <;> rw [exchange] at other <;> cases other

/-- The mutex of the map is never held in `Read`. -/
theorem map_holder_inside {actions : List (Action ι)} (reached : Reaches w kind actions s)
    {j : ι} (owned : s.owner .muMap = some (.handler j)) : s.pc j = .inside := by
  have held : holds w kind s (.handler j) = some .muMap :=
    (reaches_consistent reached .muMap (.handler j)).mp owned
  have asCoded := reaches_readsAsCoded reached j
  cases pc : s.pc j with
  | inside => rfl
  | readingLocked => simp [holds, pc, HandlerPc.locked, asCoded.2 pc, HandlerKind.mutex] at held
  | idle => simp [holds, pc, HandlerPc.locked] at held
  | reading => simp [holds, pc, HandlerPc.locked] at held
  | locking => simp [holds, pc, HandlerPc.locked] at held

/-- Two robots: the first has not sent anything, the message of the second has
arrived. -/
theorem silent_robot_stalls :
    ¬∀ (kind : Bool → HandlerKind) (actions : List (Action Bool)) (s : State Bool),
      Reaches wireNavDialog kind actions s → ¬Stalled kind s := by
  intro claimed
  refine claimed (fun _ => .dataStreamExchange) [.call false, .lock false, .call true, .arrive true]
    _ rfl ⟨true, false, ⟨rfl, .inr ⟨rfl, ?_⟩⟩, rfl, rfl, rfl⟩
  decide

end StreamStalls
