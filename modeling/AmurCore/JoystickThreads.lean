import AmurCore.JoystickAdapter

/-!
# Threads that share the events of SDL

Every event is taken by one thread, in the order in which events were pushed, and
a thread emits only events whose instance id is the player index of its joystick: the
others that it takes are lost. A quit stops the thread that takes it, whoever pushed it,
so a call of `close` can be left waiting for a thread that runs on.
-/

namespace JoystickThreads

open EventRuns JoystickAdapter

variable {s t : System} {e : Event} {events : List Event}

/-! ### The queue -/

/-- A step takes from the front of the queue and pushes at its end. -/
theorem step_queue (h : step s e = some t) :
    (access s e).filterMap Access.takenMessage ++ t.queue
      = s.queue ++ (access s e).filterMap Access.pushedMessage := by
  have pushes : ∀ messages : List Message,
      (messages.map Access.pushed).filterMap Access.takenMessage = [] ∧
        (messages.map Access.pushed).filterMap Access.pushedMessage = messages := by
    intro messages
    rw [List.filterMap_map, List.filterMap_map]
    exact ⟨List.filterMap_eq_nil_iff.mpr fun _ _ => rfl, List.filterMap_some⟩
  have changed : ∀ {k f pushed}, s.change k f pushed = some t → t.queue = s.queue ++ pushed := by
    intro k f pushed change
    obtain ⟨adapter, -, result⟩ := Option.map_eq_some_iff.mp change
    rw [← result]
  cases e with
  | construct =>
    cases h
    exact (List.append_nil _).symm
  | openJoystick k attached joystick => exact changed h
  | close k queued =>
    have accessed : access s (.close k queued) = (pushedBy s (.close k queued)).map .pushed := rfl
    rw [accessed, (pushes _).1, (pushes _).2]
    exact changed h
  | closed k => exact changed h
  | take k =>
    simp only [step] at h
    split at h
    · rename_i message queue adapter waiting found
      split at h
      · cases h
        simp only [access, waiting, found]
        exact (List.append_nil _).symm
      · cases h
    · cases h
  | post message =>
    cases h
    rfl

/-- The events taken by the threads, then those left in the queue, are those that
were pushed. -/
theorem queue_order (reached : Reaches events s) :
    (accesses events).filterMap Access.takenMessage ++ s.queue
      = (accesses events).filterMap Access.pushedMessage := by
  have kept : ∀ (seen : List Access) (s : System) (e : Event) (t : System), step s e = some t →
      seen.filterMap Access.takenMessage ++ s.queue = seen.filterMap Access.pushedMessage →
        (seen ++ access s e).filterMap Access.takenMessage ++ t.queue
          = (seen ++ access s e).filterMap Access.pushedMessage := by
    intro seen s e t h before
    rw [List.filterMap_append, List.filterMap_append, List.append_assoc, step_queue h,
      ← List.append_assoc, before]
  exact trace_lift_invariant kept rfl reached

/-! ### The signals of one joystick -/

/-- What an event asks a joystick's adapter to emit. -/
def input (which : Int) : Message → Option Signal
  | .joystick which' signal => if which' = which then some signal else none
  | _ => none

theorem emitted_eq_input (message : Message) (which : Int) :
    emitted message which = input which message := by
  cases message <;> rfl

/-- A filter that misses nothing agrees with the one it is part of. -/
theorem filterMap_eq_iff_of_part {α β : Type} {f g : α → Option β} {l : List α}
    (part : ∀ a, f a = none ∨ f a = g a) :
    l.filterMap f = l.filterMap g ↔ ∀ a ∈ l, f a = g a := by
  have fewer : ∀ l : List α, (l.filterMap f).length ≤ (l.filterMap g).length := by
    intro l
    induction l with
    | nil => exact Nat.le_refl 0
    | cons a l ih =>
      rcases part a with missed | same
      · rw [List.filterMap_cons_none missed]
        refine Nat.le_trans ih ?_
        rw [List.filterMap_cons]
        split
        · exact Nat.le_refl _
        · exact Nat.le_succ _
      · rw [List.filterMap_cons, List.filterMap_cons, same]
        split
        · exact ih
        · exact Nat.succ_le_succ ih
  constructor
  · intro equal
    induction l with
    | nil => exact fun a mem => absurd mem List.not_mem_nil
    | cons a l ih =>
      have here : f a = g a := by
        rcases part a with missed | same
        · rw [List.filterMap_cons_none missed] at equal
          cases found : g a with
          | none => exact missed
          | some b =>
            rw [List.filterMap_cons_some found] at equal
            have lengths := congrArg List.length equal
            have := fewer l
            rw [List.length_cons] at lengths
            omega
        · exact same
      intro b mem
      rcases List.mem_cons.mp mem with rfl | mem
      · exact here
      · refine ih ?_ b mem
        rw [List.filterMap_cons, List.filterMap_cons, here] at equal
        split at equal
        · exact equal
        · exact (List.cons.inj equal).2
  · exact List.filterMap_congr

theorem signal_taken (which id : Int) (k : Nat) (message : Message) :
    Access.signal which (.taken k id message)
      = if id = which then input which message else none := by
  rw [Access.signal]
  split
  · rename_i same
    rw [same, emitted_eq_input]
  · rfl

/-- What a joystick reports is emitted, in order, or still in the queue, exactly
when it was taken only by threads of adapters whose player index is its instance id. -/
theorem joystick_inputs_kept_iff (reached : Reaches events s) (which : Int) :
    (accesses events).filterMap (Access.signal which) ++ s.queue.filterMap (input which)
        = ((accesses events).filterMap Access.pushedMessage).filterMap (input which) ↔
      ∀ k id signal, .taken k id (.joystick which signal) ∈ accesses events → id = which := by
  rw [← queue_order reached, List.filterMap_append, List.append_cancel_right_eq,
    List.filterMap_filterMap]
  have part : ∀ a : Access, Access.signal which a = none ∨
      Access.signal which a = a.takenMessage.bind (input which) := by
    intro a
    cases a with
    | pushed message => exact Or.inl rfl
    | taken k id message =>
      rw [signal_taken]
      split
      · exact Or.inr rfl
      · exact Or.inl rfl
  rw [filterMap_eq_iff_of_part part]
  constructor
  · intro same k id signal mem
    have here := same _ mem
    rw [signal_taken] at here
    by_contra other
    rw [if_neg other] at here
    simp [Access.takenMessage, input] at here
  · intro own a mem
    cases a with
    | pushed message => rfl
    | taken k id message =>
      rw [signal_taken]
      split
      · rfl
      · rename_i other
        cases message with
        | quit => rfl
        | other => rfl
        | joystick which' signal =>
          have differ : which' ≠ which := by
            rintro rfl
            exact other (own k id signal mem)
          exact (if_neg differ).symm

/-- Two joysticks are open, and the thread of each takes what the other reports. -/
def twoJoysticks : List Event :=
  [.construct, .construct, .openJoystick 0 false (some 0), .openJoystick 1 false (some 1),
    .post (.joystick 0 (.axisChanged 0 5)), .take 1]

theorem other_thread_takes : ∃ s, Reaches twoJoysticks s ∧
    ¬(accesses twoJoysticks).filterMap (Access.signal 0) ++ s.queue.filterMap (input 0)
      = ((accesses twoJoysticks).filterMap Access.pushedMessage).filterMap (input 0) := by
  have reached : Reaches twoJoysticks _ := rfl
  refine ⟨_, reached, ?_⟩
  intro kept
  have own := (joystick_inputs_kept_iff reached 0).mp kept
  have equal : (1 : Int) = 0 := own 1 1 (.axisChanged 0 5) (List.mem_of_getLast? rfl)
  exact absurd equal (by decide)

/-! ### Quits and the threads they stop -/

/-- A call of `close` waits for a thread that is running. -/
def blocked (adapter : Adapter) : Bool := adapter.closing && adapter.running

/-- The joystick is open, but its thread has been stopped. -/
def deaf (adapter : Adapter) : Bool :=
  adapter.joystick.isSome && (!adapter.running && !adapter.closing)

/-- The thread runs on without a joystick. -/
def orphaned (adapter : Adapter) : Bool := adapter.joystick.isNone && adapter.running

/-- Only an adapter with a joystick is waited for. -/
def Sound (adapter : Adapter) : Prop := adapter.joystick = none → adapter.closing = false

/-- What comes between the calls of `close` and the quits. -/
inductive Stray where
  /-- SDL has reported a quit of its own. -/
  | reported
  /-- SDL has refused the quit of a `close`. -/
  | refused
  /-- A quit has stopped a thread, and its adapter has no joystick, or is given another. -/
  | forgotten
  /-- A joystick is opened while one is open, which the assertion of `open` forbids. -/
  | unasserted
  deriving DecidableEq

def openStrays (attached : Bool) (adapter : Adapter) : List Stray :=
  if adapter.joystick.isSome then
    .unasserted :: if deaf adapter && !attached then [.forgotten] else []
  else []

def closeStrays (queued : Bool) (adapter : Adapter) : List Stray :=
  if adapter.joystick.isSome && !queued then [.refused] else []

def takeStrays (message : Message) (adapter : Adapter) : List Stray :=
  if message = .quit ∧ adapter.joystick = none then [.forgotten] else []

def strays (s : System) : Event → List Stray
  | .post .quit => [.reported]
  | .openJoystick k attached _ => s.adapters[k]?.elim [] (openStrays attached)
  | .close k queued => s.adapters[k]?.elim [] (closeStrays queued)
  | .take k =>
    match s.queue, s.adapters[k]? with
    | message :: _, some adapter => takeStrays message adapter
    | _, _ => []
  | _ => []

/-- Every quit pushed for a `close` that still waits is in the queue, or has stopped the
thread of an adapter that nobody closes. Threads without a joystick come from openings
that the assertion forbids. -/
structure Balanced (seen : List Stray) (s : System) : Prop where
  sound : ∀ adapter ∈ s.adapters, Sound adapter
  quits : s.adapters.countP blocked + seen.count .reported
    = s.queue.count .quit + s.adapters.countP deaf + seen.count .refused + seen.count .forgotten
  orphans : s.adapters.countP orphaned + seen.count .forgotten ≤ seen.count .unasserted

/-- One adapter becomes another, as quits are pushed and taken. -/
structure Moves (adapter adapter' : Adapter) (pushed taken : List Message) (more : List Stray) :
    Prop where
  sound : Sound adapter'
  quits : (if blocked adapter' then 1 else 0) + (if deaf adapter then 1 else 0)
      + taken.count .quit + more.count .reported
    = (if blocked adapter then 1 else 0) + (if deaf adapter' then 1 else 0)
      + pushed.count .quit + more.count .refused + more.count .forgotten
  orphans : (if orphaned adapter' then 1 else 0) + more.count .forgotten
    ≤ (if orphaned adapter then 1 else 0) + more.count .unasserted

theorem countP_put {p : Adapter → Bool} {k : Nat} {adapter : Adapter} (adapter' : Adapter)
    (found : s.adapters[k]? = some adapter) :
    (s.put k adapter').adapters.countP p + (if p adapter then 1 else 0)
      = s.adapters.countP p + if p adapter' then 1 else 0 := by
  obtain ⟨bound, here⟩ := List.getElem?_eq_some_iff.mp found
  have counted : (if p adapter then 1 else 0) ≤ s.adapters.countP p := by
    have one := List.boole_getElem_le_countP (p := p) bound
    rw [here] at one
    exact one
  rw [System.put, List.countP_set bound, here]
  omega

theorem sound_put {k : Nat} {adapter : Adapter} (sound : ∀ a ∈ s.adapters, Sound a)
    (new : Sound adapter) : ∀ a ∈ (s.put k adapter).adapters, Sound a := by
  intro a mem
  rcases List.mem_or_eq_of_mem_set mem with mem | rfl
  · exact sound a mem
  · exact new

/-- A change of one adapter and of the queue moves quits between the two. -/
theorem Balanced.put {seen more : List Stray} {k : Nat} {adapter adapter' : Adapter}
    {taken pushed queue : List Message} (balanced : Balanced seen s)
    (found : s.adapters[k]? = some adapter) (moves : Moves adapter adapter' pushed taken more)
    (front : taken ++ queue = s.queue ++ pushed) :
    Balanced (seen ++ more) { s.put k adapter' with queue := queue } := by
  have at_blocked := countP_put (p := blocked) adapter' found
  have at_deaf := countP_put (p := deaf) adapter' found
  have at_orphaned := countP_put (p := orphaned) adapter' found
  have before := balanced.quits
  have orphans := balanced.orphans
  have moved := moves.quits
  have kept := moves.orphans
  have quits := congrArg (List.count Message.quit) front
  rw [List.count_append, List.count_append] at quits
  refine ⟨sound_put balanced.sound moves.sound, ?_, ?_⟩
  · simp only [List.count_append]
    omega
  · simp only [List.count_append]
    omega

theorem Balanced.change {seen more : List Stray} {k : Nat} {f : Adapter → Option Adapter}
    {pushed : List Message} (balanced : Balanced seen s) (h : s.change k f pushed = some t)
    (moves : ∀ adapter adapter', s.adapters[k]? = some adapter → f adapter = some adapter' →
      Sound adapter → Moves adapter adapter' pushed [] more) :
    Balanced (seen ++ more) t := by
  obtain ⟨adapter', changed, result⟩ := Option.map_eq_some_iff.mp h
  obtain ⟨adapter, found, taken⟩ := Option.bind_eq_some_iff.mp changed
  have listed : adapter ∈ s.adapters := List.mem_of_getElem? found
  rw [← result]
  exact balanced.put found (moves adapter adapter' found taken (balanced.sound adapter listed)) rfl

theorem openJoystick_cases {attached : Bool} {joystick : Option Int} {adapter adapter' : Adapter}
    (h : openJoystick attached joystick adapter = some adapter') : adapter.closing = false ∧
      (adapter' = adapter ∧ adapter.joystick.isSome = true ∧ attached = true ∨
        adapter' = { adapter with
          joystick := joystick, running := joystick.isSome || adapter.running } ∧
          (adapter.joystick.isSome && attached) = false) := by
  unfold openJoystick at h
  split at h
  · cases h
  · rename_i free
    refine ⟨Bool.eq_false_iff.mpr free, ?_⟩
    split at h
    · rename_i there
      rw [Bool.and_eq_true] at there
      cases h
      exact Or.inl ⟨rfl, there⟩
    · rename_i replaced
      cases joystick <;> cases h <;> exact Or.inr ⟨rfl, Bool.eq_false_iff.mpr replaced⟩

/-- A joystick that is replaced leaves neither a `close` that waits nor a stopped thread. -/
theorem openJoystick_moves {attached : Bool} {joystick : Option Int} {adapter adapter' : Adapter}
    (h : openJoystick attached joystick adapter = some adapter') :
    Moves adapter adapter' [] [] (openStrays attached adapter) := by
  obtain ⟨present, running, closing⟩ := adapter
  obtain ⟨free, ⟨rfl, there, rfl⟩ | ⟨rfl, replaced⟩⟩ := openJoystick_cases h
  · have idle : closing = false := free
    have some_open : present.isSome = true := there
    subst idle
    exact ⟨fun _ => rfl, by simp [openStrays, some_open], by simp [openStrays, some_open]⟩
  · have idle : closing = false := free
    have detached : (present.isSome && attached) = false := replaced
    subst idle
    refine ⟨fun _ => rfl, ?_, ?_⟩ <;> cases present <;> cases running <;> cases joystick <;>
      simp_all [openStrays, blocked, deaf, orphaned]

theorem close_moves {queued : Bool} {adapter adapter' : Adapter}
    (h : close adapter = some adapter') :
    Moves adapter adapter' (closeEvents queued adapter) [] (closeStrays queued adapter) := by
  rw [close] at h
  split at h
  · cases h
  · rename_i free
    cases h
    obtain ⟨present, running, closing⟩ := adapter
    have open_ : closing = false := Bool.eq_false_iff.mpr free
    subst open_
    refine ⟨fun absent => ?_, ?_, ?_⟩
    · show present.isSome = false
      rw [show present = none from absent]
      rfl
    · cases present <;> cases running <;> cases queued <;>
        simp [closeEvents, closeStrays, blocked, deaf]
    · cases present <;> cases running <;> cases queued <;> simp [closeStrays, orphaned]

theorem closed_moves {adapter adapter' : Adapter} (h : closed adapter = some adapter') :
    Moves adapter adapter' [] [] [] := by
  rw [closed] at h
  split at h
  · rename_i stopped
    rw [Bool.and_eq_true, Bool.not_eq_true'] at stopped
    cases h
    refine ⟨fun _ => rfl, ?_, Nat.zero_le _⟩
    simp [blocked, deaf, stopped.1, stopped.2, Adapter.constructed]
  · cases h

/-- The thread that takes a quit was waited for, or is one that nobody closes. -/
theorem runThread_moves (message : Message) {adapter : Adapter} (running : adapter.running = true)
    (sound : Sound adapter) :
    Moves adapter (runThread message adapter) [] [message] (takeStrays message adapter) := by
  obtain ⟨present, _, closing⟩ := adapter
  cases running
  cases message with
  | quit =>
    cases present with
    | none =>
      have free : closing = false := sound rfl
      subst free
      exact ⟨fun _ => rfl, rfl, Nat.le_refl 1⟩
    | some index =>
      refine ⟨fun absent => ?_, ?_, ?_⟩
      · cases absent
      · cases closing <;> rfl
      · exact Nat.le_refl 0
  | joystick which signal => exact ⟨sound, rfl, Nat.le_refl _⟩
  | other => exact ⟨sound, rfl, Nat.le_refl _⟩

theorem step_balanced {seen : List Stray} (h : step s e = some t) (balanced : Balanced seen s) :
    Balanced (seen ++ strays s e) t := by
  cases e with
  | construct =>
    cases h
    have none_stray : strays s .construct = [] := rfl
    rw [none_stray, List.append_nil]
    refine ⟨?_, ?_, ?_⟩
    · intro adapter mem
      rcases List.mem_append.mp mem with mem | mem
      · exact balanced.sound adapter mem
      · rw [List.mem_singleton.mp mem]
        exact fun _ => rfl
    · have same := balanced.quits
      have new_blocked : [Adapter.constructed].countP blocked = 0 := rfl
      have new_deaf : [Adapter.constructed].countP deaf = 0 := rfl
      simp only [List.countP_append, new_blocked, new_deaf]
      exact same
    · have same := balanced.orphans
      have new_orphaned : [Adapter.constructed].countP orphaned = 0 := rfl
      simp only [List.countP_append, new_orphaned]
      exact same
  | openJoystick k attached joystick =>
    refine balanced.change h fun adapter adapter' found taken _ => ?_
    rw [strays, found]
    exact openJoystick_moves taken
  | close k queued =>
    refine balanced.change h fun adapter adapter' found taken _ => ?_
    rw [strays, pushedBy, found]
    exact close_moves taken
  | closed k => exact balanced.change h fun adapter adapter' _ taken _ => closed_moves taken
  | take k =>
    simp only [step] at h
    split at h
    · rename_i message queue adapter waiting found
      split at h
      · rename_i running
        cases h
        have sound := balanced.sound adapter (List.mem_of_getElem? found)
        have stray : strays s (.take k) = takeStrays message adapter := by
          simp only [strays, waiting, found]
        rw [stray]
        refine balanced.put found (runThread_moves message running sound) ?_
        rw [waiting, List.append_nil]
        rfl
      · cases h
    · cases h
  | post message =>
    cases h
    have same := balanced.quits
    have orphans := balanced.orphans
    refine ⟨balanced.sound, ?_, ?_⟩
    · cases message <;> simp [strays, List.count_append] <;> omega
    · cases message <;> simp [strays, List.count_append] <;> omega

/-- In every state, the calls of `close` that wait for a running thread are as many
as the quits in the queue and the threads stopped though nobody closes them, up to
quits that SDL reported itself or refused, and those that stopped a thread whose joystick
was replaced. The last are at most the openings that the assertion of `open` forbids. -/
theorem quits_balanced (reached : Reaches events s) :
    let seen := trace (lift step) (lifted strays) (some .start) events
    s.adapters.countP blocked + seen.count .reported
        = s.queue.count .quit + s.adapters.countP deaf + seen.count .refused
          + seen.count .forgotten ∧
      seen.count .forgotten ≤ seen.count .unasserted := by
  have kept : ∀ (seen : List Stray) (s : System) (e : Event) (t : System), step s e = some t →
      Balanced seen s → Balanced (seen ++ strays s e) t :=
    fun seen s e t h balanced => step_balanced h balanced
  have initial : Balanced [] .start :=
    ⟨fun adapter mem => absurd mem List.not_mem_nil, rfl, Nat.le_refl 0⟩
  have balanced := trace_lift_invariant kept initial reached
  exact ⟨balanced.quits, Nat.le_trans (Nat.le_add_left _ _) balanced.orphans⟩

/-- The dialog connects to a joystick whose events a thread reads already. The
other thread takes the quit of the dialog. -/
def stolenQuit : List Event :=
  [.construct, .construct, .openJoystick 1 false (some 0), .openJoystick 0 false (some 0),
    .close 0 true, .take 1]

theorem stolenQuit_balanced : ∃ s, Reaches stolenQuit s ∧
    let seen := trace (lift step) (lifted strays) (some .start) stolenQuit
    s.adapters.countP blocked + seen.count .reported
        = s.queue.count .quit + s.adapters.countP deaf + seen.count .refused
          + seen.count .forgotten ∧
      seen.count .forgotten ≤ seen.count .unasserted :=
  ⟨_, rfl, quits_balanced rfl⟩

/-! ### A call of `close` that waits for ever -/

/-- The `close` of an adapter waits for a running thread. -/
def Waits (k : Nat) (s : System) : Prop :=
  ∃ adapter, s.adapters[k]? = some adapter ∧ blocked adapter = true

theorem Waits.change {k j : Nat} {f : Adapter → Option Adapter} {pushed : List Message}
    (waits : Waits k s) (h : s.change j f pushed = some t)
    (keeps : ∀ adapter adapter', blocked adapter = true → f adapter = some adapter' →
      blocked adapter' = true) : Waits k t := by
  obtain ⟨adapter, here, waiting⟩ := waits
  obtain ⟨changed, taken, result⟩ := Option.map_eq_some_iff.mp h
  obtain ⟨before, found, taken⟩ := Option.bind_eq_some_iff.mp taken
  rw [← result]
  by_cases same : j = k
  · rw [same] at found ⊢
    rw [found] at here
    cases here
    obtain ⟨bound, -⟩ := List.getElem?_eq_some_iff.mp found
    exact ⟨changed, List.getElem?_set_self bound, keeps _ _ waiting taken⟩
  · exact ⟨adapter, (List.getElem?_set_ne same).trans here, waiting⟩

theorem blocked_iff {adapter : Adapter} :
    blocked adapter = true ↔ adapter.closing = true ∧ adapter.running = true := by
  rw [blocked, Bool.and_eq_true]

theorem step_waits {k : Nat} (h : step s e = some t) (waits : Waits k s)
    (no_quit : Message.quit ∉ s.queue) : Waits k t := by
  cases e with
  | construct =>
    cases h
    obtain ⟨adapter, here, waiting⟩ := waits
    obtain ⟨bound, -⟩ := List.getElem?_eq_some_iff.mp here
    exact ⟨adapter, (List.getElem?_append_left bound).trans here, waiting⟩
  | openJoystick j attached joystick =>
    refine waits.change h ?_
    intro adapter adapter' waiting taken
    cases (openJoystick_cases taken).1.symm.trans (blocked_iff.mp waiting).1
  | close j queued =>
    refine waits.change h ?_
    intro adapter adapter' waiting taken
    rw [close, if_pos (blocked_iff.mp waiting).1] at taken
    cases taken
  | closed j =>
    refine waits.change h ?_
    intro adapter adapter' waiting taken
    rw [closed, (blocked_iff.mp waiting).2, Bool.not_true, Bool.and_false] at taken
    cases taken
  | take j =>
    simp only [step] at h
    split at h
    · rename_i message queue adapter front found
      split at h
      · have other : message ≠ .quit := by
          rintro rfl
          exact no_quit (front ▸ List.mem_cons_self)
        have unchanged : runThread message adapter = adapter := by
          cases message with
          | quit => exact absurd rfl other
          | joystick which signal => rfl
          | other => rfl
        obtain ⟨bound, here⟩ := List.getElem?_eq_some_iff.mp found
        cases h
        rw [unchanged, ← here, System.put, List.set_getElem_self]
        exact waits
      · cases h
    · cases h
  | post message =>
    cases h
    exact waits

theorem step_no_quit (h : step s e = some t) (no_quit : Message.quit ∉ s.queue)
    (none_pushed : Access.pushed .quit ∉ access s e) : Message.quit ∉ t.queue := by
  intro mem
  have moved : Message.quit ∈ s.queue ++ (access s e).filterMap Access.pushedMessage :=
    step_queue h ▸ List.mem_append_right _ mem
  rcases List.mem_append.mp moved with mem | mem
  · exact no_quit mem
  · obtain ⟨a, accessed, pushed⟩ := List.mem_filterMap.mp mem
    cases a with
    | pushed message =>
      cases pushed
      exact none_pushed accessed
    | taken k id message => cases pushed

/-- A `close` that waits for a running thread, with no quit left in the queue, goes
on waiting whatever the threads do, until another quit is pushed. -/
theorem blocked_close_waits {k : Nat} (waits : Waits k s) (no_quit : Message.quit ∉ s.queue)
    (none_pushed : Access.pushed .quit ∉ trace (lift step) (lifted access) (some s) events)
    (reached : run (lift step) (some s) events = some t) : Waits k t := by
  have kept : ∀ (seen : List Access) (s : System) (e : Event) (t : System), step s e = some t →
      (.pushed .quit ∉ seen → Waits k s ∧ Message.quit ∉ s.queue) →
        .pushed .quit ∉ seen ++ access s e → Waits k t ∧ Message.quit ∉ t.queue := by
    intro seen s e t h before absent
    rw [List.mem_append, not_or] at absent
    obtain ⟨waits, no_quit⟩ := before absent.1
    exact ⟨step_waits h waits no_quit, step_no_quit h no_quit absent.2⟩
  exact (trace_lift_invariant kept (fun _ => ⟨waits, no_quit⟩) reached none_pushed).1

theorem stolen_quit_hangs : ∃ s, Reaches stolenQuit s ∧ ∀ (events : List Event) (t : System),
    Access.pushed .quit ∉ trace (lift step) (lifted access) (some s) events →
      run (lift step) (some s) events = some t → Waits 0 t := by
  refine ⟨_, rfl, ?_⟩
  intro events t none_pushed reached
  exact blocked_close_waits ⟨_, rfl, rfl⟩ List.not_mem_nil none_pushed reached

end JoystickThreads
