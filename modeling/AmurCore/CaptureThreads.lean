import Mathlib.Data.List.Destutter
import AmurCore.VideoCapture

/-!
# The threads that capture

A capture is started for each change of the announced pipeline, and the earlier
ones are told to stop. A thread that was told to stop reads one more frame at
most. A capture whose pipeline could not be opened is never replaced while robots
announce the same pipeline.
-/

namespace CaptureThreads

open EventRuns VideoCapture
open CamSettingsHolder (Mat OpenCV)

/-! ### Lists without repetition -/

section Lists
universe u v
variable {α : Type u} {β : Type v}

theorem destutter_concat [DecidableEq α] (l : List α) (b : α) :
    (l ++ [b]).destutter (· ≠ ·) =
      if l.getLast? = some b then l.destutter (· ≠ ·) else l.destutter (· ≠ ·) ++ [b] := by
  have tail : ∀ (l : List α) (a : α), (l ++ [b]).destutter' (· ≠ ·) a =
      if (a :: l).getLast? = some b then l.destutter' (· ≠ ·) a
      else l.destutter' (· ≠ ·) a ++ [b] := by
    intro l
    induction l with
    | nil =>
      intro a
      by_cases same : a = b <;> simp [List.destutter', same]
    | cons c l ih =>
      intro a
      rw [List.cons_append, List.destutter'_cons, List.destutter'_cons, List.getLast?_cons_cons]
      by_cases same : a = c
      · subst same
        rw [if_neg (not_not.mpr rfl), if_neg (not_not.mpr rfl)]
        exact ih a
      · rw [if_pos same, if_pos same, ih c]
        split <;> rfl
  cases l with
  | nil => rfl
  | cons a l => exact tail l a

theorem map_modify_same {f : α → α} {g : α → β} (kept : ∀ a, g (f a) = g a) (l : List α)
    (k : Nat) : (l.modify k f).map g = l.map g := by
  refine List.ext_getElem? fun j => ?_
  rw [List.getElem?_map, List.getElem?_map, List.getElem?_modify]
  by_cases here : k = j
  · cases l[j]? <;> simp [here, kept]
  · cases l[j]? <;> simp [here]

end Lists

variable {μ P Q : Type} {cv : OpenCV μ P Q} {s : State μ P Q}

/-! ### One capture for each change of the pipeline -/

/-- The captures are those that the announced pipelines ask for. -/
structure Follows (events : List (Event μ P Q)) (s : State μ P Q) : Prop where
  captured : s.captures.map Capture.pipeline = (events.filterMap announced).destutter (· ≠ ·)
  current : s.captureState =
    if s.captures.length = 0 then none else some (s.captures.length - 1)
  named : s.videoStreamPipeline = (events.filterMap announced).getLast?.getD ""
  stopped : ∀ k c, s.captures[k]? = some c → k + 1 < s.captures.length → c.stop = true
  running : .destroyed ∉ events →
    ∀ k c, s.captures[k]? = some c → k + 1 = s.captures.length → c.stop = false

theorem announced_named {e : Event μ P Q} {pipeline : String}
    (h : announced e = some pipeline) : pipeline ≠ "" := by
  cases e with
  | sensorsUpdated announcement =>
    by_cases empty : announcement = ""
    · simp [announced, empty] at h
    · simp only [announced, if_neg empty, Option.some.injEq] at h
      exact h ▸ empty
  | _ => cases h

/-- Modifying one capture without touching its pipeline leaves the pipelines. -/
theorem Follows.modify {events : List (Event μ P Q)} {e : Event μ P Q} {k : Nat}
    {f : Capture μ → Capture μ} (follows : Follows events s) (silent : announced e = none)
    (pipeline : ∀ c, (f c).pipeline = c.pipeline) (stop : ∀ c, (f c).stop = c.stop) :
    Follows (events ++ [e]) { s with captures := s.captures.modify k f } := by
  have announcements : (events ++ [e]).filterMap announced = events.filterMap announced := by
    simp [silent]
  have same : ∀ (j : Nat) (c : Capture μ), (s.captures.modify k f)[j]? = some c →
      ∃ d : Capture μ, s.captures[j]? = some d ∧ c.stop = d.stop := by
    intro j c found
    rw [List.getElem?_modify, Option.map_eq_map, Option.map_eq_some_iff] at found
    obtain ⟨d, before, rfl⟩ := found
    refine ⟨d, before, ?_⟩
    split
    · exact stop d
    · rfl
  constructor
  · rw [announcements, ← follows.captured]
    exact map_modify_same pipeline s.captures k
  · simpa using follows.current
  · rw [announcements]
    exact follows.named
  · intro j c found earlier
    obtain ⟨d, before, stops⟩ := same j c found
    rw [stops]
    exact follows.stopped j d before (by simpa using earlier)
  · intro alive j c found last
    obtain ⟨d, before, stops⟩ := same j c found
    rw [stops]
    exact follows.running (fun mem => alive (List.mem_append_left _ mem)) j d before
      (by simpa using last)

/-- The current capture is the latest, so no capture is left without the order to
stop. -/
theorem Follows.stopCurrent {events : List (Event μ P Q)} (follows : Follows events s) :
    (stopCurrent s).map Capture.pipeline = s.captures.map Capture.pipeline ∧
      (stopCurrent s).length = s.captures.length ∧
      ∀ (k : Nat) (c : Capture μ), (stopCurrent s)[k]? = some c → c.stop = true := by
  rw [VideoCapture.stopCurrent, follows.current]
  by_cases none_yet : s.captures.length = 0
  · rw [if_pos none_yet, List.length_eq_zero_iff.mp none_yet]
    exact ⟨rfl, rfl, fun k c found => by simp at found⟩
  · rw [if_neg none_yet]
    have pipeline : ∀ c : Capture μ, c.stopped.pipeline = c.pipeline := fun _ => rfl
    refine ⟨map_modify_same pipeline _ _, List.length_modify .., fun k c found => ?_⟩
    rw [List.getElem?_modify, Option.map_eq_map, Option.map_eq_some_iff] at found
    obtain ⟨d, before, rfl⟩ := found
    have bound : k < s.captures.length := (List.getElem?_eq_some_iff.mp before).1
    split
    · rfl
    · exact follows.stopped k d before (by omega)

theorem Follows.restart {events : List (Event μ P Q)} {pipeline : String}
    (follows : Follows events s) (named : pipeline ≠ "") (new : pipeline ≠ s.videoStreamPipeline) :
    Follows (events ++ [.sensorsUpdated pipeline])
      (startCap { s with videoStreamPipeline := pipeline }) := by
  have announcements : (events ++ [Event.sensorsUpdated pipeline]).filterMap announced
      = events.filterMap announced ++ [pipeline] := by
    simp [announced, named]
  have different : (events.filterMap announced).getLast? ≠ some pipeline := by
    intro same
    rw [follows.named, same] at new
    exact new rfl
  obtain ⟨pipelines, size, told⟩ := follows.stopCurrent
  rw [startCap, if_neg named]
  constructor
  · rw [announcements, destutter_concat, if_neg different, ← follows.captured, ← pipelines,
      List.map_append]
    rfl
  · have counted : (VideoCapture.stopCurrent s ++ [Capture.start pipeline]).length - 1
        = s.captures.length := by simp [size]
    rw [if_neg (by simp)]
    exact congrArg some counted.symm
  · rw [announcements, List.getLast?_concat]
    rfl
  · intro k c found before_last
    have bound : k < (VideoCapture.stopCurrent s).length := by
      simpa [VideoCapture.stopCurrent] using before_last
    exact told k c ((List.getElem?_append_left bound).symm.trans found)
  · intro _ k c found last
    have at_end : k = (VideoCapture.stopCurrent s).length := by
      simpa [VideoCapture.stopCurrent] using last
    have new_one : c = Capture.start pipeline := by
      subst at_end
      simpa [VideoCapture.stopCurrent] using found.symm
    rw [new_one]
    rfl

theorem Follows.told {events : List (Event μ P Q)} (follows : Follows events s) :
    Follows (events ++ [.destroyed]) (destroyed s) := by
  have announcements : (events ++ [Event.destroyed]).filterMap announced
      = events.filterMap announced := by
    simp [announced]
  obtain ⟨pipelines, size, told⟩ := follows.stopCurrent
  constructor
  · rw [announcements, ← follows.captured]
    exact pipelines
  · simp only [destroyed, size]
    exact follows.current
  · rw [announcements]
    exact follows.named
  · exact fun k c found _ => told k c found
  · exact fun alive => absurd (List.mem_append_right _ (List.mem_singleton_self _)) alive

theorem Follows.last_announced {events : List (Event μ P Q)} {e : Event μ P Q}
    {pipeline : String} (follows : Follows events s) (announcement : announced e = some pipeline)
    (same : pipeline = s.videoStreamPipeline) :
    (events.filterMap announced).getLast? = some pipeline := by
  have named := announced_named announcement
  rw [same, follows.named] at named ⊢
  cases last : (events.filterMap announced).getLast? with
  | none => exact absurd (by rw [last]; rfl) named
  | some p => rfl

theorem step_follows {events : List (Event μ P Q)} (follows : Follows events s)
    (e : Event μ P Q) : Follows (events ++ [e]) (step cv s e) := by
  cases step_effect cv s e with
  | restarted pipeline event named new next =>
    rw [event] at next ⊢
    rw [next]
    exact follows.restart named new
  | told event next =>
    rw [next, event]
    exact follows.told
  | moved k f thread next =>
    rw [next]
    have silent : announced e = none := by cases e <;> first | rfl | cases thread
    exact follows.modify silent (fun c => (threadStep_kept thread c).1)
      fun c => (threadStep_kept thread c).2
  | kept quiet none_moved pipeline captures current =>
    have alive_before : (.destroyed : Event μ P Q) ∉ events ++ [e] → .destroyed ∉ events :=
      fun alive mem => alive (List.mem_append_left _ mem)
    refine ⟨?_, ?_, ?_, ?_, ?_⟩
    · rw [captures, follows.captured, List.filterMap_append]
      cases announcement : announced e with
      | none => simp [announcement]
      | some p =>
        rw [List.filterMap_cons_some announcement, List.filterMap_nil, destutter_concat,
          if_pos (follows.last_announced announcement (quiet p announcement))]
    · rw [captures, current]
      exact follows.current
    · rw [pipeline, List.filterMap_append]
      cases announcement : announced e with
      | none => simpa [announcement] using follows.named
      | some p => simp [announcement, quiet p announcement]
    · rw [captures]
      exact follows.stopped
    · rw [captures]
      exact fun alive => follows.running (alive_before alive)

theorem start_follows (camHolder : CamSettingsHolder.State μ P Q) :
    Follows ([] : List (Event μ P Q)) (start camHolder) :=
  ⟨rfl, rfl, rfl, fun _ _ found => (by simp [start] at found),
    fun _ _ _ found => (by simp [start] at found)⟩

theorem run_follows (camHolder : CamSettingsHolder.State μ P Q) (events : List (Event μ P Q)) :
    Follows events (run (step cv) (start camHolder) events) := by
  induction events using List.reverseRecOn with
  | nil => exact start_follows camHolder
  | append_singleton events e ih =>
    rw [run_concat]
    exact step_follows ih e

/-- The threads started so far captured the announced pipelines, one for each
change in their order; every capture but the latest was told to stop, and the
latest was not while the window is there. -/
theorem captures_follow_pipelines (cv : OpenCV μ P Q)
    (camHolder : CamSettingsHolder.State μ P Q) (events : List (Event μ P Q)) :
    let s := run (step cv) (start camHolder) events
    s.captures.map Capture.pipeline = (events.filterMap announced).destutter (· ≠ ·) ∧
    (∀ k c, s.captures[k]? = some c → k + 1 < s.captures.length → c.stop = true) ∧
    (.destroyed ∉ events → ∀ k c, s.captures[k]? = some c →
      (c.stop = false ↔ s.captureState = some k)) := by
  intro s
  have follows : Follows events s := run_follows camHolder events
  refine ⟨follows.captured, follows.stopped, fun alive k c found => ?_⟩
  have bound : k < s.captures.length := (List.getElem?_eq_some_iff.mp found).1
  rw [follows.current, if_neg (by omega), Option.some.injEq]
  constructor
  · intro running
    by_contra earlier
    have told := follows.stopped k c found (by omega)
    rw [running] at told
    cases told
  · intro last
    exact follows.running alive k c found (by omega)

/-! ### A thread that was told to stop -/

/-- The operations that a thread has left once it was told to stop. -/
def operationsLeft (c : Capture μ) : Nat :=
  match c.pc with
  | .opening => 2
  | .checking => 1
  | .reading => 3
  | .storing _ => 2
  | .ended => 0

def readsLeft (c : Capture μ) : Nat := if c.isReading then 1 else 0

theorem captureAt_stop {k : Nat} (told : (captureAt k s).stop = true) (e : Event μ P Q) :
    (captureAt k (step cv s e)).stop = true := by
  have there : k < s.captures.length := by
    by_contra absent
    rw [captureAt_absent absent] at told
    cases told
  have stopped : ((stopCurrent s)[k]?.getD (.start "")).stop = true := by
    rw [captureAt] at told
    unfold stopCurrent
    split
    · rename_i j current
      rw [List.getElem?_modify, List.getElem?_eq_getElem there]
      rw [List.getElem?_eq_getElem there] at told
      by_cases here : j = k
      · simp [here, Capture.stopped]
      · simpa [here] using told
    · exact told
  cases step_effect cv s e with
  | restarted pipeline event named new next =>
    have found : k < (stopCurrent s).length := by
      by_contra absent
      rw [List.getElem?_eq_none (Nat.le_of_not_lt absent)] at stopped
      cases stopped
    rw [next, startCap, if_neg named, captureAt]
    exact (List.getElem?_append_left found).symm ▸ stopped
  | told event next =>
    rw [next]
    exact stopped
  | moved j f thread next =>
    rw [captureAt_moved thread]
    split
    · rw [(threadStep_kept thread _).2, told]
    · exact told
  | kept quiet none_moved pipeline captures current =>
    rw [captureAt, captures]
    exact told

/-- A step of the thread uses one of the operations that it has left. -/
theorem step_operationsLeft {k : Nat} (told : (captureAt k s).stop = true) (e : Event μ P Q) :
    (operations k s e).length + operationsLeft (captureAt k (step cv s e))
        ≤ operationsLeft (captureAt k s) ∧
      (readResults k s e).length + readsLeft (captureAt k (step cv s e))
        ≤ readsLeft (captureAt k s) := by
  have there : k < s.captures.length := by
    by_contra absent
    rw [captureAt_absent absent] at told
    cases told
  cases moves : threadStep e with
  | none =>
    have pc : (captureAt k (step cv s e)).pc = (captureAt k s).pc := (captureAt_kept moves cv s k).2
    have idle : operations k s e = [] := by cases e <;> first | rfl | cases moves
    have unread : readResults k s e = [] := by cases e <;> first | rfl | cases moves
    have left : operationsLeft (captureAt k (step cv s e)) = operationsLeft (captureAt k s) := by
      rw [operationsLeft, pc]
      rfl
    have reads : readsLeft (captureAt k (step cv s e)) = readsLeft (captureAt k s) := by
      rw [readsLeft, Capture.isReading, pc]
      rfl
    rw [idle, unread, left, reads]
    exact ⟨Nat.le_of_eq (Nat.zero_add _), Nat.le_of_eq (Nat.zero_add _)⟩
  | some thread =>
    obtain ⟨j, f⟩ := thread
    rw [captureAt_moved moves]
    by_cases here : j = k
    · subst here
      rw [if_pos ⟨rfl, there⟩]
      simp only [operations, readResults]
      generalize captureAt j s = c at told ⊢
      obtain ⟨pipeline, stop, latest, pc⟩ := c
      cases told
      -- the operation that the event is, at each place where the thread may be
      cases e with
      | opened j success =>
        cases moves
        cases pc <;> cases success <;>
          simp [Capture.opened, operationsLeft, readsLeft, Capture.isReading]
      | checked j =>
        cases moves
        cases pc <;> simp [Capture.checked, operationsLeft, readsLeft, Capture.isReading]
      | read j frame =>
        cases moves
        cases pc <;> cases frame <;>
          simp [Capture.read, operationsLeft, readsLeft, Capture.isReading]
      | stored j =>
        cases moves
        cases pc <;> simp [Capture.stored, operationsLeft, readsLeft, Capture.isReading]
      | _ => cases moves
    · rw [if_neg fun both => here both.1]
      have idle : operations k s e = [] := by
        cases e <;> cases moves <;> cases pc : (captureAt k s).pc <;> simp [operations, pc, here]
      have unread : readResults k s e = [] := by
        cases e <;> cases moves <;> simp [readResults, here]
      simp [idle, unread]

/-- A thread that was told to stop reads at most once more, and only if it was
reading then; after three operations at most it has ended. -/
theorem told_thread_winds_up (cv : OpenCV μ P Q) (s : State μ P Q) (k : Nat)
    (told : (captureAt k s).stop = true) (events : List (Event μ P Q)) :
    (trace (step cv) (readResults k) s events).length
        ≤ (if (captureAt k s).isReading then 1 else 0) ∧
    (trace (step cv) (operations k) s events).length ≤ 3 ∧
    ((trace (step cv) (operations k) s events).length = 3 →
      (captureAt k (run (step cv) s events)).pc = .ended) := by
  have stays : ∀ s e, (captureAt k s).stop = true → (captureAt k (step cv s e)).stop = true :=
    fun s e told => captureAt_stop told e
  have reads := trace_length_le (readResults k) (fun s => readsLeft (captureAt k s)) stays
    (fun s e told => (@step_operationsLeft _ _ _ cv s k told e).2) told events
  have operations := trace_length_le (operations k) (fun s => operationsLeft (captureAt k s)) stays
    (fun s e told => (@step_operationsLeft _ _ _ cv s k told e).1) told events
  have three : operationsLeft (captureAt k s) ≤ 3 := by
    unfold operationsLeft
    split <;> decide
  refine ⟨Nat.le_trans (Nat.le_add_right _ _) reads, by omega, fun used => ?_⟩
  have none_left : operationsLeft (captureAt k (run (step cv) s events)) = 0 := by omega
  unfold operationsLeft at none_left
  split at none_left
  case h_5 ended => exact ended
  all_goals omega

/-- Calibrating and computing maps does nothing. -/
def idleOpenCV : OpenCV Nat Unit Unit :=
  ⟨fun _ _ _ worker _ => worker, fun _ _ _ _ _ _ => (none, none)⟩

def initialWindow : State Nat Unit Unit := start (CamSettingsHolder.construct true 0)

/-- The robot changes its pipeline while the first thread is reading. -/
def switchedPipeline : State Nat Unit Unit :=
  run (step idleOpenCV) initialWindow
    [.sensorsUpdated "front", .opened 0 true, .checked 0, .sensorsUpdated "rear"]

theorem switched_thread_winds_up : (captureAt 0 switchedPipeline).isReading = true ∧
    (captureAt 0 (run (step idleOpenCV) switchedPipeline
      [.read 0 (some 7), .stored 0, .checked 0])).pc = .ended :=
  ⟨by decide, (told_thread_winds_up idleOpenCV switchedPipeline 0 (by decide)
    [.read 0 (some 7), .stored 0, .checked 0]).2.2 (by decide)⟩

/-! ### A pipeline that cannot be opened -/

/-- A thread stores nothing before it has opened its pipeline, and ends without a
frame unless it was told to. -/
structure Opens (c : Capture μ) : Prop where
  opening : c.pc = .opening → c.latest = none
  ended : c.pc = .ended → c.stop = true ∨ c.latest = none

theorem opens_start (pipeline : String) : Opens (Capture.start pipeline : Capture μ) :=
  ⟨fun _ => rfl, fun ended => by cases ended⟩

theorem threadStep_opens {e : Event μ P Q} {j : Nat} {f : Capture μ → Capture μ}
    (thread : threadStep e = some (j, f)) {c : Capture μ} (opens : Opens c) : Opens (f c) := by
  obtain ⟨pipeline, stop, latest, pc⟩ := c
  cases e with
  | opened j success =>
    cases thread
    cases pc <;> cases success <;> first
      | exact opens
      | exact ⟨fun opening => (by cases opening), fun _ => Or.inr (opens.opening rfl)⟩
  | checked j =>
    cases thread
    cases pc <;> cases stop <;> first
      | exact opens
      | exact ⟨fun opening => (by cases opening), fun _ => Or.inl rfl⟩
      | exact ⟨fun opening => (by cases opening), fun ended => (by cases ended)⟩
  | read j frame =>
    cases thread
    cases pc <;> cases frame <;> first
      | exact opens
      | exact ⟨fun opening => (by cases opening), fun ended => (by cases ended)⟩
  | stored j =>
    cases thread
    cases pc <;> first
      | exact opens
      | exact ⟨fun opening => (by cases opening), fun ended => (by cases ended)⟩
  | _ => cases thread

theorem step_opens {k : Nat} (opens : Opens (captureAt k s)) (e : Event μ P Q) :
    Opens (captureAt k (step cv s e)) := by
  cases moves : threadStep e with
  | some thread =>
    obtain ⟨j, f⟩ := thread
    rw [captureAt_moved moves]
    split
    · exact threadStep_opens moves opens
    · exact opens
  | none =>
    obtain ⟨latest, pc⟩ := captureAt_kept moves cv s k
    constructor
    · intro opening
      rw [latest]
      exact opens.opening (pc ▸ opening)
    · intro ended
      rw [latest]
      exact (opens.ended (pc ▸ ended)).imp_left fun told => captureAt_stop told e

theorem run_opens (k : Nat) (camHolder : CamSettingsHolder.State μ P Q)
    (events : List (Event μ P Q)) :
    Opens (captureAt k (run (step cv) (start camHolder) events)) := by
  have initial : Opens (captureAt k (start camHolder)) := opens_start ""
  have kept : ∀ (s : State μ P Q) e, Opens (captureAt k s) → Opens (captureAt k (step cv s e)) :=
    fun _ e opens => step_opens opens e
  exact run_invariant kept initial events

/-- The current capture has ended without a frame. -/
structure Dead (k : Nat) (pipeline : String) (s : State μ P Q) : Prop where
  current : s.captureState = some k
  named : s.videoStreamPipeline = pipeline
  ended : (captureAt k s).pc = .ended
  unread : (captureAt k s).latest = none

theorem step_dead {k : Nat} {pipeline : String} (dead : Dead k pipeline s) {e : Event μ P Q}
    (same : ∀ p, announced e = some p → p = pipeline) :
    Dead k pipeline (step cv s e) ∧ (step cv s e).captures.length = s.captures.length ∧
      framesShown s e = [] := by
  have nothing : framesShown s e = [] := by
    have unseen : latestFrame s = none := (latestFrame_eq dead.current).trans dead.unread
    cases e <;> simp [framesShown, unseen]
  cases step_effect cv s e with
  | restarted p event named new next =>
    have announcement : announced e = some p := by simp [event, announced, named]
    exact absurd ((same p announcement).trans dead.named.symm) new
  | told event next =>
    obtain ⟨latest, pc⟩ := captureAt_kept (e := e) (by rw [event]; rfl) cv s k
    refine ⟨⟨?_, ?_, pc.trans dead.ended, latest.trans dead.unread⟩, ?_, nothing⟩
    · rw [next]
      exact dead.current
    · rw [next]
      exact dead.named
    · rw [next]
      exact length_stopCurrent s
  | moved j f thread next =>
    -- a thread that has ended does nothing
    have still : captureAt k (step cv s e) = captureAt k s := by
      rw [captureAt_moved thread]
      split
      · have ended := dead.ended
        generalize captureAt k s = c at ended ⊢
        obtain ⟨p, stop, latest, pc⟩ := c
        cases ended
        cases e <;> cases thread <;> rfl
      · rfl
    refine ⟨⟨?_, ?_, still ▸ dead.ended, still ▸ dead.unread⟩, ?_, nothing⟩
    · rw [next]
      exact dead.current
    · rw [next]
      exact dead.named
    · rw [next]
      exact List.length_modify ..
  | kept quiet none_moved p captures current =>
    obtain ⟨latest, pc⟩ := captureAt_kept none_moved cv s k
    exact ⟨⟨current.trans dead.current, p.trans dead.named, pc.trans dead.ended,
      latest.trans dead.unread⟩, congrArg List.length captures, nothing⟩

/-- A capture whose thread has ended although nobody told it to, because its
pipeline could not be opened, is final: as long as robots announce the same
pipeline no other capture is started and no frame is shown. -/
theorem failed_capture_final (cv : OpenCV μ P Q) (camHolder : CamSettingsHolder.State μ P Q)
    (before after : List (Event μ P Q)) (k : Nat)
    (current : (run (step cv) (start camHolder) before).captureState = some k)
    (ended : (captureAt k (run (step cv) (start camHolder) before)).pc = .ended)
    (untold : (captureAt k (run (step cv) (start camHolder) before)).stop = false)
    (same : ∀ p ∈ after.filterMap announced,
      p = (run (step cv) (start camHolder) before).videoStreamPipeline) :
    trace (step cv) framesShown (run (step cv) (start camHolder) before) after = [] ∧
    (run (step cv) (start camHolder) (before ++ after)).captures.length
      = (run (step cv) (start camHolder) before).captures.length := by
  have unread : (captureAt k (run (step cv) (start camHolder) before)).latest = none := by
    rcases (run_opens k camHolder before).ended ended with told | unread
    · rw [untold] at told
      cases told
    · exact unread
  have dead : Dead k (run (step cv) (start camHolder) before).videoStreamPipeline
      (run (step cv) (start camHolder) before) := ⟨current, rfl, ended, unread⟩
  rw [run_append]
  generalize run (step cv) (start camHolder) before = s at dead same
  generalize s.videoStreamPipeline = pipeline at dead same
  induction after generalizing s with
  | nil => exact ⟨rfl, rfl⟩
  | cons e after ih =>
    have first : ∀ p, announced e = some p → p = pipeline := fun p announcement =>
      same p (by simp [announcement])
    obtain ⟨still, length, nothing⟩ := @step_dead _ _ _ cv s k pipeline dead e first
    have rest : ∀ p ∈ after.filterMap announced, p = pipeline := by
      intro p mem
      refine same p ?_
      rw [List.filterMap_cons]
      split
      · exact mem
      · exact List.mem_cons_of_mem _ mem
    obtain ⟨unseen, kept⟩ := ih (step cv s e) still rest
    rw [trace, nothing, unseen, run_cons, kept, length]
    exact ⟨rfl, rfl⟩

theorem unreachable_camera_final :
    trace (step idleOpenCV) framesShown
      (run (step idleOpenCV) initialWindow [.sensorsUpdated "front", .opened 0 false])
      [.frameUpdate, .sensorsUpdated "front", .frameUpdate] = [] :=
  (failed_capture_final idleOpenCV (CamSettingsHolder.construct true 0)
    [.sensorsUpdated "front", .opened 0 false] [.frameUpdate, .sensorsUpdated "front", .frameUpdate]
    0 (by decide) (by decide) (by decide) (by decide)).1

end CaptureThreads
