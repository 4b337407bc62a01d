import AmurCore.CaptureThreads
import AmurCore.SampledCell

/-!
# Which frames are shown

The latest frame of a capture is a cell that its thread overwrites and the window
samples. So the shown frames come from one capture after another, each in the
order in which its thread read them. The undistorted picture is shown by a resize
only. A frame is what the thread read: the corners that the dialog of the calibration
paints on it are left out.
-/

namespace CaptureFrames

open EventRuns SampledCell VideoCapture CaptureThreads
open CamSettingsHolder (Mat OpenCV)

variable {μ P Q : Type} {cv : OpenCV μ P Q} {s : State μ P Q}

/-! ### The latest frame of a capture as a cell -/

/-- What a step does to the latest frame of capture `k`. -/
def accesses (k : Nat) (s : State μ P Q) : Event μ P Q → List (Access μ)
  | .stored j => if j = k then (captureAt k s).held.map .write else []
  | .frameUpdate => if s.captureState = some k then [.sample] else []
  | _ => []

theorem opened_latest (success : Bool) (c : Capture μ) :
    (c.opened success).latest = c.latest ∧ (c.opened success).held = c.held := by
  obtain ⟨pipeline, stop, latest, pc⟩ := c
  cases pc <;> cases success <;> exact ⟨rfl, rfl⟩

theorem checked_latest (c : Capture μ) : c.checked.latest = c.latest ∧ c.checked.held = c.held := by
  obtain ⟨pipeline, stop, latest, pc⟩ := c
  cases pc <;> cases stop <;> exact ⟨rfl, rfl⟩

theorem read_latest (frame : Mat μ) (c : Capture μ) :
    (c.read frame).latest = c.latest ∧
      (c.read frame).held = if c.isReading then frame.toList else c.held := by
  obtain ⟨pipeline, stop, latest, pc⟩ := c
  cases pc <;> cases frame <;> exact ⟨rfl, rfl⟩

theorem stored_latest (c : Capture μ) :
    c.stored.latest = c.held.getLast?.or c.latest ∧ c.stored.held = [] := by
  obtain ⟨pipeline, stop, latest, pc⟩ := c
  cases pc <;> exact ⟨rfl, rfl⟩

theorem isReading_held {c : Capture μ} (reading : c.isReading = true) : c.held = [] := by
  obtain ⟨pipeline, stop, latest, pc⟩ := c
  cases pc <;> first | rfl | cases reading

theorem framesRead_none {k : Nat} {e : Event μ P Q} (unmoved : threadStep e = none) :
    framesRead k s e = [] := by
  cases e <;> first | rfl | cases unmoved

theorem written_none {k : Nat} {e : Event μ P Q} (unmoved : threadStep e = none) :
    (accesses k s e).filterMap written = [] := by
  cases e with
  | frameUpdate => by_cases current : s.captureState = some k <;> simp [accesses, current, written]
  | _ => first | rfl | cases unmoved

theorem framesRead_read (k : Nat) (s : State μ P Q) (frame : Mat μ) :
    framesRead k s (.read k frame) = if (captureAt k s).isReading then frame.toList else [] := by
  by_cases reading : (captureAt k s).isReading = true
  · cases frame <;> simp [framesRead, readResults, reading]
  · simp [framesRead, readResults, reading]

/-- Steps of other threads, and of threads that are not there, do nothing here. -/
theorem thread_elsewhere {k j : Nat} {e : Event μ P Q} {f : Capture μ → Capture μ}
    (thread : threadStep e = some (j, f)) (elsewhere : ¬(j = k ∧ k < s.captures.length)) :
    framesRead k s e = [] ∧ accesses k s e = [] := by
  by_cases here : j = k
  · have absent : ¬k < s.captures.length := fun there => elsewhere ⟨here, there⟩
    cases e <;> cases thread <;>
      simp [framesRead, readResults, accesses, captureAt_absent absent, Capture.isReading,
        Capture.held, Capture.start]
  · cases e <;> cases thread <;> simp [framesRead, readResults, accesses, here]

/-- The frames read by a thread are those that it has stored and the one that it
still holds. -/
theorem step_held (k : Nat) (s : State μ P Q) (e : Event μ P Q) :
    (captureAt k s).held ++ framesRead k s e
      = (accesses k s e).filterMap written ++ (captureAt k (step cv s e)).held := by
  cases moves : threadStep e with
  | none =>
    have same : (captureAt k (step cv s e)).held = (captureAt k s).held := by
      rw [Capture.held, (captureAt_kept moves cv s k).2]
      rfl
    rw [framesRead_none moves, written_none moves, same, List.append_nil, List.nil_append]
  | some thread =>
    obtain ⟨j, f⟩ := thread
    rw [captureAt_moved moves]
    by_cases here : j = k ∧ k < s.captures.length
    · rw [if_pos here]
      obtain ⟨rfl, -⟩ := here
      cases e with
      | opened j success =>
        cases moves
        exact (List.append_nil _).trans (opened_latest success _).2.symm
      | checked j =>
        cases moves
        exact (List.append_nil _).trans (checked_latest _).2.symm
      | read j frame =>
        cases moves
        rw [framesRead_read, (read_latest frame _).2]
        by_cases reading : (captureAt j s).isReading = true
        · rw [if_pos reading, if_pos reading, isReading_held reading]
          rfl
        · rw [if_neg reading, if_neg reading, List.append_nil]
          rfl
      | stored j =>
        cases moves
        rw [(stored_latest _).2, accesses, if_pos rfl, List.filterMap_map, List.append_nil]
        have all : written ∘ Access.write = (some : μ → Option μ) := rfl
        rw [all, List.filterMap_some]
        exact List.append_nil _
      | _ => cases moves
    · obtain ⟨nothing, no_access⟩ := thread_elsewhere moves here
      rw [if_neg here, nothing, no_access, List.append_nil]
      rfl

theorem step_latest (k : Nat) (s : State μ P Q) (e : Event μ P Q) (c : Cell μ)
    (same : (captureAt k s).latest = c.content) :
    (captureAt k (step cv s e)).latest = (run access c (accesses k s e)).content := by
  have sampled : (run access c (if s.captureState = some k then [.sample] else [])).content
      = c.content := by
    split <;> rfl
  cases moves : threadStep e with
  | none =>
    rw [(captureAt_kept moves cv s k).1, same]
    cases e with
    | frameUpdate => exact sampled.symm
    | _ => first | rfl | cases moves
  | some thread =>
    obtain ⟨j, f⟩ := thread
    rw [captureAt_moved moves]
    by_cases here : j = k ∧ k < s.captures.length
    · rw [if_pos here]
      obtain ⟨rfl, -⟩ := here
      cases e with
      | opened j success =>
        cases moves
        exact (opened_latest success _).1.trans same
      | checked j =>
        cases moves
        exact (checked_latest _).1.trans same
      | read j frame =>
        cases moves
        exact (read_latest frame _).1.trans same
      | stored j =>
        cases moves
        rw [(stored_latest _).1, accesses, if_pos rfl, same]
        unfold Capture.held
        split <;> rfl
      | _ => cases moves
    · rw [if_neg here, (thread_elsewhere moves here).2]
      exact same

/-! ### Frames in order -/

theorem run_held (k : Nat) (camHolder : CamSettingsHolder.State μ P Q)
    (events : List (Event μ P Q)) :
    trace (step cv) (framesRead k) (start camHolder) events
      = (trace (step cv) (accesses k) (start camHolder) events).filterMap written
        ++ (captureAt k (run (step cv) (start camHolder) events)).held := by
  induction events using List.reverseRecOn with
  | nil => rfl
  | append_singleton events e ih =>
    rw [trace_concat, trace_concat, run_concat, ih, List.filterMap_append, List.append_assoc,
      List.append_assoc, step_held]

/-- What a step shows of capture `k`. -/
def shownOf (k : Nat) (s : State μ P Q) (e : Event μ P Q) : List μ :=
  ((framesShown s e).filter fun shown => shown.1 = k).map Prod.snd

theorem shownOf_frameUpdate (k : Nat) (s : State μ P Q) :
    shownOf k s .frameUpdate
      = if s.captureState = some k then (captureAt k s).latest.toList else [] := by
  cases current : s.captureState with
  | none => simp [shownOf, framesShown, current]
  | some j =>
    rw [shownOf, framesShown, current]
    simp only [latestFrame_eq current]
    by_cases here : j = k
    · subst here
      cases (captureAt j s).latest <;> simp
    · cases (captureAt j s).latest <;> simp [here]

theorem seen_writes (c : Cell μ) (values : List μ) :
    trace access seen c (values.map .write) = [] := by
  induction values generalizing c with
  | nil => rfl
  | cons value values ih => exact ih _

theorem shownOf_seen (k : Nat) (s : State μ P Q) (e : Event μ P Q) (c : Cell μ)
    (same : (captureAt k s).latest = c.content) :
    shownOf k s e = trace access seen c (accesses k s e) := by
  cases e with
  | frameUpdate =>
    rw [shownOf_frameUpdate, same, accesses]
    split
    · exact (List.append_nil _).symm
    · rfl
  | stored j =>
    rw [accesses]
    split
    · exact (seen_writes c _).symm
    · rfl
  | _ => rfl

theorem trace_shownOf (k : Nat) (s : State μ P Q) (events : List (Event μ P Q)) :
    trace (step cv) (shownOf k) s events
      = ((trace (step cv) framesShown s events).filter fun shown => shown.1 = k).map Prod.snd := by
  induction events generalizing s with
  | nil => rfl
  | cons e events ih =>
    rw [trace, trace, ih, List.filter_append, List.map_append]
    rfl

theorem step_captures_length (s : State μ P Q) (e : Event μ P Q) :
    s.captures.length ≤ (step cv s e).captures.length := by
  have told := length_stopCurrent s
  cases step_effect cv s e with
  | restarted pipeline event named new next =>
    rw [next, startCap, if_neg named]
    have grown : (stopCurrent s ++ [Capture.start pipeline]).length = s.captures.length + 1 := by
      simp [told]
    exact Nat.le_of_lt (Nat.lt_of_lt_of_eq (Nat.lt_succ_self _) grown.symm)
  | told event next =>
    rw [next]
    exact Nat.le_of_eq told.symm
  | moved k f thread next =>
    rw [next]
    exact Nat.le_of_eq (List.length_modify ..).symm
  | kept quiet none_moved pipeline captures current =>
    rw [captures]

/-- The frames shown so far come from captures in the order in which those were
started, the current one last. -/
structure InOrder (shown : List (Nat × μ)) (s : State μ P Q) : Prop where
  sorted : (shown.map Prod.fst).Pairwise (· ≤ ·)
  started : ∀ k ∈ shown.map Prod.fst, k < s.captures.length

theorem step_inOrder {events : List (Event μ P Q)} {shown : List (Nat × μ)}
    (follows : Follows events s) (ordered : InOrder shown s) (e : Event μ P Q) :
    InOrder (shown ++ framesShown s e) (step cv s e) := by
  have current : ∀ k ∈ (framesShown s e).map Prod.fst, k + 1 = s.captures.length := by
    intro k mem
    have at_ : s.captureState = some k := by
      cases e with
      | frameUpdate =>
        cases at_ : s.captureState with
        | none => simp [framesShown, at_] at mem
        | some j =>
          cases latest : latestFrame s with
          | none => simp [framesShown, at_, latest] at mem
          | some image =>
            simp only [framesShown, at_, latest, List.map_singleton, List.mem_singleton] at mem
            rw [mem]
      | _ => cases mem
    rw [follows.current] at at_
    split at at_
    · cases at_
    · have := Option.some.inj at_
      omega
  have single : ((framesShown s e).map Prod.fst).Pairwise (· ≤ ·) := by
    have equal : ∀ j ∈ (framesShown s e).map Prod.fst, ∀ k ∈ (framesShown s e).map Prod.fst,
        j ≤ k := by
      intro j hj k hk
      have := current j hj
      have := current k hk
      omega
    exact List.pairwise_of_forall_mem_list equal
  have grown : s.captures.length ≤ (step cv s e).captures.length := step_captures_length s e
  constructor
  · rw [List.map_append, List.pairwise_append]
    refine ⟨ordered.sorted, single, fun j hj k hk => ?_⟩
    have := ordered.started j hj
    have := current k hk
    omega
  · intro k mem
    rw [List.map_append, List.mem_append] at mem
    rcases mem with earlier | now
    · have := ordered.started k earlier
      omega
    · have := current k now
      omega

/-- The frames shown come from one capture after another in the order in which
the captures were started. Of each capture they are some of the frames that its
thread read, in the order it read them, each shown once or several times in a
row. -/
theorem frames_shown_in_order (cv : OpenCV μ P Q) (camHolder : CamSettingsHolder.State μ P Q)
    (events : List (Event μ P Q)) :
    let shown := trace (step cv) framesShown (start camHolder) events
    (shown.map Prod.fst).Pairwise (· ≤ ·) ∧
    ∀ k, ∃ values, values.Sublist (trace (step cv) (framesRead k) (start camHolder) events) ∧
      Repeats values ((shown.filter fun frame => frame.1 = k).map Prod.snd) := by
  intro shown
  constructor
  · have ordered : InOrder shown (run (step cv) (start camHolder) events) := by
      induction events using List.reverseRecOn with
      | nil => exact ⟨List.Pairwise.nil, fun _ mem => absurd mem List.not_mem_nil⟩
      | append_singleton events e ih =>
        simp only [shown, trace_concat, run_concat]
        exact step_inOrder (run_follows camHolder events) ih e
    exact ordered.sorted
  · intro k
    have cell : ∀ s (c : Cell μ) e, (captureAt k s).latest = c.content →
        (captureAt k (step cv s e)).latest = (run access c (accesses k s e)).content ∧
          shownOf k s e = trace access seen c (accesses k s e) :=
      fun s c e same => ⟨step_latest k s e c same, shownOf_seen k s e c same⟩
    have initial : (captureAt k (start camHolder)).latest = (Cell.empty : Cell μ).content := by
      simp [captureAt, start, Capture.start, Cell.empty]
    have seen_by_window := trace_refines
      (R := fun s (c : Cell μ) => (captureAt k s).latest = c.content) cell initial events
    rw [trace_shownOf] at seen_by_window
    refine ⟨_, (news_sublist _).trans ?_, seen_by_window ▸ seen_repeats _⟩
    rw [run_held]
    exact List.sublist_append_left _ _

/-! ### The picture that a resize shows -/

/-- The picture that `undistortMat` makes of the frame that a step shows. -/
def undistorted (cv : OpenCV μ P Q) (s : State μ P Q) : Event μ P Q → List (Option (Picture μ))
  | .frameUpdate => (latestFrame s).toList.map fun image => (undistortMat cv image s.camHolder).2
  | _ => []

/-- The picture for `resizeEvent`, given those made of the frames so far: the first
frame leaves an empty one. -/
def outputAfter : List (Option (Picture μ)) → Option (Picture μ)
  | [] => some .noPicture
  | _ :: later => later.getLast?.join

/-- Once there was a frame, `Logic` points to the picture of the window. -/
structure Outputs (pictures : List (Option (Picture μ))) (s : State μ P Q) : Prop where
  output : s.outputMat = outputAfter pictures
  before : pictures = [] →
    s.amurLogic.srcMat = .initialSrcMat ∧ s.amurLogic.outMat ≠ .undistortedMat
  pointers : pictures ≠ [] → s.amurLogic = ⟨.undistortedMat, .undistortedMat⟩

theorem outputAfter_concat {pictures : List (Option (Picture μ))} (some_before : pictures ≠ [])
    (picture : Option (Picture μ)) : outputAfter (pictures ++ [picture]) = picture := by
  cases pictures with
  | nil => exact absurd rfl some_before
  | cons first later =>
    rw [List.cons_append, outputAfter, List.getLast?_concat]
    rfl

theorem showFrame_outputs {pictures : List (Option (Picture μ))} (outputs : Outputs pictures s)
    (image : μ) :
    Outputs (pictures ++ [(undistortMat cv image s.camHolder).2])
      { showFrame cv image s with amurLogic := process (showFrame cv image s).amurLogic } := by
  refine ⟨?_, fun none_yet => absurd none_yet (by simp), fun _ => rfl⟩
  cases pictures with
  | nil =>
    -- `Logic` still points to a picture of its own
    have own := (outputs.before rfl).2
    simp only [showFrame, getOutMat, List.nil_append, outputAfter]
    split
    · rename_i window
      exact absurd window own
    · rfl
    · rfl
  | cons first later =>
    rw [outputAfter_concat (List.cons_ne_nil _ _)]
    simp only [showFrame, getOutMat, outputs.pointers (List.cons_ne_nil _ _)]

theorem step_outputs {pictures : List (Option (Picture μ))} (outputs : Outputs pictures s)
    (e : Event μ P Q) : Outputs (pictures ++ undistorted cv s e) (step cv s e) := by
  have kept : ∀ {t : State μ P Q}, t.outputMat = s.outputMat → t.amurLogic = s.amurLogic →
      Outputs (pictures ++ []) t := by
    intro t output logic
    rw [List.append_nil]
    exact ⟨output.trans outputs.output, fun none_yet => logic ▸ outputs.before none_yet,
      fun some_yet => logic ▸ outputs.pointers some_yet⟩
  cases e with
  | frameUpdate =>
    rw [step, undistorted, frameUpdate]
    cases latestFrame s with
    | some image => exact showFrame_outputs outputs image
    | none =>
      refine ⟨by simpa using outputs.output, fun none_yet => ?_, fun some_yet => ?_⟩
      · have initial := outputs.before (by simpa using none_yet)
        simp [process, initial.1]
      · simp [process, outputs.pointers (by simpa using some_yet)]
  | sensorsUpdated pipeline =>
    refine kept ?_ ?_ <;> (simp only [step, onSensorsUpdated]; split)
    · rfl
    · unfold startCap; split <;> rfl
    · rfl
    · unfold startCap; split <;> rfl
  | _ => exact kept rfl rfl

/-- Whatever else happens, a resize shows the image of the constructor before the
first frame, nothing after the first one, and from the second one on what
`undistortMat` made of the latest; a frame itself is always shown as it was
captured. -/
theorem resize_shows_output (cv : OpenCV μ P Q) (camHolder : CamSettingsHolder.State μ P Q)
    (events : List (Event μ P Q)) :
    (run (step cv) (start camHolder) (events ++ [.resizeEvent])).outLabel
        = outputAfter (trace (step cv) (undistorted cv) (start camHolder) events) ∧
    ∀ image, latestFrame (run (step cv) (start camHolder) events) = some image →
      (run (step cv) (start camHolder) (events ++ [.frameUpdate])).outLabel
        = some (.frame image) := by
  have initial : Outputs [] (start camHolder) :=
    ⟨rfl, fun _ => ⟨rfl, by simp [start]⟩, fun some_yet => absurd rfl some_yet⟩
  have kept : ∀ pictures (s : State μ P Q) e, Outputs pictures s →
      Outputs (pictures ++ undistorted cv s e) (step cv s e) :=
    fun _ _ e outputs => step_outputs outputs e
  have outputs := trace_invariant kept initial events
  rw [run_concat, run_concat]
  refine ⟨outputs.output, fun image latest => ?_⟩
  simp only [step, frameUpdate, latest, showFrame]

end CaptureFrames
