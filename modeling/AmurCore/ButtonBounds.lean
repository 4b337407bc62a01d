import AmurCore.JoystickLoss

/-!
# Indices into the button vectors

Which elements of `buttonVector` the slots and the timer use, and whether they
are there. The vector is empty until the worker thread has constructed
`GetStateByJoystick`, while accepting the dialog already lets the timer use it;
afterwards it has 30 elements, and a device may report more buttons than that.
-/

namespace ButtonBounds

open EventRuns JoystickInput ManualControl

/-- An index that a function uses, and the size that the vector has then. -/
structure Access where
  index : Int
  size : Nat

def Access.Inside (a : Access) : Prop := 0 ≤ a.index ∧ a.index.toNat < a.size

section Accesses
variable {α : Type}

/-- The accesses of `checkChangeRelayButton` and of `checkChangeLightButton`. -/
def buttonCheck (buttonNumber : Int) (joyState lastJoyState : JoyState) : List Access :=
  [⟨buttonNumber, joyState.buttonVector.length⟩, ⟨buttonNumber, lastJoyState.buttonVector.length⟩]

/-- The copy that an update with a joystick compares with. -/
def comparedState (joyState : JoyState) (m : Control) : JoyState :=
  if m.lastJoyState.joyId < 0 then joyState else m.lastJoyState

/-- All accesses of an event, in their order. -/
def accesses (s : State α) : Event → List Access
  | .button id _ =>
    ⟨id, s.joyState.buttonVector.length⟩ ::
      (List.range maxJoystickButtons).map fun i : Nat => ⟨(i : Int), s.joyState.buttonVector.length⟩
  | .update =>
    if s.joyState.joyId < 0 then []
    else
      buttonCheck relayButton s.joyState (comparedState s.joyState s.manual) ++
        buttonCheck lightButton s.joyState (comparedState s.joyState s.manual)
  | .accept _ | .construct | .axis _ _ | .hat _ _ | .disconnect => []

def InBounds (s : State α) (e : Event) : Prop := ∀ a ∈ accesses s e, a.Inside

/-! ### Steps -/

theorem inBounds_of_no_access {s : State α} {e : Event} (none_made : accesses s e = []) :
    InBounds s e := by
  rw [InBounds, none_made]
  exact List.forall_mem_nil _

theorem writeButton_isSome (vector : List Bool) (i : Int) (state : Bool) :
    (writeButton vector i state).isSome ↔ Access.Inside ⟨i, vector.length⟩ := by
  unfold writeButton
  split
  · rename_i inside
    exact iff_of_true rfl inside
  · rename_i outside
    exact iff_of_false (fun h => nomatch h) outside

theorem readButton_isSome (vector : List Bool) (i : Int) :
    (readButton vector i).isSome ↔ Access.Inside ⟨i, vector.length⟩ := by
  unfold readButton
  split
  · rename_i nonneg
    simp [Access.Inside, nonneg]
  · rename_i negative
    exact iff_of_false (fun h => nomatch h) fun inside => negative inside.1

theorem checkChangeButton_isSome (buttonNumber : Int)
    (onChange : Bool → RobotMessages.Controls α → RobotMessages.Controls α)
    (joyState lastJoyState : JoyState) (c : RobotMessages.Controls α) :
    (checkChangeButton buttonNumber onChange joyState lastJoyState c).isSome ↔
      ∀ a ∈ buttonCheck buttonNumber joyState lastJoyState, a.Inside := by
  have both : (∀ a ∈ buttonCheck buttonNumber joyState lastJoyState, a.Inside) ↔
      (readButton joyState.buttonVector buttonNumber).isSome ∧
        (readButton lastJoyState.buttonVector buttonNumber).isSome := by
    rw [readButton_isSome, readButton_isSome]
    simp [buttonCheck]
  rw [both, checkChangeButton]
  cases readButton joyState.buttonVector buttonNumber with
  | none => simp
  | some state =>
    cases readButton lastJoyState.buttonVector buttonNumber with
    | none => simp
    | some last => simp

theorem update_isSome (joyState : JoyState) (m : Control) (c : RobotMessages.Controls α) :
    (update joyState m c).isSome ↔ joyState.joyId < 0 ∨
      (∀ a ∈ buttonCheck relayButton joyState (comparedState joyState m), a.Inside) ∧
      ∀ a ∈ buttonCheck lightButton joyState (comparedState joyState m), a.Inside := by
  have compared : (if m.lastJoyState.joyId < 0 then joyState else m.lastJoyState)
      = comparedState joyState m := rfl
  by_cases lost : joyState.joyId < 0
  · simp [update, lost]
  · have relay : (checkChangeRelayButton relayButton joyState (comparedState joyState m) c).isSome
        ↔ ∀ a ∈ buttonCheck relayButton joyState (comparedState joyState m), a.Inside :=
      checkChangeButton_isSome _ _ _ _ _
    have light : ∀ c : RobotMessages.Controls α,
        (checkChangeLightButton lightButton joyState (comparedState joyState m) c).isSome
        ↔ ∀ a ∈ buttonCheck lightButton joyState (comparedState joyState m), a.Inside :=
      fun c => checkChangeButton_isSome _ _ _ _ c
    simp only [update, lost, compared, if_false, false_or, ← relay]
    cases checkChangeRelayButton relayButton joyState (comparedState joyState m) c with
    | none => simp
    | some c =>
      rw [← light c]
      cases done : checkChangeLightButton lightButton joyState (comparedState joyState m) c <;>
        simp [done]

theorem writeButton_length {vector written : List Bool} {i : Int} {state : Bool}
    (h : writeButton vector i state = some written) : written.length = vector.length := by
  unfold writeButton at h
  split at h
  · cases h
    exact List.length_set ..
  · cases h

theorem buttonSetup_isSome (id : Int) (state : Bool) (s : JoyState) :
    (buttonSetup id state s).isSome ↔
      Access.Inside ⟨id, s.buttonVector.length⟩ ∧ maxJoystickButtons ≤ s.buttonVector.length := by
  rw [← writeButton_isSome _ _ state, buttonSetup]
  cases written : writeButton s.buttonVector id state with
  | none => simp
  | some buttonVector =>
    by_cases large : maxJoystickButtons ≤ s.buttonVector.length <;>
      simp [writeButton_length written, large]

theorem buttonSetup_frame {id : Int} {state : Bool} {s s' : JoyState}
    (h : buttonSetup id state s = some s') :
    s'.joyId = s.joyId ∧ s'.buttonVector.length = s.buttonVector.length := by
  unfold buttonSetup at h
  split at h
  · cases h
  · rename_i written
    split at h
    · cases h
      exact ⟨rfl, writeButton_length written⟩
    · cases h

theorem inBounds_button (s : State α) (id : Int) (state : Bool) :
    InBounds s (.button id state) ↔ Access.Inside ⟨id, s.joyState.buttonVector.length⟩ ∧
      maxJoystickButtons ≤ s.joyState.buttonVector.length := by
  rw [InBounds, accesses, List.forall_mem_cons, List.forall_mem_map]
  refine and_congr_right fun _ => ?_
  simp only [List.mem_range, Access.Inside]
  constructor
  · intro all
    exact (all 29 (by decide)).2
  · intro large i small
    exact ⟨Int.natCast_nonneg i, Nat.lt_of_lt_of_le small large⟩

theorem inBounds_update (s : State α) : InBounds s .update ↔ s.joyState.joyId < 0 ∨
    (∀ a ∈ buttonCheck relayButton s.joyState (comparedState s.joyState s.manual), a.Inside) ∧
    ∀ a ∈ buttonCheck lightButton s.joyState (comparedState s.joyState s.manual), a.Inside := by
  rw [InBounds, accesses]
  by_cases lost : s.joyState.joyId < 0
  · simp [lost]
  · rw [if_neg lost, List.forall_mem_append]
    simp [lost]

/-- A step has a defined result exactly if all its accesses are in bounds. -/
theorem step_isSome_iff (s : State α) (e : Event) : (step s e).isSome ↔ InBounds s e := by
  cases e with
  | button id state =>
    rw [inBounds_button, ← buttonSetup_isSome id state, step]
    cases buttonSetup id state s.joyState <;> rfl
  | update =>
    rw [inBounds_update, ← update_isSome _ _ s.controls, step]
    cases update s.joyState s.manual s.controls <;> rfl
  | accept joyId => exact iff_of_true rfl (inBounds_of_no_access rfl)
  | construct => exact iff_of_true rfl (inBounds_of_no_access rfl)
  | axis id state => exact iff_of_true rfl (inBounds_of_no_access rfl)
  | hat id state => exact iff_of_true rfl (inBounds_of_no_access rfl)
  | disconnect => exact iff_of_true rfl (inBounds_of_no_access rfl)

theorem axisSetup_frame (id state : Int) (s : JoyState) :
    (axisSetup id state s).joyId = s.joyId ∧
      (axisSetup id state s).buttonVector = s.buttonVector := by
  unfold axisSetup
  split <;> exact ⟨rfl, rfl⟩

/-- A tick copies the joystick state when there is a joystick, and leaves it. -/
theorem update_frame {s t : State α} (h : step s .update = some t) :
    t.joyState = s.joyState ∧ t.manual.lastJoyState =
      if s.joyState.joyId < 0 then s.manual.lastJoyState else s.joyState := by
  simp only [step] at h
  split at h
  · cases h
  · rename_i updated
    cases h
    refine ⟨rfl, ?_⟩
    by_cases lost : s.joyState.joyId < 0
    · rw [update_disconnected lost] at updated
      cases updated
      rw [if_pos lost]
    · rw [if_neg lost]
      exact (JoystickLoss.update_connected lost updated).1

/-! ### The vectors along a run -/

/-- The identifier that an event leaves in `joyState`. -/
def setsJoyId : Event → Option Int
  | .accept joyId => some joyId
  | .disconnect => some (-1)
  | .construct | .axis _ _ | .hat _ _ | .button _ _ | .update => none

def joyIdAfter (events : List Event) : Int := (latest setsJoyId events).getD (-1)

/-- The condition on an event: a button is one of the 30 and comes from an opened
joystick, and a tick that finds a joystick comes after it was opened. -/
def AfterConstruct (before : List Event) : Event → Prop
  | .button id _ => .construct ∈ before ∧ 0 ≤ id ∧ id < 30
  | .update => 0 ≤ joyIdAfter before → .construct ∈ before
  | .accept _ | .construct | .axis _ _ | .hat _ _ | .disconnect => True

/-- What a run without an access out of bounds leaves of the vectors. -/
structure Sized (before : List Event) (s : State α) : Prop where
  joyId : s.joyState.joyId = joyIdAfter before
  vector : s.joyState.buttonVector.length = if .construct ∈ before then 30 else 0
  last : s.manual.lastJoyState.joyId < 0 ∨ s.manual.lastJoyState.buttonVector.length = 30

theorem sized_start : Sized [] (start : State α) := by
  refine ⟨rfl, rfl, .inl ?_⟩
  change (-1 : Int) < 0
  decide

theorem comparedState_length {before : List Event} {s : State α} (sized : Sized before s)
    (opened : .construct ∈ before) :
    (comparedState s.joyState s.manual).buttonVector.length = 30 := by
  rw [comparedState]
  split
  · rw [sized.vector, if_pos opened]
  · rename_i known
    exact sized.last.resolve_left known

theorem inBounds_iff {before : List Event} {s : State α} (sized : Sized before s) (e : Event) :
    InBounds s e ↔ AfterConstruct before e := by
  have vector := sized.vector
  cases e with
  | button id state =>
    rw [inBounds_button, AfterConstruct, vector]
    by_cases opened : .construct ∈ before
    · simp only [opened, if_true, true_and]
      constructor
      · rintro ⟨⟨nonneg, small⟩, -⟩
        exact ⟨nonneg, (Int.toNat_lt nonneg).mp small⟩
      · rintro ⟨nonneg, small⟩
        exact ⟨⟨nonneg, (Int.toNat_lt nonneg).mpr small⟩, le_refl _⟩
    · simp only [opened, if_false, false_and, iff_false]
      rintro ⟨-, large⟩
      exact absurd large (by decide)
  | update =>
    rw [inBounds_update, AfterConstruct, ← sized.joyId]
    by_cases opened : .construct ∈ before
    · rw [if_pos opened] at vector
      refine iff_of_true (.inr ?_) fun _ => opened
      simp [buttonCheck, Access.Inside, vector, comparedState_length sized opened, relayButton,
        lightButton]
    · rw [if_neg opened] at vector
      simp [buttonCheck, Access.Inside, vector, opened]
  | accept joyId => exact iff_of_true (inBounds_of_no_access rfl) trivial
  | construct => exact iff_of_true (inBounds_of_no_access rfl) trivial
  | axis id state => exact iff_of_true (inBounds_of_no_access rfl) trivial
  | hat id state => exact iff_of_true (inBounds_of_no_access rfl) trivial
  | disconnect => exact iff_of_true (inBounds_of_no_access rfl) trivial

/-- An event that neither accepts, loses nor opens a joystick. -/
theorem Sized.concat {before : List Event} {s t : State α} {e : Event} (sized : Sized before s)
    (sets : setsJoyId e = none) (opens : .construct ≠ e)
    (joyId : t.joyState.joyId = s.joyState.joyId)
    (vector : t.joyState.buttonVector.length = s.joyState.buttonVector.length)
    (last : t.manual.lastJoyState.joyId < 0 ∨ t.manual.lastJoyState.buttonVector.length = 30) :
    Sized (before ++ [e]) t := by
  refine ⟨?_, ?_, last⟩
  · rw [joyId, sized.joyId, joyIdAfter, joyIdAfter, latest_concat, sets, Option.none_or]
  · simp only [vector, sized.vector, List.mem_append, List.mem_singleton, opens, or_false]

/-- An event that sets the identifier leaves the vectors. -/
theorem Sized.concat_joyId {before : List Event} {s t : State α} {e : Event}
    (sized : Sized before s) (sets : setsJoyId e = some t.joyState.joyId) (opens : .construct ≠ e)
    (vector : t.joyState.buttonVector.length = s.joyState.buttonVector.length)
    (manual : t.manual = s.manual) : Sized (before ++ [e]) t := by
  refine ⟨?_, ?_, manual ▸ sized.last⟩
  · rw [joyIdAfter, latest_concat, sets]
    rfl
  · simp only [vector, sized.vector, List.mem_append, List.mem_singleton, opens, or_false]

theorem step_sized {before : List Event} {s t : State α} {e : Event} (sized : Sized before s)
    (h : step s e = some t) : Sized (before ++ [e]) t := by
  cases e with
  | accept id =>
    cases h
    exact sized.concat_joyId rfl (fun other => Event.noConfusion other) rfl rfl
  | disconnect =>
    cases h
    exact sized.concat_joyId rfl (fun other => Event.noConfusion other) rfl rfl
  | construct =>
    cases h
    refine ⟨?_, ?_, sized.last⟩
    · rw [joyIdAfter, latest_concat]
      exact sized.joyId
    · rw [if_pos (List.mem_append_right _ (List.mem_singleton_self _))]
      exact List.length_replicate
  | hat id state =>
    cases h
    exact sized.concat rfl (fun other => Event.noConfusion other) rfl rfl sized.last
  | axis id state =>
    cases h
    obtain ⟨joyId, vector⟩ := axisSetup_frame id state s.joyState
    exact sized.concat rfl (fun other => Event.noConfusion other) joyId (congrArg _ vector)
      sized.last
  | button id state =>
    simp only [step] at h
    split at h
    · cases h
    · rename_i written
      cases h
      obtain ⟨joyId, vector⟩ := buttonSetup_frame written
      exact sized.concat rfl (fun other => Event.noConfusion other) joyId vector sized.last
  | update =>
    have inBounds : InBounds s .update := by
      rw [← step_isSome_iff, h]
      rfl
    obtain ⟨same, last⟩ := update_frame h
    refine sized.concat rfl (fun other => Event.noConfusion other) (congrArg _ same)
      (by rw [same]) ?_
    by_cases lost : s.joyState.joyId < 0
    · rw [last, if_pos lost]
      exact sized.last
    · -- a tick that sampled a joystick read its vector, which had been opened
      have opened := (inBounds_iff sized .update).mp inBounds
        (by rw [← sized.joyId]; exact Int.not_lt.mp lost)
      rw [last, if_neg lost, sized.vector, if_pos opened]
      exact .inr rfl

theorem reaches_sized {events : List Event} {s : State α} (reached : Reaches events s) :
    Sized events s := by
  induction events using List.reverseRecOn generalizing s with
  | nil =>
    cases reached
    exact sized_start
  | append_singleton before e ih =>
    obtain ⟨u, reached, last⟩ := run_lift_concat reached
    exact step_sized (ih reached) last

/-- A run without an access out of bounds reaches a state. -/
theorem exists_reaches {events : List Event}
    (inside : Along (fun before e => ∀ s : State α, Reaches before s → InBounds s e) events) :
    ∃ s : State α, Reaches events s := by
  induction events using List.reverseRecOn with
  | nil => exact ⟨start, rfl⟩
  | append_singleton before e ih =>
    obtain ⟨earlier, here⟩ := along_concat.mp inside
    obtain ⟨s, reached⟩ := ih earlier
    have defined : (step s e).isSome := (step_isSome_iff s e).mpr (here s reached)
    obtain ⟨t, h⟩ := Option.isSome_iff_exists.mp defined
    refine ⟨t, ?_⟩
    rw [Reaches] at reached ⊢
    rw [run_concat, reached]
    exact h

/-- Every index of a run is in bounds exactly when each button event is one of
the 30 buttons of an opened joystick, and each tick that finds a joystick comes
after its opening. -/
theorem buttons_inBounds_iff (events : List Event) :
    Along (fun before e => ∀ s : State α, Reaches before s → InBounds s e) events ↔
      Along AfterConstruct events := by
  refine along_iff_along ?_ events
  intro before e inside
  obtain ⟨s, reached⟩ := exists_reaches inside
  rw [← inBounds_iff (reaches_sized reached) e]
  constructor
  · exact fun all => all s reached
  · intro here t other
    rw [Reaches, reached] at other
    cases other
    exact here

/-- The timer runs between accepting the joystick and its opening by the other
thread. -/
theorem tick_before_construct : ¬∀ events : List Event,
    Along (fun before e => ∀ s : State Unit, Reaches before s → InBounds s e) events := by
  intro claimed
  have inside := claimed [.accept 0, .update] [.accept 0] .update [] rfl _ rfl
  exact absurd (inside ⟨relayButton, 0⟩ (List.mem_cons_self ..)).2 (Nat.not_lt_zero _)

end Accesses

end ButtonBounds
