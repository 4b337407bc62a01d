import AmurCore.ButtonBounds

/-!
# Relays and light

Both button checks write their outputs only when the button differs from the
copy of the joystick state that the last update left. The first update with a
joystick has no such copy and compares the state with itself, so it leaves off
the output of a button that is held then. Where it finds both released, every
later update leaves the outputs as the buttons.
-/

namespace ButtonOutputs

open EventRuns JoystickInput RobotMessages ManualControl ButtonBounds

section Outputs
variable {α : Type} {s t : State α} {c c' : Controls α}

/-- The left and the right relay. -/
def relays (c : Controls α) : Bool × Bool :=
  ((c.handMotors.getD .empty).leftRelay, (c.handMotors.getD .empty).rightRelay)

/-- The power of the left and of the right light. -/
def leds (c : Controls α) : Nat × Nat :=
  ((c.light.getD .empty).ledLeftPower, (c.light.getD .empty).ledRightPower)

def relaysFor (state : Bool) : Bool × Bool := (state, state)

def ledsFor (state : Bool) : Nat × Nat := (255 * state.toNat, 255 * state.toNat)

/-- Relays and light are as the two buttons of a joystick state. -/
def Follows (c : Controls α) (joyState : JoyState) : Prop :=
  ∃ relay light, readButton joyState.buttonVector relayButton = some relay ∧
    readButton joyState.buttonVector lightButton = some light ∧
    relays c = relaysFor relay ∧ leds c = ledsFor light

/-- Neither button is held. -/
def Released (joyState : JoyState) : Prop :=
  readButton joyState.buttonVector relayButton ≠ some true ∧
    readButton joyState.buttonVector lightButton ≠ some true

/-! ### One update -/

/-- What a check leaves of an output, given that of the copy it compares with. -/
def checked {V : Type} (valueFor : Bool → V) (state last : Bool) (before : V) : V :=
  if state ≠ last then valueFor state else before

theorem checked_of_follows {V : Type} (valueFor : Bool → V) (state last : Bool) :
    checked valueFor state last (valueFor last) = valueFor state := by
  unfold checked
  split
  · rfl
  · rename_i same
    rw [not_not.mp same]

theorem checked_self {V : Type} (valueFor : Bool → V) (state : Bool) (before : V) :
    checked valueFor state state before = before :=
  if_neg fun differs => differs rfl

theorem checkChangeButton_some {n : Int} {onChange : Bool → Controls α → Controls α}
    {joyState last : JoyState} (h : checkChangeButton n onChange joyState last c = some c') :
    ∃ state lastState, readButton joyState.buttonVector n = some state ∧
      readButton last.buttonVector n = some lastState ∧
      c' = checked (fun state => onChange state c) state lastState c := by
  unfold checkChangeButton at h
  split at h
  · rename_i state lastState read readLast
    cases h
    exact ⟨state, lastState, read, readLast, rfl⟩
  · cases h

theorem checkChangeRelayButton_some {joyState last : JoyState}
    (h : checkChangeRelayButton relayButton joyState last c = some c') :
    ∃ state lastState, readButton joyState.buttonVector relayButton = some state ∧
      readButton last.buttonVector relayButton = some lastState ∧
      relays c' = checked relaysFor state lastState (relays c) ∧ leds c' = leds c := by
  obtain ⟨state, lastState, read, readLast, rfl⟩ := checkChangeButton_some h
  refine ⟨state, lastState, read, readLast, ?_⟩
  unfold checked
  split <;> exact ⟨rfl, rfl⟩

theorem checkChangeLightButton_some {joyState last : JoyState}
    (h : checkChangeLightButton lightButton joyState last c = some c') :
    ∃ state lastState, readButton joyState.buttonVector lightButton = some state ∧
      readButton last.buttonVector lightButton = some lastState ∧
      leds c' = checked ledsFor state lastState (leds c) ∧ relays c' = relays c := by
  obtain ⟨state, lastState, read, readLast, rfl⟩ := checkChangeButton_some h
  refine ⟨state, lastState, read, readLast, ?_⟩
  unfold checked
  split <;> exact ⟨rfl, rfl⟩

/-- What an update with a joystick makes of relays and light. -/
theorem update_checked {joyState : JoyState} {m m' : Control} (connected : ¬joyState.joyId < 0)
    (h : update joyState m c = some (m', c')) :
    ∃ relay lastRelay light lastLight,
      (readButton joyState.buttonVector relayButton = some relay ∧
        readButton (comparedState joyState m).buttonVector relayButton = some lastRelay ∧
        relays c' = checked relaysFor relay lastRelay (relays c)) ∧
      readButton joyState.buttonVector lightButton = some light ∧
      readButton (comparedState joyState m).buttonVector lightButton = some lastLight ∧
      leds c' = checked ledsFor light lastLight (leds c) := by
  rw [update, if_neg connected] at h
  dsimp only at h
  split at h
  · cases h
  · rename_i c₁ first
    split at h
    · cases h
    · rename_i c₂ second
      -- the three commands that follow write neither relays nor light
      cases h
      obtain ⟨relay, lastRelay, readRelay, readLastRelay, relays₁, leds₁⟩ :=
        checkChangeRelayButton_some first
      obtain ⟨light, lastLight, readLight, readLastLight, leds₂, relays₂⟩ :=
        checkChangeLightButton_some second
      refine ⟨relay, lastRelay, light, lastLight, ⟨readRelay, readLastRelay, ?_⟩,
        readLight, readLastLight, ?_⟩
      · exact relays₂.trans relays₁
      · rw [← leds₁]
        exact leds₂

/-- The first update with a joystick finds no change and leaves relays and light. -/
theorem update_first {joyState : JoyState} {m m' : Control} (connected : ¬joyState.joyId < 0)
    (first : m.lastJoyState.joyId < 0) (h : update joyState m c = some (m', c')) :
    (∃ relay light, readButton joyState.buttonVector relayButton = some relay ∧
      readButton joyState.buttonVector lightButton = some light) ∧
    relays c' = relays c ∧ leds c' = leds c := by
  have itself : comparedState joyState m = joyState := if_pos first
  obtain ⟨relay, lastRelay, light, lastLight, ⟨readRelay, readLastRelay, relays'⟩, readLight,
    readLastLight, leds'⟩ := update_checked connected h
  rw [itself, readRelay] at readLastRelay
  rw [itself, readLight] at readLastLight
  cases readLastRelay
  cases readLastLight
  rw [checked_self] at relays' leds'
  exact ⟨⟨relay, light, readRelay, readLight⟩, relays', leds'⟩

/-- Every later one brings outputs up to date that were so at the one before. -/
theorem update_later {joyState : JoyState} {m m' : Control} (connected : ¬joyState.joyId < 0)
    (known : ¬m.lastJoyState.joyId < 0) (before : Follows c m.lastJoyState)
    (h : update joyState m c = some (m', c')) : Follows c' joyState := by
  have copy : comparedState joyState m = m.lastJoyState := if_neg known
  obtain ⟨relay, lastRelay, light, lastLight, ⟨readRelay, readLastRelay, relays'⟩, readLight,
    readLastLight, leds'⟩ := update_checked connected h
  obtain ⟨oldRelay, oldLight, readOldRelay, readOldLight, oldRelays, oldLeds⟩ := before
  rw [copy, readOldRelay] at readLastRelay
  rw [copy, readOldLight] at readLastLight
  cases readLastRelay
  cases readLastLight
  rw [oldRelays, checked_of_follows] at relays'
  rw [oldLeds, checked_of_follows] at leds'
  exact ⟨relay, light, readRelay, readLight, relays', leds'⟩

/-! ### Runs -/

/-- Before the first update with a joystick relays and light are off, after it
they are as the last one sampled the buttons. -/
structure Settled (s : State α) : Prop where
  off : s.manual.lastJoyState.joyId < 0 →
    relays s.controls = relaysFor false ∧ leds s.controls = ledsFor false
  follows : ¬s.manual.lastJoyState.joyId < 0 → Follows s.controls s.manual.lastJoyState

theorem settled_start : Settled (start : State α) := by
  have none_yet : (start : State α).manual.lastJoyState.joyId < 0 := by
    change (-1 : Int) < 0
    decide
  exact ⟨fun _ => ⟨rfl, rfl⟩, fun known => absurd none_yet known⟩

/-- A step keeps that, an update with a joystick if its outputs follow the buttons. -/
theorem step_settled {e : Event} (settled : Settled s) (h : step s e = some t)
    (follows : e = .update → ¬s.joyState.joyId < 0 → Follows t.controls t.joyState) :
    Settled t := by
  rcases step_cases h with ⟨manual, controls⟩ | ⟨isUpdate, connected, same, updated⟩
  · constructor
    · rw [manual, controls]
      exact settled.off
    · rw [manual, controls]
      exact settled.follows
  · have last : t.manual.lastJoyState = s.joyState :=
      (JoystickLoss.update_connected connected updated).1
    constructor
    · rw [last]
      exact fun none_yet => absurd none_yet connected
    · rw [last, ← same]
      exact fun _ => follows isUpdate connected

/-- After the update relays and light are as the buttons. -/
def FollowsAt (α : Type) (before : List Event) (e : Event) : Prop :=
  ∀ s t : State α, Reaches before s → e = .update → ¬s.joyState.joyId < 0 →
    step s e = some t → Follows t.controls t.joyState

/-- The condition on an update with a joystick: the first one finds both buttons
released. -/
def ReleasedAtFirst (α : Type) (before : List Event) (e : Event) : Prop :=
  ∀ s : State α, Reaches before s → e = .update → ¬s.joyState.joyId < 0 →
    s.manual.lastJoyState.joyId < 0 → Released s.joyState

theorem reaches_settled {events : List Event} (held : Along (FollowsAt α) events)
    (reached : Reaches events s) : Settled s := by
  have kept : ∀ before e (u t : State α), run (lift step) (some start) before = some u →
      FollowsAt α before e → step u e = some t → Settled u → Settled t :=
    fun before e u t reached follows h settled =>
      step_settled settled h fun isUpdate connected => follows u t reached isUpdate connected h
  exact run_lift_invariant_along kept settled_start held reached

theorem relaysFor_injective {a b : Bool} (h : relaysFor a = relaysFor b) : a = b :=
  congrArg Prod.fst h

theorem ledsFor_injective {a b : Bool} (h : ledsFor a = ledsFor b) : a = b := by
  revert h
  cases a <;> cases b <;> decide

/-- Outputs that are off are as the buttons exactly when these are released. -/
theorem follows_off_iff {joyState : JoyState} {relay light : Bool}
    (readRelay : readButton joyState.buttonVector relayButton = some relay)
    (readLight : readButton joyState.buttonVector lightButton = some light)
    (off : relays c = relaysFor false ∧ leds c = ledsFor false) :
    Follows c joyState ↔ Released joyState := by
  rw [Released, readRelay, readLight]
  constructor
  · rintro ⟨relay', light', readRelay', readLight', relays', leds'⟩
    rw [readRelay] at readRelay'
    rw [readLight] at readLight'
    cases readRelay'
    cases readLight'
    rw [off.1] at relays'
    rw [off.2] at leds'
    rw [← relaysFor_injective relays', ← ledsFor_injective leds']
    exact ⟨by decide, by decide⟩
  · rintro ⟨relayUp, lightUp⟩
    have relayOff : relay = false := by simpa using relayUp
    have lightOff : light = false := by simpa using lightUp
    subst relayOff lightOff
    exact ⟨false, false, readRelay, readLight, off.1, off.2⟩

/-- An update that indexes a vector out of its bounds finds no button at all. -/
theorem released_of_undefined {before : List Event} (reached : Reaches before s)
    (undefined : step s .update = none) : Released s.joyState := by
  have sized := reaches_sized reached
  have outside : ¬InBounds s .update := by
    rw [← step_isSome_iff, undefined]
    exact Bool.false_ne_true
  have unopened : ¬.construct ∈ before := fun opened =>
    outside ((inBounds_iff sized .update).mpr fun _ => opened)
  have empty : s.joyState.buttonVector = [] := by
    rw [← List.length_eq_zero_iff, sized.vector, if_neg unopened]
  rw [Released, empty]
  exact ⟨by decide, by decide⟩

/-- Relays and light are as their buttons after every update with a joystick
exactly when the first of these updates finds both buttons released. -/
theorem outputs_follow_iff (events : List Event) :
    Along (FollowsAt α) events ↔ Along (ReleasedAtFirst α) events := by
  refine along_iff_along ?_ events
  intro before e held
  have settled : ∀ s : State α, Reaches before s → Settled s := fun s => reaches_settled held
  constructor
  · rintro follows s reached rfl connected first
    cases h : step s .update with
    | none => exact released_of_undefined reached h
    | some t =>
      have shown := follows s t reached rfl connected h
      obtain ⟨manual, controls, updated, rfl⟩ := step_update h
      obtain ⟨⟨relay, light, readRelay, readLight⟩, relays', leds'⟩ :=
        update_first connected first updated
      have off := (settled s reached).off first
      rw [← relays', ← leds'] at off
      exact (follows_off_iff readRelay readLight off).mp shown
  · rintro released s t reached rfl connected h
    obtain ⟨manual, controls, updated, rfl⟩ := step_update h
    by_cases first : s.manual.lastJoyState.joyId < 0
    · obtain ⟨⟨relay, light, readRelay, readLight⟩, relays', leds'⟩ :=
        update_first connected first updated
      have off := (settled s reached).off first
      rw [← relays', ← leds'] at off
      exact (follows_off_iff readRelay readLight off).mpr (released s reached rfl connected first)
    · exact update_later connected first ((settled s reached).follows first) updated

/-- Both buttons are held when the joystick is sampled for the first time. -/
theorem held_buttons_ignored : ¬∀ events : List Event, Along (FollowsAt Unit) events := by
  intro claimed
  have follows := claimed [.accept 0, .construct, .button 5 true, .button 0 true, .update]
    [.accept 0, .construct, .button 5 true, .button 0 true] .update [] rfl
  obtain ⟨relay, light, readRelay, -, relays', -⟩ := follows _ _ rfl rfl (by decide) rfl
  have held : relay = true := Option.some.inj (readRelay.symm.trans (by decide))
  subst held
  revert relays'
  decide

end Outputs

end ButtonOutputs
