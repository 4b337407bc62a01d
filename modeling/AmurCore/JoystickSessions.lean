import AmurCore.JoystickDialogModel

/-!
# Sessions of the joystick dialog

The dialog keeps its identifier from one opening to the next: accepting it
publishes the joystick that was last tried, whether that could be opened and is
still connected or not. What the dialog shows agrees with its adapter as long as
joysticks are closed while they are attached, and have a player index.
-/

namespace JoystickSessions

open EventRuns JoystickDialogModel

variable {s t : State} {e : Event} {devices : List Device}
  {opens : Bool} {id : Int}

/-! ### What the functions change -/

theorem loadJoy_eq (opens : Bool) (id : Int) (s : State) :
    ∃ joystick connections,
      (loadJoy opens id s).2 = { s with joystick := joystick, connections := connections } := by
  rw [loadJoy, openAdapter]
  cases isConnected s with
  | true => exact ⟨s.joystick, s.connections, rfl⟩
  | false =>
    cases joystickOpen s.devices opens id with
    | none => exact ⟨none, s.connections, rfl⟩
    | some device => exact ⟨some device, s.connections + 1, rfl⟩

theorem showJoystick_eq (s : State) : ∃ information labels enabled, showJoystick s =
    { s with information := information, labels := labels, enabled := enabled } := by
  rw [showJoystick]
  split
  · exact ⟨_, _, s.enabled, rfl⟩
  · split
    · exact ⟨_, _, s.enabled, rfl⟩
    · exact ⟨_, s.labels, _, rfl⟩

theorem setDialog_eq (opens : Bool) (s : State) :
    ∃ joystick connections information labels enabled, setDialog opens s =
      { s with
        joystick := joystick
        connections := connections
        information := information
        labels := labels
        enabled := enabled } := by
  rw [setDialog]
  split
  · obtain ⟨joystick, connections, loaded⟩ := loadJoy_eq opens s.published s
    obtain ⟨information, labels, enabled, shown⟩ := showJoystick_eq (loadJoy opens s.published s).2
    rw [shown, loaded]
    exact ⟨joystick, connections, information, labels, enabled, rfl⟩
  · obtain ⟨information, labels, enabled, shown⟩ := showJoystick_eq s
    rw [shown]
    exact ⟨s.joystick, s.connections, information, labels, enabled, rfl⟩

/-- What a connection leaves to the slots and to the accepting of the dialog. -/
structure Keeps (s t : State) : Prop where
  published : t.published = s.published
  buttonVector : t.buttonVector = s.buttonVector
  calls : t.calls = s.calls

theorem setDialog_keeps (opens : Bool) (s : State) :
    Keeps s (setDialog opens s) ∧ (setDialog opens s).joyId = s.joyId := by
  obtain ⟨joystick, connections, information, labels, enabled, result⟩ := setDialog_eq opens s
  rw [result]
  exact ⟨⟨rfl, rfl, rfl⟩, rfl⟩

/-- The dialog tries the joystick of an entry. -/
def trying (i : Nat) (s : State) : State := { s with joyId := some (i : Int) }

theorem connectToJoystick_of_none (opens : Bool) (chosen : s.currentIndex = none) :
    connectToJoystick opens s = setDialog opens s := by
  rw [connectToJoystick, chosen]

theorem connectToJoystick_of_some (opens : Bool) {i : Nat} (chosen : s.currentIndex = some i) :
    connectToJoystick opens s =
      if (loadJoy opens i (trying i s)).1 ≠ 0 then (loadJoy opens i (trying i s)).2
      else setDialog opens (loadJoy opens i (trying i s)).2 := by
  rw [connectToJoystick]
  split
  · rename_i none_chosen
    rw [chosen] at none_chosen
    cases none_chosen
  · rename_i j found
    rw [chosen] at found
    cases found
    rfl

theorem connectToJoystick_keeps (opens : Bool) (s : State) :
    Keeps s (connectToJoystick opens s) ∧
      (connectToJoystick opens s).joyId = (s.currentIndex.map Int.ofNat).or s.joyId := by
  cases chosen : s.currentIndex with
  | none =>
    rw [connectToJoystick_of_none opens chosen]
    exact setDialog_keeps opens s
  | some i =>
    obtain ⟨joystick, connections, loaded⟩ := loadJoy_eq opens i (trying i s)
    rw [connectToJoystick_of_some opens chosen, loaded]
    split
    · exact ⟨⟨rfl, rfl, rfl⟩, rfl⟩
    · obtain ⟨⟨published, buttonVector, calls⟩, joyId⟩ := setDialog_keeps opens
        { trying i s with joystick := joystick, connections := connections }
      exact ⟨⟨published, buttonVector, calls⟩, joyId⟩

theorem disconnectFromJoystick_keeps (s : State) :
    Keeps s (disconnectFromJoystick s) ∧ (disconnectFromJoystick s).joyId = s.joyId := by
  rw [disconnectFromJoystick]
  split
  · exact ⟨⟨rfl, rfl, rfl⟩, rfl⟩
  · exact ⟨⟨rfl, rfl, rfl⟩, rfl⟩

/-! ### The published joystick -/

/-- The joystick that a click on the button for connecting tries. -/
def attempted (s : State) : Event → List Int
  | .clickConnect _ => (s.currentIndex.map Int.ofNat).toList
  | _ => []

theorem slot_keeps {signal : JoystickAdapter.Signal} (h : slot signal s = some t) :
    t.joyId = s.joyId ∧ t.published = s.published := by
  cases signal with
  | buttonChanged id state =>
    rw [slot] at h
    split at h
    · cases h
    · cases h
      exact ⟨rfl, rfl⟩
  | axisChanged id state =>
    cases h
    exact ⟨rfl, rfl⟩
  | hatChanged id state =>
    cases h
    exact ⟨rfl, rfl⟩
  | ballChanged id stateX stateY =>
    cases h
    exact ⟨rfl, rfl⟩

/-- The identifier of the dialog is written by the button for connecting only. -/
theorem step_joyId (h : step s e = some t) :
    t.joyId = ((attempted s e).getLast?).or s.joyId := by
  cases e with
  | plug devices =>
    cases h
    rfl
  | select i =>
    simp only [step] at h
    split at h
    · cases h
      rfl
    · cases h
  | clickConnect opens =>
    simp only [step] at h
    split at h
    · cases h
      rw [(connectToJoystick_keeps opens s).2, attempted]
      cases s.currentIndex <;> rfl
    · cases h
  | clickDisconnect =>
    simp only [step] at h
    split at h
    · cases h
      exact (disconnectFromJoystick_keeps s).2
    · cases h
  | clickRescan =>
    simp only [step] at h
    split at h
    · cases h
      rfl
    · cases h
  | accept =>
    simp only [step, accepted] at h
    split at h
    · cases h
    · cases h
      exact (disconnectFromJoystick_keeps _).2
  | reject =>
    cases h
    exact (disconnectFromJoystick_keeps s).2
  | emit signal =>
    cases h
    rfl
  | call =>
    simp only [step] at h
    split at h
    · cases h
    · have kept := (slot_keeps h).1
      exact kept

/-- What is published is written by accepting the dialog only. -/
theorem step_published (h : step s e = some t) (other : e ≠ .accept) :
    t.published = s.published := by
  cases e with
  | accept => exact absurd rfl other
  | plug devices =>
    cases h
    rfl
  | select i =>
    simp only [step] at h
    split at h
    · cases h
      rfl
    · cases h
  | clickConnect opens =>
    simp only [step] at h
    split at h
    · cases h
      exact (connectToJoystick_keeps opens s).1.published
    · cases h
  | clickDisconnect =>
    simp only [step] at h
    split at h
    · cases h
      exact (disconnectFromJoystick_keeps s).1.published
    · cases h
  | clickRescan =>
    simp only [step] at h
    split at h
    · cases h
      rfl
    · cases h
  | reject =>
    cases h
    exact (disconnectFromJoystick_keeps s).1.published
  | emit signal =>
    cases h
    rfl
  | call =>
    simp only [step] at h
    split at h
    · cases h
    · have kept := (slot_keeps h).2
      exact kept

theorem accept_published (h : step s .accept = some t) : s.joyId = some t.published := by
  simp only [step, accepted] at h
  split at h
  · cases h
  · rename_i joyId known
    cases h
    rw [known, (disconnectFromJoystick_keeps _).1.published]

theorem start_joyId (devices : List Device) : (start devices).joyId = none :=
  (setDialog_keeps true _).2

/-- The dialog knows the joystick that was tried last. -/
theorem reaches_joyId {events : List Event}
    (reached : Reaches devices events s) :
    s.joyId = (trace (lift step) (lifted attempted) (some (start devices)) events).getLast? := by
  have kept : ∀ (tried : List Int) (s : State) (e : Event) (t : State),
      step s e = some t → s.joyId = tried.getLast? →
        t.joyId = (tried ++ attempted s e).getLast? := by
    intro tried s e t h before
    rw [step_joyId h, before, List.getLast?_append]
  exact trace_lift_invariant kept (start_joyId devices) reached

/-- Once the dialog has been accepted, what is published is the joystick that was
tried last before, in whatever opening of the dialog and with whatever success. -/
theorem published_last_attempt {before after : List Event}
    (last : .accept ∉ after) (reached : Reaches devices (before ++ .accept :: after) s) :
    (trace (lift step) (lifted attempted) (some (start devices)) before).getLast?
      = some s.published := by
  obtain ⟨u, earlier, rest⟩ := run_lift_append reached
  rw [run_cons] at rest
  cases accepts : step u .accept with
  | none =>
    have undefined : lift step (some u) .accept = none := accepts
    rw [undefined, run_lift_none] at rest
    cases rest
  | some v =>
    have defined : lift step (some u) .accept = some v := accepts
    rw [defined] at rest
    have others : Along (fun _ e => e ≠ Event.accept) after :=
      along_of_forall_mem fun e mem same => last (same ▸ mem)
    have kept : ∀ (past : List Event) (e : Event)
        (s t : State), run (lift step) (some v) past = some s → e ≠ .accept →
          step s e = some t → s.published = v.published → t.published = v.published :=
      fun _ e s t _ other h same => (step_published h other).trans same
    have same := run_lift_invariant_along kept rfl others rest
    rw [same, ← accept_published accepts, reaches_joyId earlier]

def pad : Device := ⟨0, "Pad", 0, 2, 1, 0, 12⟩

/-- A joystick that cannot be opened is published all the same. -/
theorem failed_joystick_published : ∃ s, Reaches [pad] ([.clickConnect false] ++ .accept :: []) s ∧
    (trace (lift step) (lifted attempted) (some (start [pad])) [.clickConnect false]).getLast?
      = some s.published :=
  ⟨_, rfl, published_last_attempt List.not_mem_nil rfl⟩

/-! ### What the dialog shows -/

/-- The dialog shows the joystick that its adapter has open, and can be disconnected
exactly when there is one. -/
structure Consistent (s : State) : Prop where
  enabled : s.enabled = if s.joystick.isSome then ⟨false, true, false, false, true, true⟩
    else ⟨true, false, true, true, false, false⟩
  connections : s.connections = if s.joystick.isSome then 1 else 0
  information : s.information = s.joystick.elim defaultInformation describe

/-- The joystick that a click on the button for connecting opens. -/
def target (opens : Bool) (s : State) : Option Device :=
  joystickOpen s.devices opens (s.currentIndex.elim s.published Int.ofNat)

/-- A joystick is closed while it is attached, and has a player index when it is
opened. -/
def Orderly (s : State) : Event → Prop
  | .clickConnect opens => ∀ device, target opens s = some device → 0 ≤ device.playerIndex
  | .clickDisconnect | .accept | .reject => s.joystick.isSome = true → isConnected s = true
  | _ => True

theorem Consistent.congr (consistent : Consistent s) (enabled : t.enabled = s.enabled)
    (joystick : t.joystick = s.joystick) (connections : t.connections = s.connections)
    (information : t.information = s.information) : Consistent t := by
  constructor
  · rw [enabled, joystick]
    exact consistent.enabled
  · rw [connections, joystick]
    exact consistent.connections
  · rw [information, joystick]
    exact consistent.information

/-- Disconnecting. -/
theorem disconnect_consistent_iff (consistent : Consistent s) :
    Consistent (disconnectFromJoystick s) ↔ (s.joystick.isSome = true → isConnected s = true) := by
  cases attached : isConnected s with
  | true =>
    refine ⟨fun _ _ => rfl, fun _ => ?_⟩
    rw [disconnectFromJoystick, if_pos attached]
    exact ⟨rfl, rfl, rfl⟩
  | false =>
    rw [disconnectFromJoystick, if_neg (by rw [attached]; exact Bool.false_ne_true)]
    cases joystick : s.joystick with
    | none =>
      refine ⟨fun _ absent => absurd absent Bool.false_ne_true, fun _ => ⟨?_, ?_, ?_⟩⟩
      · simp only [scanJoystickDevice, setDefaultText]
        rfl
      · have closed := consistent.connections
        simp only [scanJoystickDevice, setDefaultText, joystick] at closed ⊢
        exact closed
      · simp only [scanJoystickDevice, setDefaultText]
        rfl
    | some device =>
      refine ⟨fun shown => ?_, fun attaches => absurd (attaches rfl) Bool.false_ne_true⟩
      -- the buttons are those of a dialog without a joystick
      have enabled := shown.enabled
      simp only [scanJoystickDevice, setDefaultText, Option.isSome_some, if_true] at enabled
      cases enabled

theorem joystickOpen_mem {device : Device} {id : Int}
    (opened : joystickOpen s.devices opens id = some device) : device ∈ s.devices := by
  rw [joystickOpen] at opened
  split at opened
  · exact List.mem_of_getElem? opened
  · cases opened

/-- The joystick is attached once it is opened. -/
theorem isConnected_of_mem {device : Device} (joystick : s.joystick = some device)
    (listed : device ∈ s.devices) : isConnected s = true := by
  rw [isConnected, joystick, Option.any_some]
  exact List.any_eq_true.mpr ⟨device, listed, decide_eq_true rfl⟩

/-- The adapter has tried to open a joystick, and the slots are connected if it has. -/
def afterOpen (joystick : Option Device) (s : State) : State :=
  { s with
    joystick := joystick
    connections := s.connections + joystick.toList.length }

theorem loadJoy_closed (joystick : s.joystick = none) (opens : Bool) (id : Int) :
    loadJoy opens id s = ((if (joystickOpen s.devices opens id).isSome then 0 else -1),
      afterOpen (joystickOpen s.devices opens id) s) := by
  have detached : isConnected s = false := by
    rw [isConnected, joystick]
    rfl
  rw [loadJoy, openAdapter, detached]
  cases joystickOpen s.devices opens id <;> rfl

theorem loadJoy_attached (attached : isConnected s = true) (opens : Bool) (id : Int) :
    (loadJoy opens id s).2 = s := by
  rw [loadJoy, openAdapter, attached]
  rfl

/-- Showing the joystick that has just been opened. -/
theorem showJoystick_consistent_iff {device : Device} (joystick : s.joystick = some device)
    (connections : s.connections = 1)
    (enabled : s.enabled = ⟨true, false, true, true, false, false⟩) :
    Consistent (showJoystick s) ↔ 0 ≤ device.playerIndex := by
  have shown : showJoystick s = if device.playerIndex < 0 then setDefaultText s
      else { s with
        information := describe device
        enabled := ⟨false, true, false, false, true, true⟩ } := by
    rw [showJoystick, joystick]
  rw [shown]
  split
  · rename_i negative
    constructor
    · intro consistent
      have wrong := consistent.enabled
      simp only [setDefaultText, joystick, enabled, Option.isSome_some, if_true] at wrong
      cases wrong
    · intro nonnegative
      exact absurd negative (Int.not_lt.mpr nonnegative)
  · rename_i nonnegative
    refine ⟨fun _ => Int.not_lt.mp nonnegative, fun _ => ⟨?_, ?_, ?_⟩⟩
    · simp only [joystick]
      rfl
    · simp only [joystick, connections]
      rfl
    · simp only [joystick]
      rfl

theorem setDialog_attached (attached : isConnected s = true) (opens : Bool) :
    setDialog opens s = showJoystick s := by
  rw [setDialog]
  split
  · rw [loadJoy_attached attached]
  · rfl

/-- What a dialog without a joystick looks like after its adapter has tried one. -/
theorem Consistent.tried (consistent : Consistent s) (joystick : s.joystick = none) :
    s.enabled = ⟨true, false, true, true, false, false⟩ ∧ s.connections = 0 := by
  obtain ⟨enabled, connections, -⟩ := consistent
  rw [joystick] at enabled connections
  exact ⟨enabled, connections⟩

theorem consistent_default (joystick : s.joystick = none) (connections : s.connections = 0)
    (enabled : s.enabled = ⟨true, false, true, true, false, false⟩) :
    Consistent (setDefaultText s) := by
  constructor
  · simp only [setDefaultText, joystick]
    exact enabled
  · simp only [setDefaultText, joystick]
    exact connections
  · simp only [setDefaultText, joystick]
    rfl

/-- Connecting. -/
theorem connect_consistent_iff (consistent : Consistent s) (joystick : s.joystick = none)
    (opens : Bool) :
    Consistent (connectToJoystick opens s) ↔
      ∀ device, target opens s = some device → 0 ≤ device.playerIndex := by
  obtain ⟨enabled, connections⟩ := consistent.tried joystick
  have one : s.connections + 1 = 1 := by rw [connections]
  have no_id : getJoystickId s < 0 := by
    rw [getJoystickId, joystick]
    decide
  have vacuous : ∀ device : Device, none = some device → 0 ≤ device.playerIndex := by
    intro device absent
    cases absent
  cases chosen : s.currentIndex with
  | none =>
    rw [connectToJoystick_of_none opens chosen, setDialog, target, chosen, Option.elim_none]
    by_cases known : s.published ≥ 0
    · rw [if_pos ⟨no_id, known⟩, loadJoy_closed joystick]
      cases opened : joystickOpen s.devices opens s.published with
      | none =>
        refine ⟨fun _ => vacuous, fun _ => ?_⟩
        exact consistent_default rfl connections enabled
      | some device =>
        rw [showJoystick_consistent_iff (s := afterOpen (some device) s) rfl one enabled]
        simp
    · have nothing : joystickOpen s.devices opens s.published = none := by
        rw [joystickOpen, if_neg fun both => known both.2]
      rw [if_neg fun both => known both.2, nothing]
      refine ⟨fun _ => vacuous, fun _ => ?_⟩
      rw [showJoystick, joystick]
      exact consistent_default joystick connections enabled
  | some i =>
    have still : (trying i s).joystick = none := joystick
    have same : joystickOpen (trying i s).devices opens i
        = joystickOpen s.devices opens (Int.ofNat i) := rfl
    rw [connectToJoystick_of_some opens chosen, target, chosen, Option.elim_some,
      loadJoy_closed still, same]
    cases opened : joystickOpen s.devices opens (Int.ofNat i) with
    | none =>
      refine ⟨fun _ => vacuous, fun _ => ?_⟩
      exact consistent.congr rfl joystick.symm rfl rfl
    | some device =>
      have attached : isConnected (afterOpen (some device) (trying i s)) = true :=
        isConnected_of_mem rfl (joystickOpen_mem opened)
      simp only [Option.isSome_some, if_true, ne_eq, not_true_eq_false, if_false]
      rw [setDialog_attached attached, showJoystick_consistent_iff
        (s := afterOpen (some device) (trying i s)) rfl one enabled]
      simp

theorem slot_same {signal : JoystickAdapter.Signal} (h : slot signal s = some t) :
    t.enabled = s.enabled ∧ t.joystick = s.joystick ∧ t.connections = s.connections ∧
      t.information = s.information := by
  cases signal with
  | buttonChanged id state =>
    rw [slot] at h
    split at h
    · cases h
    · cases h
      exact ⟨rfl, rfl, rfl, rfl⟩
  | axisChanged id state =>
    cases h
    exact ⟨rfl, rfl, rfl, rfl⟩
  | hatChanged id state =>
    cases h
    exact ⟨rfl, rfl, rfl, rfl⟩
  | ballChanged id stateX stateY =>
    cases h
    exact ⟨rfl, rfl, rfl, rfl⟩

/-- One step. -/
theorem step_consistent_iff (consistent : Consistent s) (h : step s e = some t) :
    Consistent t ↔ Orderly s e := by
  have unaffected : ∀ {u : State}, u.enabled = s.enabled → u.joystick = s.joystick →
      u.connections = s.connections → u.information = s.information → (Consistent u ↔ True) :=
    fun enabled joystick connections information =>
      iff_true_intro (consistent.congr enabled joystick connections information)
  cases e with
  | plug devices =>
    cases h
    exact unaffected rfl rfl rfl rfl
  | select i =>
    simp only [step] at h
    split at h
    · cases h
      exact unaffected rfl rfl rfl rfl
    · cases h
  | clickConnect opens =>
    simp only [step] at h
    split at h
    · rename_i clickable
      cases h
      have joystick : s.joystick = none := by
        cases present : s.joystick with
        | none => rfl
        | some device =>
          rw [consistent.enabled, present] at clickable
          cases clickable
      exact connect_consistent_iff consistent joystick opens
    · cases h
  | clickDisconnect =>
    simp only [step] at h
    split at h
    · cases h
      exact disconnect_consistent_iff consistent
    · cases h
  | clickRescan =>
    simp only [step] at h
    split at h
    · cases h
      exact unaffected rfl rfl rfl rfl
    · cases h
  | accept =>
    simp only [step, accepted] at h
    split at h
    · cases h
    · rename_i joyId _
      cases h
      have scanned : Consistent { scanJoystickDevice s with published := joyId } :=
        consistent.congr rfl rfl rfl rfl
      exact disconnect_consistent_iff scanned
  | reject =>
    cases h
    exact disconnect_consistent_iff consistent
  | emit signal =>
    cases h
    exact unaffected rfl rfl rfl rfl
  | call =>
    simp only [step] at h
    split at h
    · cases h
    · obtain ⟨enabled, joystick, connections, information⟩ := slot_same h
      exact unaffected enabled joystick connections information

theorem start_consistent (devices : List Device) : Consistent (start devices) := by
  have unpublished : ¬((-1 : Int) ≥ 0) := by decide
  rw [start, setDialog, if_neg fun both => unpublished both.2]
  exact consistent_default rfl rfl rfl

/-- What the dialog shows agrees with its adapter throughout a run exactly when
joysticks are only closed while they are attached, and only opened with a player
index. -/
theorem dialog_consistent_iff (devices : List Device) (events : List Event) :
    Throughout (fun before => ∀ s, Reaches devices before s → Consistent s) events ↔
      Along (fun before e => ∀ s t, Reaches devices before s → step s e = some t →
        Orderly s e) events := by
  refine throughout_iff_along ?_ ?_ events
  · intro s reached
    cases reached
    exact start_consistent devices
  · intro before e earlier
    have so_far : ∀ s, Reaches devices before s → Consistent s := earlier before [] (by simp)
    constructor
    · intro later s t reached h
      have next : Reaches devices (before ++ [e]) t := by
        have at_s : run (lift step) (some (start devices)) before = some s := reached
        rw [Reaches, run_concat, at_s]
        exact h
      exact (step_consistent_iff (so_far s reached) h).mp (later t next)
    · intro orderly t reached
      obtain ⟨s, at_s, h⟩ := run_lift_concat reached
      exact (step_consistent_iff (so_far s at_s) h).mpr (orderly s t at_s h)

/-- A joystick is pulled out before it is disconnected: the dialog takes it for
closed, and its adapter has it still. -/
example : ∃ s,
    Reaches [pad] [.clickConnect true, .plug [], .clickDisconnect] s ∧
      s.enabled.connectPushButton = true ∧ s.joystick = some pad :=
  ⟨_, rfl, rfl, rfl⟩

end JoystickSessions
