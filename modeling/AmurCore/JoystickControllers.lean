import AmurCore.JoystickAdapter
import AmurCore.ManualControl

/-!
# Joystick controllers

Every acceptance of the joystick dialog starts a thread with a `GetStateByJoystick` and an
adapter of its own. Nothing stops the threads before it: `AmurCore` forgets the `Joystick`
that could, and only its destructor emits `stopAll`. So all joysticks that were ever opened
write the one `JoyState` that the robot is driven by.

The adapter emits in a thread of its own, and the slots are called in that of the
controller, which queues the signals. Slots and updates are taken to be atomic. What a
thread emits is given by the events: a quit that it takes, meant for it or not, ends it.
-/

namespace JoystickControllers

open EventRuns RobotMessages JoystickInput ManualControl JoystickAdapter

/-- A `GetStateByJoystick`: whether its adapter has been opened, and the signals whose
slots have not been called. -/
structure Controller where
  connected : Bool
  pending : List Signal
  deriving DecidableEq

structure System (α : Type) where
  robot : ManualControl.State α
  /-- One for each thread, `none` before `JoystickStateWorker::process`. -/
  controllers : List (Option Controller)

inductive Event where
  /-- `JoystickDialog::on_JoystickDialog_accepted`, then `AmurCore::fetchJoystickId`. -/
  | accept (joyId : Int)
  /-- `JoystickStateWorker::process`, and whether the joystick is attached. -/
  | process (k : Nat) (attached : Bool)
  /-- The thread of an adapter emits a signal. -/
  | emit (k : Nat) (signal : Signal)
  /-- The thread of a controller calls the next slot. -/
  | call (k : Nat)
  /-- `ManualControl::update` -/
  | update

section System
variable {α : Type}

namespace System

def start : System α := ⟨ManualControl.start, []⟩

def controller (k : Nat) (s : System α) : Option Controller := (s.controllers[k]?).join

def pending (k : Nat) (s : System α) : List Signal := ((s.controller k).map (·.pending)).getD []

def put (k : Nat) (controller : Controller) (s : System α) : System α :=
  { s with controllers := s.controllers.set k (some controller) }

end System

/-- `Joystick::addThread` -/
def addThread (s : System α) : System α := { s with controllers := s.controllers ++ [none] }

/-- `GetStateByJoystick::connectToJoystick` with a new adapter. -/
def connectToJoystick (joyState : JoyState) (attached : Bool) : Controller :=
  ⟨joyState.joyId != -1 && attached, []⟩

/-- The slot that is connected to the signal; `ballSetup` does nothing. -/
def callSlot (signal : Signal) (robot : ManualControl.State α) : Option (ManualControl.State α) :=
  match signal with
  | .buttonChanged id state => ManualControl.step robot (.button id state)
  | .axisChanged id state => ManualControl.step robot (.axis id state)
  | .hatChanged id state => ManualControl.step robot (.hat id state)
  | .ballChanged _ _ _ => some robot

def step (s : System α) : Event → Option (System α)
  | .accept joyId =>
    (ManualControl.step s.robot (.accept joyId)).map fun robot =>
      addThread { s with robot := robot }
  | .process k attached =>
    if s.controllers[k]? = some none then
      (ManualControl.step s.robot .construct).map fun robot =>
        ({ s with robot := robot }).put k (connectToJoystick robot.joyState attached)
    else none
  | .emit k signal =>
    match s.controller k with
    | some ⟨true, pending⟩ => some (s.put k ⟨true, pending ++ [signal]⟩)
    | _ => none
  | .call k =>
    match s.controller k with
    | some ⟨connected, signal :: pending⟩ =>
      (callSlot signal s.robot).map fun robot =>
        ({ s with robot := robot }).put k ⟨connected, pending⟩
    | _ => none
  | .update =>
    (ManualControl.step s.robot .update).map fun robot => { s with robot := robot }

/-- The state `s` is reached by the events, none of which indexes a vector out of its
bounds. -/
def Reaches (events : List Event) (s : System α) : Prop :=
  run (lift step) (some .start) events = some s

/-! ### What is reported -/

inductive Effect where
  | accepted (joyId : Int)
  | made
  | emitted (k : Nat) (signal : Signal)
  | called (k : Nat) (signal : Signal)

def effects (s : System α) : Event → List Effect
  | .accept joyId => [.accepted joyId]
  | .process _ _ => [.made]
  | .emit k signal => [.emitted k signal]
  | .call k => (s.pending k).head?.toList.map (.called k)
  | .update => []

namespace Effect

def joyId : Effect → Option Int
  | .accepted joyId => some joyId
  | _ => none

def emittedBy (k : Nat) : Effect → Option Signal
  | .emitted k' signal => if k' = k then some signal else none
  | _ => none

def calledBy (k : Nat) : Effect → Option Signal
  | .called k' signal => if k' = k then some signal else none
  | _ => none

/-- What a slot stores for an axis: the vertical ones are turned over. -/
def axis (id : Int) : Effect → Option Int
  | .called _ (.axisChanged id' state) =>
    if id' = id ∧ 0 ≤ id ∧ id < 6 then some (if id = 1 ∨ id = 4 then -1 * state else state)
    else none
  | _ => none

def hat : Effect → Option Int
  | .called _ (.hatChanged _ state) => some state
  | _ => none

/-- A new controller releases the buttons. -/
def button (i : Nat) : Effect → Option Bool
  | .made => some false
  | .called _ (.buttonChanged id state) => if id = i then some state else none
  | _ => none

end Effect

def axisOf (id : Int) (joyState : JoyState) : Int :=
  match id with
  | 0 => joyState.joystickXaxis
  | 1 => joyState.joystickYaxis
  | 2 => joyState.joystickZLTaxis
  | 3 => joyState.joystickXrotation
  | 4 => joyState.joystickYrotation
  | 5 => joyState.joystickZRTaxis
  | _ => 0

/-- Each part of the shared state is what `shown` reported of it last, or else as it was. -/
structure Written (old new : JoyState) (shown : List Effect) : Prop where
  joyId : new.joyId = (latest Effect.joyId shown).getD old.joyId
  axes : ∀ id, axisOf id new = (latest (Effect.axis id) shown).getD (axisOf id old)
  hat : new.joystickPOV0 = (latest Effect.hat shown).getD old.joystickPOV0
  buttons : ∀ i < maxJoystickButtons,
    new.buttonVector[i]? = (latest (Effect.button i) shown).or old.buttonVector[i]?

/-! ### One step -/

theorem Written.refl (joyState : JoyState) : Written joyState joyState [] :=
  ⟨rfl, fun _ => rfl, rfl, fun _ _ => rfl⟩

theorem Written.append {old new later : JoyState} {shown more : List Effect}
    (first : Written old new shown) (second : Written new later more) :
    Written old later (shown ++ more) := by
  constructor
  · rw [second.joyId, first.joyId, latest_append, Option.getD_or]
  · intro id
    rw [second.axes, first.axes, latest_append, Option.getD_or]
  · rw [second.hat, first.hat, latest_append, Option.getD_or]
  · intro i inside
    rw [second.buttons i inside, first.buttons i inside, latest_append, Option.or_assoc]

theorem latest_one {V : Type} (carries : Effect → Option V) (effect : Effect) :
    latest carries [effect] = carries effect := by
  simp [latest]

theorem axisOf_outside {id : Int} (outside : ¬(0 ≤ id ∧ id < 6)) (joyState : JoyState) :
    axisOf id joyState = 0 := by
  unfold axisOf
  split
  case h_7 => rfl
  all_goals exact absurd (by decide) outside

theorem axisOf_axisSetup (id id' state : Int) (joyState : JoyState) (k : Nat) :
    axisOf id (axisSetup id' state joyState)
      = (Effect.axis id (.called k (.axisChanged id' state))).getD (axisOf id joyState) := by
  by_cases inside : 0 ≤ id ∧ id < 6
  · have one : id = 0 ∨ id = 1 ∨ id = 2 ∨ id = 3 ∨ id = 4 ∨ id = 5 := by omega
    rcases one with rfl | rfl | rfl | rfl | rfl | rfl <;>
      unfold axisSetup <;> split <;> simp_all [axisOf, Effect.axis]
  · rw [axisOf_outside inside, axisOf_outside inside, Effect.axis,
      if_neg fun same => inside same.2]
    rfl

theorem buttonSetup_written {id : Int} {state : Bool} {old new : JoyState}
    (set : buttonSetup id state old = some new) (k : Nat) :
    Written old new [.called k (.buttonChanged id state)] := by
  rw [buttonSetup] at set
  split at set
  · cases set
  · rename_i buttonVector stored
    split at set
    · cases set
      refine ⟨rfl, fun _ => rfl, rfl, fun i _ => ?_⟩
      obtain ⟨⟨low, high⟩, result⟩ := Option.ite_none_right_eq_some.mp stored
      rw [← Option.some.inj result, latest_one, Effect.button]
      by_cases here : id = i
      · have index : id.toNat = i := by omega
        rw [if_pos here, ← index, List.getElem?_set_self high]
        rfl
      · have other : id.toNat ≠ i := by omega
        rw [if_neg here, List.getElem?_set_ne other]
        rfl
    · cases set

theorem callSlot_written {signal : Signal} {robot robot' : ManualControl.State α}
    (called : callSlot signal robot = some robot') (k : Nat) :
    Written robot.joyState robot'.joyState [.called k signal] := by
  cases signal with
  | buttonChanged id state =>
    rw [callSlot, ManualControl.step] at called
    split at called
    · cases called
    · rename_i joyState set
      cases called
      exact buttonSetup_written set k
  | axisChanged id state =>
    cases called
    have frame : ∀ joyState : JoyState, (axisSetup id state joyState).joyId = joyState.joyId ∧
        (axisSetup id state joyState).joystickPOV0 = joyState.joystickPOV0 ∧
        (axisSetup id state joyState).buttonVector = joyState.buttonVector := by
      intro joyState
      unfold axisSetup
      split <;> exact ⟨rfl, rfl, rfl⟩
    obtain ⟨joyId, hat, buttons⟩ := frame robot.joyState
    refine ⟨joyId, fun id' => ?_, hat, fun i _ => congrArg (·[i]?) buttons⟩
    rw [latest_one]
    exact axisOf_axisSetup id' id state robot.joyState k
  | hatChanged id state =>
    cases called
    exact ⟨rfl, fun _ => rfl, rfl, fun _ _ => rfl⟩
  | ballChanged id stateX stateY =>
    cases called
    exact ⟨rfl, fun _ => rfl, rfl, fun _ _ => rfl⟩

theorem call_cases {s t : System α} {k : Nat} (h : step s (.call k) = some t) :
    ∃ connected signal pending robot, s.controller k = some ⟨connected, signal :: pending⟩ ∧
      callSlot signal s.robot = some robot ∧
      t = ({ s with robot := robot }).put k ⟨connected, pending⟩ := by
  simp only [step] at h
  split at h
  · rename_i connected signal pending found
    obtain ⟨robot, called, rfl⟩ := Option.map_eq_some_iff.mp h
    exact ⟨connected, signal, pending, robot, found, called, rfl⟩
  · cases h

theorem effects_call {s : System α} {k : Nat} {connected : Bool} {signal : Signal}
    {pending : List Signal} (found : s.controller k = some ⟨connected, signal :: pending⟩) :
    effects s (.call k) = [.called k signal] := by
  rw [effects, System.pending, found]
  rfl

theorem step_written {s t : System α} {e : Event} (h : step s e = some t) :
    Written s.robot.joyState t.robot.joyState (effects s e) := by
  cases e with
  | accept joyId =>
    cases h
    exact ⟨rfl, fun _ => rfl, rfl, fun _ _ => rfl⟩
  | process k attached =>
    obtain ⟨-, made⟩ := Option.ite_none_right_eq_some.mp h
    cases made
    refine ⟨rfl, fun _ => rfl, rfl, fun i inside => ?_⟩
    exact List.getElem?_replicate_of_lt inside
  | emit k signal =>
    simp only [step] at h
    split at h
    · cases h
      exact ⟨rfl, fun _ => rfl, rfl, fun _ _ => rfl⟩
    · cases h
  | call k =>
    obtain ⟨connected, signal, pending, robot, found, called, rfl⟩ := call_cases h
    rw [effects_call found]
    exact callSlot_written called k
  | update =>
    obtain ⟨robot, updated, rfl⟩ := Option.map_eq_some_iff.mp h
    obtain ⟨manual, controls, -, rfl⟩ := ManualControl.step_update updated
    exact Written.refl s.robot.joyState

/-! ### The controllers -/

theorem controller_addThread (s : System α) (k : Nat) :
    (addThread s).controller k = s.controller k := by
  by_cases there : k < s.controllers.length
  · rw [System.controller, addThread, List.getElem?_append_left there]
    rfl
  · have missing : s.controllers[k]? = none := List.getElem?_eq_none (Nat.le_of_not_lt there)
    rw [System.controller, System.controller, missing, addThread,
      List.getElem?_append_right (Nat.le_of_not_lt there)]
    cases k - s.controllers.length <;> rfl

theorem controller_put_self {s : System α} {k : Nat} (there : k < s.controllers.length)
    (controller : Controller) : (s.put k controller).controller k = some controller := by
  rw [System.controller, System.put, List.getElem?_set_self there]
  rfl

theorem controller_put_ne (s : System α) {k k' : Nat} (other : k ≠ k') (controller : Controller) :
    (s.put k controller).controller k' = s.controller k' := by
  rw [System.controller, System.put, List.getElem?_set_ne other]
  rfl

theorem controller_there {s : System α} {k : Nat} {controller : Controller}
    (found : s.controller k = some controller) : k < s.controllers.length := by
  by_contra missing
  rw [System.controller, List.getElem?_eq_none (Nat.le_of_not_lt missing)] at found
  cases found

theorem controller_unmade {s : System α} {k : Nat} (started : s.controllers[k]? = some none) :
    s.controller k = none := by
  rw [System.controller, started]
  rfl

theorem emittedBy_one (k k' : Nat) (signal : Signal) :
    [Effect.emitted k' signal].filterMap (Effect.emittedBy k)
      = if k' = k then [signal] else [] := by
  split
  · exact List.filterMap_cons_some (if_pos ‹_›)
  · exact List.filterMap_cons_none (if_neg ‹_›)

theorem calledBy_one (k k' : Nat) (signal : Signal) :
    [Effect.called k' signal].filterMap (Effect.calledBy k) = if k' = k then [signal] else [] := by
  split
  · exact List.filterMap_cons_some (if_pos ‹_›)
  · exact List.filterMap_cons_none (if_neg ‹_›)

/-- What becomes of one controller in a step. -/
inductive Turn (k : Nat) (s t : System α) : List Effect → Prop where
  | made {attached : Bool} (before : s.controller k = none)
      (after : t.controller k = some ⟨attached, []⟩) : Turn k s t [.made]
  | emitted {signal : Signal} {pending : List Signal}
      (before : s.controller k = some ⟨true, pending⟩)
      (after : t.controller k = some ⟨true, pending ++ [signal]⟩) : Turn k s t [.emitted k signal]
  | called {connected : Bool} {signal : Signal} {pending : List Signal}
      (before : s.controller k = some ⟨connected, signal :: pending⟩)
      (after : t.controller k = some ⟨connected, pending⟩) : Turn k s t [.called k signal]
  | kept {shown : List Effect} (same : t.controller k = s.controller k)
      (emitted : shown.filterMap (Effect.emittedBy k) = [])
      (called : shown.filterMap (Effect.calledBy k) = []) : Turn k s t shown

theorem step_turn {s t : System α} {e : Event} (h : step s e = some t) (k : Nat) :
    Turn k s t (effects s e) := by
  cases e with
  | accept joyId =>
    cases h
    exact .kept (controller_addThread _ k) rfl rfl
  | process k' attached =>
    obtain ⟨started, made⟩ := Option.ite_none_right_eq_some.mp h
    cases made
    by_cases here : k' = k
    · subst here
      have there : k' < s.controllers.length := (List.getElem?_eq_some_iff.mp started).1
      exact .made (controller_unmade started) (controller_put_self there _)
    · exact .kept (controller_put_ne _ here _) rfl rfl
  | emit k' signal =>
    simp only [step] at h
    split at h
    · rename_i pending found
      cases h
      by_cases here : k' = k
      · subst here
        exact .emitted found (controller_put_self (controller_there found) _)
      · refine .kept (controller_put_ne _ here _) ?_ rfl
        rw [effects, emittedBy_one, if_neg here]
    · cases h
  | call k' =>
    obtain ⟨connected, signal, pending, robot, found, -, rfl⟩ := call_cases h
    rw [effects_call found]
    by_cases here : k' = k
    · subst here
      exact .called found (controller_put_self (controller_there found) _)
    · refine .kept (controller_put_ne _ here _) rfl ?_
      rw [calledBy_one, if_neg here]
  | update =>
    obtain ⟨robot, -, rfl⟩ := Option.map_eq_some_iff.mp h
    exact .kept rfl rfl rfl

/-- The slots that are called are those of the signals that have waited longest. -/
theorem Turn.signals {s t : System α} {k : Nat} {shown : List Effect} (turn : Turn k s t shown) :
    shown.filterMap (Effect.calledBy k) ++ t.pending k
      = s.pending k ++ shown.filterMap (Effect.emittedBy k) := by
  rw [System.pending, System.pending]
  cases turn with
  | made before after =>
    rw [before, after]
    rfl
  | emitted before after =>
    rw [before, after, emittedBy_one, if_pos rfl]
    rfl
  | called before after =>
    rw [before, after, calledBy_one, if_pos rfl]
    exact (List.append_nil _).symm
  | kept same emitted called =>
    rw [same, emitted, called, List.append_nil]
    rfl

/-- A controller whose adapter has been opened stays connected. -/
theorem Turn.connected {s t : System α} {k : Nat} {shown : List Effect} (turn : Turn k s t shown)
    (connected : (s.controller k).any (·.connected) = true) :
    (t.controller k).any (·.connected) = true := by
  cases turn with
  | made before after =>
    rw [before] at connected
    cases connected
  | emitted before after => rw [after]; rfl
  | called before after =>
    rw [before] at connected
    rw [after]
    exact connected
  | kept same emitted called =>
    rw [same]
    exact connected

/-! ### Runs -/

variable (α) in
/-- All that has happened in a run. -/
def reports (events : List Event) : List Effect :=
  trace (lift step) (lifted effects) (some (.start : System α)) events

variable {events : List Event} {s : System α}

theorem run_written (reached : Reaches events s) :
    Written .initial s.robot.joyState (reports α events) := by
  have kept : ∀ (shown : List Effect) (s : System α) (e : Event) (t : System α),
      step s e = some t → Written .initial s.robot.joyState shown →
        Written .initial t.robot.joyState (shown ++ effects s e) :=
    fun _ _ _ _ h before => before.append (step_written h)
  exact trace_lift_invariant kept (Written.refl _) reached

theorem run_signals (reached : Reaches events s) (k : Nat) :
    (reports α events).filterMap (Effect.calledBy k) ++ s.pending k
      = (reports α events).filterMap (Effect.emittedBy k) := by
  have kept : ∀ (shown : List Effect) (s : System α) (e : Event) (t : System α),
      step s e = some t →
      shown.filterMap (Effect.calledBy k) ++ s.pending k = shown.filterMap (Effect.emittedBy k) →
        (shown ++ effects s e).filterMap (Effect.calledBy k) ++ t.pending k
          = (shown ++ effects s e).filterMap (Effect.emittedBy k) := by
    intro shown s e t h before
    rw [List.filterMap_append, List.filterMap_append, List.append_assoc, (step_turn h k).signals,
      ← List.append_assoc, before]
  exact trace_lift_invariant kept rfl reached

/-- No acceptance of another joystick disconnects a controller. -/
theorem run_connected {t : System α} {k : Nat}
    (connected : (s.controller k).any (·.connected) = true)
    (reached : run (lift step) (some s) events = some t) :
    (t.controller k).any (·.connected) = true :=
  run_lift_invariant (fun _ _ _ h => (step_turn h k).connected) connected reached

variable (α) in
/-- The value of an axis that a slot stored last, of whatever controller. -/
def lastAxis (events : List Event) (id : Int) : Int :=
  (latest (Effect.axis id) (reports α events)).getD 0

variable (α) in
/-- The joystick that was accepted last. -/
def lastAccepted (events : List Event) : Int :=
  (latest Effect.joyId (reports α events)).getD (-1)

/-- Every joystick that was ever opened drives the robot as long as its thread emits
signals, whichever was accepted last: its controller stays connected, an update commands
what the last slot stored for each axis, of whatever controller, and the slots are called for
the signals that the thread of each has emitted, all and in order, but for those that still
wait. -/
theorem robot_follows_every_joystick (reached : Reaches (events ++ [.update]) s)
    (accepted : 0 ≤ lastAccepted α events) :
    (∃ motors, s.robot.controls.handMotors = some motors ∧
      motors.leftPower = (lastAxis α events 0).tdiv divider ∧
      motors.rightPower = (lastAxis α events 1).tdiv divider) ∧
    (∃ servos, s.robot.controls.cameraServos = some servos ∧
      servos.xAngle = (lastAxis α events 2).tdiv divider ∧
      servos.yAngle = (lastAxis α events 3).tdiv divider) ∧
    (∀ k, (reports α events).filterMap (Effect.calledBy k) ++ s.pending k
      = (reports α events).filterMap (Effect.emittedBy k)) ∧
    ∀ earlier later (u : System α) k, events ++ [.update] = earlier ++ later → Reaches earlier u →
      (u.controller k).any (·.connected) = true → (s.controller k).any (·.connected) = true := by
  have stays : ∀ earlier later (u : System α) k, events ++ [.update] = earlier ++ later →
      Reaches earlier u → (u.controller k).any (·.connected) = true →
        (s.controller k).any (·.connected) = true := by
    intro earlier later u k split before connected
    rw [Reaches, split, run_append, before] at reached
    exact run_connected connected reached
  obtain ⟨u, before, last⟩ := run_lift_concat reached
  have written := run_written before
  have axis : ∀ id, axisOf id u.robot.joyState = lastAxis α events id := by
    intro id
    have initially : axisOf id .initial = 0 := by
      unfold axisOf
      split <;> rfl
    rw [written.axes, initially, lastAxis]
  have connected : ¬u.robot.joyState.joyId < 0 := by
    rw [written.joyId]
    exact Int.not_lt.mpr accepted
  obtain ⟨robot, updated, rfl⟩ := Option.map_eq_some_iff.mp last
  obtain ⟨manual, controls, commanded, rfl⟩ := ManualControl.step_update updated
  obtain ⟨-, checked, result⟩ := update_commands connected commanded
  refine ⟨⟨_, by rw [result]; rfl, ?_, ?_⟩, ⟨_, by rw [result]; rfl, ?_, ?_⟩,
    run_signals (s := u) before, stays⟩
  · exact congrArg (·.tdiv divider) (axis 0)
  · exact congrArg (·.tdiv divider) (axis 1)
  · exact congrArg (·.tdiv divider) (axis 2)
  · exact congrArg (·.tdiv divider) (axis 3)

/-- The second of two joysticks has been accepted, and the first one is moved. -/
def movedFirst : List Event :=
  [.accept 0, .process 0 true, .accept 1, .process 1 true, .emit 0 (.axisChanged 0 32767), .call 0]

theorem movedFirst_drives : ∃ s : System ℚ, Reaches (movedFirst ++ [.update]) s ∧
    (∃ motors, s.robot.controls.handMotors = some motors ∧ motors.leftPower = 254) ∧
      (s.controller 0).any (·.connected) = true := by
  have defined : (run (lift step) (some (.start : System ℚ)) (movedFirst ++ [.update])).isSome :=
    rfl
  obtain ⟨s, reached⟩ := Option.isSome_iff_exists.mp defined
  obtain ⟨⟨motors, found, power, -⟩, -, -, stays⟩ :=
    robot_follows_every_joystick reached (by decide)
  exact ⟨s, reached, ⟨motors, found, power⟩, stays (movedFirst.take 2) _ _ 0 rfl rfl rfl⟩

end System

end JoystickControllers
