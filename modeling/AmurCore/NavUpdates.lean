import AmurCore.PatrolTicks

/-!
# The updates of the navigation dialog

`startUpdates` and `stopUpdates` run the timer from the construction and from each
`showEvent` on until the next `hideEvent`. A closed dialog is kept, and shown again with
the task state that it was hidden with: the reports in between are not counted, and what
the first tick finds is the last of them.
-/

namespace NavUpdates

open RobotMessages NavCommands MapClicks NavDialogModel NavTaskInvariant PatrolTicks EventRuns

/-- The dialog with its timer, and whether its last event of the two was a `showEvent`. -/
structure Window (α : Type) where
  dialog : NavDialog α
  timerActive : Bool
  shown : Bool

inductive WindowEvent (α : Type) where
  | showEvent
  | hideEvent
  | event (event : Event α)

section Timer
variable {α : Type}

def startUpdates (w : Window α) : Window α :=
  if w.timerActive then w else { w with timerActive := true }

def stopUpdates (w : Window α) : Window α :=
  if w.timerActive then { w with timerActive := false } else w

def showEvent (w : Window α) : Window α := startUpdates { w with shown := true }

def hideEvent (w : Window α) : Window α := stopUpdates { w with shown := false }

/-- A tick needs the timer, and a button or a click a window on the screen. -/
def reaches (w : Window α) : Event α → Bool
  | .timerTick => w.timerActive
  | .networkReport _ | .mapChanged _ | .controlsWritten _ => true
  | .mousePress _ _ | .clearClicked | .undoClicked | .redoClicked | .radioFollowWaypoints _
  | .radioGoThroughPoses _ | .patrolToggled _ | .sendClicked => w.shown

/-- The constructor starts the timer before the dialog is first shown. -/
def construct (controls : Controls α) (sensors : Sensors) (view : MapView α) : Window α :=
  startUpdates ⟨NavDialogModel.construct controls sensors view, false, false⟩

/-- The events of the dialog that reach it. -/
def delivered (w : Window α) : WindowEvent α → List (Event α)
  | .showEvent | .hideEvent => []
  | .event event => if reaches w event then [event] else []

theorem startUpdates_eq (w : Window α) : startUpdates w = ⟨w.dialog, true, w.shown⟩ := by
  unfold startUpdates
  split
  · rename_i active
    rw [← active]
  · rfl

theorem stopUpdates_eq (w : Window α) : stopUpdates w = ⟨w.dialog, false, w.shown⟩ := by
  unfold stopUpdates
  split
  · rfl
  · rename_i inactive
    rw [← Bool.eq_false_of_not_eq_true inactive]

/-! ### What others write -/

def reportIn : WindowEvent α → Option Sensors
  | .event (.networkReport sensors) => some sensors
  | _ => none

def viewIn : WindowEvent α → Option (MapView α)
  | .event (.mapChanged view) => some view
  | _ => none

def controlsIn : WindowEvent α → Option (Controls α)
  | .event (.controlsWritten controls) => some controls
  | _ => none

/-- What becomes of a dialog that only others write to. -/
def received (d : NavDialog α) (events : List (WindowEvent α)) : NavDialog α :=
  { d with
    sensors := (latest reportIn events).getD d.sensors
    mapView := (latest viewIn events).getD d.mapView
    controls := { (latest controlsIn events).getD d.controls with
      navControl := d.controls.navControl } }

/-- The dialog waits for another status than the one that the robot reports. -/
structure Waits (status : CommandStatus) (d : NavDialog α) : Prop where
  busy : d.navTaskState = .busy
  awaiting : d.awaitingNavAck = true
  last : d.lastNavStatus = status
  sampled : d.sensors.navStatus = status

/-- Neither is the button pressed, nor does the robot report another status. -/
def Unanswered (status : CommandStatus) : WindowEvent α → Prop
  | .event .sendClicked => False
  | .event (.networkReport sensors) => sensors.navStatus = status
  | _ => True

theorem Waits.of_same {status : CommandStatus} {d t : NavDialog α} (waits : Waits status d)
    (state : t.navTaskState = d.navTaskState) (flag : t.awaitingNavAck = d.awaitingNavAck)
    (last : t.lastNavStatus = d.lastNavStatus) (sensors : t.sensors = d.sensors) :
    Waits status t :=
  ⟨state.trans waits.busy, flag.trans waits.awaiting, last.trans waits.last,
    by rw [sensors, waits.sampled]⟩

/-- The settling of the task state after an edit of the goals leaves a busy dialog alone. -/
theorem Waits.edit {status : CommandStatus} {d t : NavDialog α} (waits : Waits status d)
    (state : t.navTaskState = d.navTaskState) (flag : t.awaitingNavAck = d.awaitingNavAck)
    (last : t.lastNavStatus = d.lastNavStatus) (sensors : t.sensors = d.sensors) :
    Waits status (updateStateFromGoals t) := by
  rw [updateStateFromGoals, if_pos (state.trans waits.busy)]
  exact waits.of_same state flag last sensors

end Timer

section Steps
variable {α : Type} [Zero α] [One α] [Add α] [Sub α] [Mul α] [Div α] [IntCast α]

def step (w : Window α) : WindowEvent α → Window α
  | .showEvent => showEvent w
  | .hideEvent => hideEvent w
  | .event event =>
    if reaches w event then { w with dialog := NavDialogModel.step w.dialog event } else w

theorem step_showEvent (w : Window α) : step w .showEvent = ⟨w.dialog, true, true⟩ :=
  startUpdates_eq _

theorem step_hideEvent (w : Window α) : step w .hideEvent = ⟨w.dialog, false, false⟩ :=
  stopUpdates_eq _

theorem step_delivers (w : Window α) (e : WindowEvent α) :
    (step w e).dialog = run NavDialogModel.step w.dialog (delivered w e) := by
  cases e with
  | showEvent => rw [step_showEvent, delivered, run_nil]
  | hideEvent => rw [step_hideEvent, delivered, run_nil]
  | event event =>
    rw [step, delivered]
    split <;> rfl

/-- A run of the window is the run of the dialog by the events that reach it. -/
theorem run_delivers (w : Window α) (events : List (WindowEvent α)) :
    (run step w events).dialog
      = run NavDialogModel.step w.dialog (trace step delivered w events) := by
  have matched : ∀ (v : Window α) (d : NavDialog α) (e : WindowEvent α), v.dialog = d →
      (step v e).dialog = run NavDialogModel.step d (delivered v e) := by
    rintro v d e rfl
    exact step_delivers v e
  exact run_refines (R := fun (v : Window α) d => v.dialog = d) matched rfl events

/-- Whenever the dialog is shown and hidden, its task state fits its goals. -/
theorem window_taskInvariant (controls : Controls α) (sensors : Sensors) (view : MapView α)
    (events : List (WindowEvent α)) :
    TaskInvariant (run step (construct controls sensors view) events).dialog := by
  have made : (construct controls sensors view).dialog
      = NavDialogModel.construct controls sensors view := by rw [construct, startUpdates_eq]
  rw [run_delivers, made]
  exact run_taskInvariant controls sensors view _

/-! ### Hidden -/

/-- A step that does not show the dialog, of a dialog that is hidden. -/
theorem step_hidden (d : NavDialog α) (events : List (WindowEvent α)) {e : WindowEvent α}
    (hidden : e ≠ .showEvent) :
    step ⟨received d events, false, false⟩ e = ⟨received d (events ++ [e]), false, false⟩ := by
  cases e with
  | showEvent => exact absurd rfl hidden
  | hideEvent => simp [step_hideEvent, received, reportIn, viewIn, controlsIn]
  | event event =>
    cases event <;>
      simp [step, reaches, NavDialogModel.step, received, reportIn, viewIn, controlsIn]

theorem run_hidden (w : Window α) {events : List (WindowEvent α)}
    (hidden : ∀ e ∈ events, e ≠ .showEvent) :
    run step w (.hideEvent :: events) = ⟨received w.dialog events, false, false⟩ := by
  rw [run_cons, step_hideEvent]
  induction events using List.reverseRecOn with
  | nil => rfl
  | append_singleton events e ih =>
    have now : e ≠ .showEvent := hidden e (List.mem_append_right _ List.mem_cons_self)
    have earlier : ∀ f ∈ events, f ≠ .showEvent :=
      fun f mem => hidden f (List.mem_append_left _ mem)
    rw [run_concat, ih earlier, step_hidden w.dialog events now]

omit [Add α] [Sub α] [Mul α] [Div α] [IntCast α] in
/-- The commands do not depend on what others write. -/
theorem received_writes_iff (d : NavDialog α) (events : List (WindowEvent α))
    (c : NavCommandRequest α) :
    Writes d (onTimeout (received d events)) c ↔
      PatrolSend (received d events) ∧ c = commandOf (callIn d) :=
  onTimeout_writes_iff (received d events) c

/-- While the dialog is hidden nothing is sent, and no report reaches the task state.
Shown again, the first tick sends what it would have sent to the state that the dialog was
hidden in, for the last report. -/
theorem first_tick_shown_again (w : Window α) (events : List (WindowEvent α))
    (hidden : ∀ e ∈ events, e ≠ .showEvent) :
    let t := run step w (.hideEvent :: events)
    SameCommands w.dialog t.dialog ∧ t.dialog.navTaskState = w.dialog.navTaskState ∧
    t.dialog.awaitingNavAck = w.dialog.awaitingNavAck ∧
    t.dialog.lastNavStatus = w.dialog.lastNavStatus ∧
    t.dialog.navigationGoalsList = w.dialog.navigationGoalsList ∧
    (run step t [.showEvent, .event .timerTick]).dialog = onTimeout (received w.dialog events) ∧
    ∀ c, Writes w.dialog (run step t [.showEvent, .event .timerTick]).dialog c ↔
      PatrolSend (received w.dialog events) ∧ c = commandOf (callIn w.dialog) := by
  intro t
  have reached : t = ⟨received w.dialog events, false, false⟩ := run_hidden w hidden
  rw [reached]
  have ticked : (run step ⟨received w.dialog events, false, false⟩
      [.showEvent, .event .timerTick]).dialog = onTimeout (received w.dialog events) := by
    rw [run_cons, step_showEvent]
    rfl
  refine ⟨⟨rfl, rfl, rfl⟩, rfl, rfl, rfl, rfl, ticked, fun c => ?_⟩
  rw [ticked]
  exact received_writes_iff w.dialog events c

/-! ### Waiting -/

omit [Add α] [Sub α] [Mul α] [Div α] [IntCast α] in
theorem Waits.tick {status : CommandStatus} {d : NavDialog α} (waits : Waits status d) :
    Waits status (onTimeout d) := by
  have same : ¬ d.sensors.navStatus ≠ d.lastNavStatus :=
    fun differs => differs (waits.sampled.trans waits.last.symm)
  rw [onTimeout_eq, if_pos ⟨waits.busy, waits.awaiting⟩, if_neg same]
  exact ⟨waits.busy, waits.awaiting, waits.sampled, waits.sampled⟩

theorem Waits.step {status : CommandStatus} {d : NavDialog α} {event : Event α}
    (waits : Waits status d) (unanswered : Unanswered status (.event event)) :
    Waits status (NavDialogModel.step d event) := by
  cases event with
  | mousePress button pos =>
    simp only [NavDialogModel.step]
    split
    · exact waits.edit rfl rfl rfl rfl
    · exact waits
  | clearClicked => exact waits.edit rfl rfl rfl rfl
  | undoClicked =>
    simp only [NavDialogModel.step, undoGoals]
    split
    · exact waits.edit rfl rfl rfl rfl
    · exact waits.of_same rfl rfl rfl rfl
  | redoClicked =>
    simp only [NavDialogModel.step, redoGoals]
    split
    · exact waits.edit rfl rfl rfl rfl
    · exact waits.of_same rfl rfl rfl rfl
  | radioFollowWaypoints checked =>
    cases checked <;> exact waits.of_same rfl rfl rfl rfl
  | radioGoThroughPoses checked =>
    cases checked <;> exact waits.of_same rfl rfl rfl rfl
  | sendClicked => exact False.elim unanswered
  | networkReport sensors => exact ⟨waits.busy, waits.awaiting, waits.last, unanswered⟩
  | timerTick => exact waits.tick
  | patrolToggled checked => exact waits.of_same rfl rfl rfl rfl
  | mapChanged view => exact waits.of_same rfl rfl rfl rfl
  | controlsWritten controls => exact waits.of_same rfl rfl rfl rfl

omit [Zero α] [One α] [Add α] [Sub α] [Mul α] [Div α] [IntCast α] in
theorem Waits.not_sends {status : CommandStatus} {d : NavDialog α} {event : Event α}
    (waits : Waits status d) (unanswered : Unanswered status (.event event)) :
    ¬ Sends d event := by
  cases event with
  | sendClicked => exact False.elim unanswered
  | timerTick =>
    rintro ⟨success, -, -, acknowledged⟩
    exact acknowledged ⟨waits.busy, waits.awaiting,
      waits.last.trans (waits.sampled.symm.trans success)⟩
  | _ => exact id

omit [Zero α] [One α] [Add α] [Sub α] [Mul α] [Div α] [IntCast α] in
theorem sameCommands_trans {s t u : NavDialog α} (first : SameCommands s t)
    (second : SameCommands t u) : SameCommands s u :=
  ⟨second.navControl.trans first.navControl, second.built.trans first.built,
    second.sendCalls.trans first.sendCalls⟩

theorem run_waits {status : CommandStatus} {w : Window α} (waits : Waits status w.dialog)
    {events : List (WindowEvent α)} (unanswered : ∀ e ∈ events, Unanswered status e) :
    Waits status (run step w events).dialog ∧
      SameCommands w.dialog (run step w events).dialog := by
  induction events using List.reverseRecOn with
  | nil => exact ⟨waits, .refl _⟩
  | append_singleton events e ih =>
    obtain ⟨now, same⟩ := ih fun f mem => unanswered f (List.mem_append_left _ mem)
    have quiet : Unanswered status e := unanswered e (List.mem_append_right _ List.mem_cons_self)
    rw [run_concat]
    cases e with
    | showEvent =>
      rw [step_showEvent]
      exact ⟨now, same⟩
    | hideEvent =>
      rw [step_hideEvent]
      exact ⟨now, same⟩
    | event event =>
      rw [step]
      split
      · exact ⟨now.step quiet, sameCommands_trans same (step_same (now.not_sends quiet))⟩
      · exact ⟨now, same⟩

/-- An acknowledgement that came and went while the dialog was hidden is missed: it stays
Busy, and in patrol mode sends nothing more, until the button is pressed or the robot
reports another status than the one before the command. -/
theorem missed_acknowledgement_stalls (w : Window α) (busy : w.dialog.navTaskState = .busy)
    (awaiting : w.dialog.awaitingNavAck = true) (events later : List (WindowEvent α))
    (hidden : ∀ e ∈ events, e ≠ .showEvent)
    (returned : (received w.dialog events).sensors.navStatus = w.dialog.lastNavStatus)
    (unanswered : ∀ e ∈ later, Unanswered w.dialog.lastNavStatus e) :
    let t := run step w (.hideEvent :: events ++ .showEvent :: later)
    t.dialog.navTaskState = .busy ∧ t.dialog.awaitingNavAck = true ∧
      SameCommands w.dialog t.dialog := by
  intro t
  have reached : t = run step ⟨received w.dialog events, true, true⟩ later := by
    have split : t = run step (run step w (.hideEvent :: events)) (.showEvent :: later) :=
      run_append step w (.hideEvent :: events) (.showEvent :: later)
    rw [split, run_hidden w hidden, run_cons, step_showEvent]
  have waits : Waits w.dialog.lastNavStatus (received w.dialog events) :=
    ⟨busy, awaiting, rfl, returned⟩
  obtain ⟨still, same⟩ := run_waits (w := ⟨received w.dialog events, true, true⟩) waits unanswered
  have kept : SameCommands w.dialog (received w.dialog events) := ⟨rfl, rfl, rfl⟩
  rw [reached]
  exact ⟨still.busy, still.awaiting, sameCommands_trans kept same⟩

end Steps

/-- A route of one goal is sent in patrol mode. -/
def patrolSent : List (WindowEvent ℚ) :=
  [.showEvent, .event (.mapChanged smallMap), .event (.mousePress .right ⟨10, 20⟩),
    .event (.patrolToggled true), .event .sendClicked]

def patrolWindow : Window ℚ :=
  run step (construct .empty .empty ⟨none, 0, 0, 1 / 20, 1, ⟨0, 0⟩⟩) patrolSent

/-- The route is under way when the dialog is hidden. -/
def underWay : Window ℚ :=
  run step patrolWindow [.event (.networkReport ⟨some ⟨.inProgress⟩⟩), .event .timerTick]

def success : List (WindowEvent ℚ) := [.event (.networkReport ⟨some ⟨.success⟩⟩)]

theorem success_hidden : ∀ e ∈ success, e ≠ .showEvent := by
  intro e mem
  rw [List.mem_singleton.mp mem]
  exact fun same => nomatch same

theorem underWay_cancelled :
    Writes underWay.dialog
      (run step (run step underWay (.hideEvent :: success))
        [.showEvent, .event .timerTick]).dialog cancelCommand := by
  have written := (first_tick_shown_again underWay success success_hidden).2.2.2.2.2.2
  exact (written cancelCommand).mpr
    ⟨⟨rfl, List.cons_ne_nil _ _, rfl, fun waiting => nomatch waiting.2.1⟩, rfl⟩

/-- The robot acknowledges the route and finishes it unseen. -/
def routeDone : List (WindowEvent ℚ) := .event (.networkReport ⟨some ⟨.inProgress⟩⟩) :: success

theorem routeDone_hidden : ∀ e ∈ routeDone, e ≠ .showEvent := by
  rintro e mem
  rcases List.mem_cons.mp mem with rfl | mem
  · exact fun same => nomatch same
  · exact success_hidden e mem

theorem unseen_route_stalls :
    let t := run step patrolWindow
      (.hideEvent :: routeDone ++ .showEvent :: [.event .timerTick, .event .timerTick])
    t.dialog.navTaskState = .busy ∧ t.dialog.awaitingNavAck = true ∧
      SameCommands patrolWindow.dialog t.dialog := by
  refine missed_acknowledgement_stalls patrolWindow rfl rfl routeDone _ routeDone_hidden rfl ?_
  intro e mem
  simp only [List.mem_cons, List.not_mem_nil, or_false, or_self] at mem
  rw [mem]
  exact True.intro

end NavUpdates
