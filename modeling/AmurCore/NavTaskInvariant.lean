import AmurCore.NavDialogModel

/-!
# What a call of `sendGoals` does, and the task-state invariant

The first section says when a step calls `sendGoals` and what the call leaves
behind; every result about commands rests on it. The second section shows that
the task state, the button, the acknowledgement flag and the commands built so
far fit together after any run.
-/

namespace NavTaskInvariant

open RobotMessages NavCommands GoalHistory MapClicks NavDialogModel EventRuns

section Calls
variable {α : Type} [Zero α] [One α]

/-- The command that a call of `sendGoals` should send, from its entry state alone. -/
def commandOf (call : SendCall α) : NavCommandRequest α :=
  if call.navTaskState = .busy then cancelCommand
  else motionCommand call.isFollowWaypoints call.goals

omit [Zero α] [One α] in
def callIn (s : NavDialog α) : SendCall α :=
  ⟨s.navTaskState, s.isFollowWaypoints, s.navigationGoalsList⟩

theorem commandOf_busy {s : NavDialog α} (busy : s.navTaskState = .busy) :
    commandOf (callIn s) = cancelCommand := if_pos busy

theorem commandOf_free {s : NavDialog α} (free : s.navTaskState ≠ .busy) :
    commandOf (callIn s) = motionCommand s.isFollowWaypoints s.navigationGoalsList :=
  if_neg free

/-- The parts of the dialog that only a call of `sendGoals` changes. -/
structure SameCommands (s t : NavDialog α) : Prop where
  navControl : t.controls.navControl = s.controls.navControl
  built : t.built = s.built
  sendCalls : t.sendCalls = s.sendCalls

omit [Zero α] [One α] in
theorem SameCommands.refl (s : NavDialog α) : SameCommands s s := ⟨rfl, rfl, rfl⟩

/-- What a step that calls `sendGoals` once has done to the commands. -/
structure SentOnce (s t : NavDialog α) : Prop where
  controls : t.controls = { s.controls with navControl := some (commandOf (callIn s)) }
  built : t.built = commandOf (callIn s) :: s.built
  sendCalls : t.sendCalls = callIn s :: s.sendCalls
  busy : t.navTaskState = .busy
  awaiting : t.awaitingNavAck = true

theorem sendGoals_sent (s : NavDialog α) : SentOnce s (sendGoals s) := by
  by_cases busy : s.navTaskState = .busy
  · constructor <;> simp [sendGoals, enterSendGoals, stopNavigation, writeNavControl,
      commandOf, callIn, busy]
  · cases follow : s.isFollowWaypoints with
    | true => constructor <;> simp [sendGoals, enterSendGoals, followWaypoints, writeNavControl,
        setTaskState, commandOf, callIn, busy, follow]
    | false => constructor <;> simp [sendGoals, enterSendGoals, goThroughPoses, writeNavControl,
        setTaskState, commandOf, callIn, busy, follow]

theorem sendGoals_frame (s : NavDialog α) :
    (sendGoals s).navigationGoalsList = s.navigationGoalsList ∧
    (sendGoals s).navGoalsHistory = s.navGoalsHistory ∧
    (sendGoals s).isPatrolMode = s.isPatrolMode ∧
    (sendGoals s).isFollowWaypoints = s.isFollowWaypoints ∧
    (sendGoals s).sensors = s.sensors := by
  by_cases busy : s.navTaskState = .busy
  · simp [sendGoals, enterSendGoals, stopNavigation, writeNavControl, busy]
  · cases follow : s.isFollowWaypoints with
    | true => simp [sendGoals, enterSendGoals, followWaypoints, writeNavControl, setTaskState,
        busy, follow]
    | false => simp [sendGoals, enterSendGoals, goThroughPoses, writeNavControl, setTaskState,
        busy, follow]

/-- The tick reaches the patrol branch of the SUCCESS case. -/
def PatrolSend (s : NavDialog α) : Prop :=
  s.sensors.navStatus = .success ∧ s.navigationGoalsList ≠ [] ∧ s.isPatrolMode = true ∧
    ¬ (s.navTaskState = .busy ∧ s.awaitingNavAck = true ∧ s.lastNavStatus = .success)

omit [Zero α] [One α] in
theorem updateStateFromGoals_same (s : NavDialog α) :
    SameCommands s (updateStateFromGoals s) := by
  unfold updateStateFromGoals
  split
  · exact .refl s
  · split <;> exact ⟨rfl, rfl, rfl⟩

theorem dispatchStatus_sent {s : NavDialog α} (goals : s.navigationGoalsList ≠ [])
    (patrol : s.isPatrolMode = true) : SentOnce s (dispatchStatus s .success) := by
  have sent := sendGoals_sent s
  have branch : dispatchStatus s .success = { sendGoals s with lastNavStatus := .success } := by
    simp [dispatchStatus, goals, patrol, CommandStatus.success, CommandStatus.inProgress]
  rw [branch]
  exact ⟨sent.controls, sent.built, sent.sendCalls, sent.busy, sent.awaiting⟩

/-- Outside the patrol branch the switch only sets the task state. -/
theorem dispatchStatus_same {s : NavDialog α} {status : CommandStatus}
    (elsewhere : ¬ (status = .success ∧ s.navigationGoalsList ≠ [] ∧ s.isPatrolMode = true)) :
    SameCommands s (dispatchStatus s status) := by
  have kept := updateStateFromGoals_same s
  unfold dispatchStatus
  split
  · exact ⟨rfl, rfl, rfl⟩
  · split
    · rename_i success
      split
      · rename_i goals
        have manual : ¬ s.isPatrolMode = true := fun patrol => elsewhere ⟨success, goals, patrol⟩
        rw [if_neg manual]
        exact ⟨rfl, rfl, rfl⟩
      · exact ⟨rfl, rfl, rfl⟩
    · split
      · split <;> exact ⟨rfl, rfl, rfl⟩
      · exact ⟨kept.navControl, kept.built, kept.sendCalls⟩

/-- The label refresh at the start of a tick changes nothing that the switch reads. -/
theorem onTimeout_eq (s : NavDialog α) :
    onTimeout s =
      if s.navTaskState = .busy ∧ s.awaitingNavAck = true then
        if s.sensors.navStatus ≠ s.lastNavStatus then
          dispatchStatus { showTaskStatus s with awaitingNavAck := false } s.sensors.navStatus
        else { showTaskStatus s with lastNavStatus := s.sensors.navStatus }
      else dispatchStatus (showTaskStatus s) s.sensors.navStatus := rfl

theorem onTimeout_sent {s : NavDialog α} (patrol : PatrolSend s) : SentOnce s (onTimeout s) := by
  obtain ⟨success, goals, on, acknowledged⟩ := patrol
  rw [onTimeout_eq, success]
  split
  · rename_i waiting
    have differs : CommandStatus.success ≠ s.lastNavStatus :=
      fun same => acknowledged ⟨waiting.1, waiting.2, same.symm⟩
    rw [if_pos differs]
    have sent := dispatchStatus_sent
      (s := { showTaskStatus s with awaitingNavAck := false }) goals on
    exact ⟨sent.controls, sent.built, sent.sendCalls, sent.busy, sent.awaiting⟩
  · have sent := dispatchStatus_sent (s := showTaskStatus s) goals on
    exact ⟨sent.controls, sent.built, sent.sendCalls, sent.busy, sent.awaiting⟩

theorem onTimeout_same {s : NavDialog α} (quiet : ¬ PatrolSend s) :
    SameCommands s (onTimeout s) := by
  rw [onTimeout_eq]
  split
  · rename_i waiting
    split
    · rename_i differs
      have elsewhere : ¬ (s.sensors.navStatus = .success ∧ s.navigationGoalsList ≠ [] ∧
          s.isPatrolMode = true) := by
        rintro ⟨success, goals, on⟩
        rw [success] at differs
        exact quiet ⟨success, goals, on, fun h => differs h.2.2.symm⟩
      have same := dispatchStatus_same
        (s := { showTaskStatus s with awaitingNavAck := false }) elsewhere
      exact ⟨same.navControl, same.built, same.sendCalls⟩
    · exact ⟨rfl, rfl, rfl⟩
  · rename_i settled
    have elsewhere : ¬ (s.sensors.navStatus = .success ∧ s.navigationGoalsList ≠ [] ∧
        s.isPatrolMode = true) := by
      rintro ⟨success, goals, on⟩
      exact quiet ⟨success, goals, on, fun h => settled ⟨h.1, h.2.1⟩⟩
    have same := dispatchStatus_same (s := showTaskStatus s) elsewhere
    exact ⟨same.navControl, same.built, same.sendCalls⟩

variable [Add α] [Sub α] [Mul α] [Div α] [IntCast α]

/-- The step calls `sendGoals`. -/
def Sends (s : NavDialog α) : Event α → Prop
  | .sendClicked => s.sendGoalsButton.enabled = true
  | .timerTick => PatrolSend s
  | _ => False

theorem step_sent {s : NavDialog α} {e : Event α} (sends : Sends s e) :
    SentOnce s (step s e) := by
  cases e with
  | sendClicked =>
    have enabled : s.sendGoalsButton.enabled = true := sends
    simp only [step, if_pos enabled]
    exact sendGoals_sent s
  | timerTick => exact onTimeout_sent sends
  | _ => exact False.elim sends

omit [Zero α] [One α] [Add α] [Sub α] [Mul α] [Div α] [IntCast α] in
/-- An edit of the goals followed by the settling of the task state. -/
theorem edit_same (s : NavDialog α) (goals : List (QPointF α))
    (history : NavGoalsHistory (List (QPointF α))) (shown : List (Nat × QPointF α)) :
    SameCommands s (updateStateFromGoals { s with
      navigationGoalsList := goals, navGoalsHistory := history, goalListWidget := shown }) :=
  have kept := updateStateFromGoals_same { s with
    navigationGoalsList := goals, navGoalsHistory := history, goalListWidget := shown }
  ⟨kept.navControl, kept.built, kept.sendCalls⟩

theorem step_same {s : NavDialog α} {e : Event α} (quiet : ¬ Sends s e) :
    SameCommands s (step s e) := by
  cases e with
  | mousePress button pos =>
    simp only [step]
    split
    · exact edit_same s _ _ _
    · exact .refl s
  | clearClicked => exact edit_same s _ _ _
  | undoClicked =>
    simp only [step, undoGoals]
    split
    · exact edit_same s _ _ _
    · exact ⟨rfl, rfl, rfl⟩
  | redoClicked =>
    simp only [step, redoGoals]
    split
    · exact edit_same s _ _ _
    · exact ⟨rfl, rfl, rfl⟩
  | radioFollowWaypoints checked => cases checked <;> exact ⟨rfl, rfl, rfl⟩
  | radioGoThroughPoses checked => cases checked <;> exact ⟨rfl, rfl, rfl⟩
  | sendClicked =>
    have disabled : ¬ s.sendGoalsButton.enabled = true := quiet
    simp only [step, if_neg disabled]
    exact .refl s
  | timerTick => exact onTimeout_same quiet
  | patrolToggled checked => exact ⟨rfl, rfl, rfl⟩
  | networkReport sensors => exact ⟨rfl, rfl, rfl⟩
  | mapChanged view => exact ⟨rfl, rfl, rfl⟩
  | controlsWritten controls => exact ⟨rfl, rfl, rfl⟩

end Calls

section Invariant
variable {α : Type} [Zero α] [One α]

/-- The state that the goals list calls for while no task is running. -/
def settledState (goals : List (QPointF α)) : NavTaskState :=
  if goals = [] then .idle else .ready

omit [Zero α] [One α] in
theorem settledState_idle_iff (goals : List (QPointF α)) :
    settledState goals = .idle ↔ goals = [] := by
  by_cases empty : goals = []
  · simp [settledState, empty]
  · simp [settledState, empty]

omit [Zero α] [One α] in
theorem settledState_ready_iff (goals : List (QPointF α)) :
    settledState goals = .ready ↔ goals ≠ [] := by
  by_cases empty : goals = []
  · simp [settledState, empty]
  · simp [settledState, empty]

/-- Task state, button, acknowledgement flag and built commands fit together. -/
structure TaskInvariant (s : NavDialog α) : Prop where
  settled : s.navTaskState ≠ .busy → s.navTaskState = settledState s.navigationGoalsList
  button : s.sendGoalsButton = buttonOf s.navTaskState
  ack : s.awaitingNavAck = true → s.navTaskState = .busy
  motion : ∀ c ∈ s.built, IsMotion c → targets c ≠ []

omit [Zero α] [One α] in
/-- Settling repairs the only part of the invariant that an edit can break. -/
theorem updateStateFromGoals_invariant {s : NavDialog α}
    (button : s.navTaskState = .busy → s.sendGoalsButton = buttonOf s.navTaskState)
    (ack : s.awaitingNavAck = true → s.navTaskState = .busy)
    (motion : ∀ c ∈ s.built, IsMotion c → targets c ≠ []) :
    TaskInvariant (updateStateFromGoals s) := by
  unfold updateStateFromGoals
  split
  · rename_i busy
    exact ⟨fun h => absurd busy h, button busy, ack, motion⟩
  · rename_i free
    have idleAck : s.awaitingNavAck = true → False := fun h => free (ack h)
    split
    · rename_i empty
      exact ⟨fun _ => ((settledState_idle_iff _).mpr empty).symm, rfl,
        fun h => (idleAck h).elim, motion⟩
    · rename_i nonempty
      exact ⟨fun _ => ((settledState_ready_iff _).mpr nonempty).symm, rfl,
        fun h => (idleAck h).elim, motion⟩

omit [Zero α] [One α] in
theorem edit_invariant {s : NavDialog α} (inv : TaskInvariant s) (goals : List (QPointF α))
    (history : NavGoalsHistory (List (QPointF α))) (shown : List (Nat × QPointF α)) :
    TaskInvariant (updateStateFromGoals { s with
      navigationGoalsList := goals, navGoalsHistory := history, goalListWidget := shown }) :=
  updateStateFromGoals_invariant (fun _ => inv.button) inv.ack inv.motion

/-- Send is pressed only with goals to go to; Stop may be pressed with none. -/
theorem sendGoals_invariant {s : NavDialog α} (inv : TaskInvariant s)
    (goals : s.navTaskState ≠ .busy → s.navigationGoalsList ≠ []) :
    TaskInvariant (sendGoals s) := by
  have sent := sendGoals_sent s
  have button : (sendGoals s).sendGoalsButton = buttonOf .busy := by
    by_cases busy : s.navTaskState = .busy
    · simp [sendGoals, enterSendGoals, stopNavigation, writeNavControl, busy, inv.button]
    · simp [sendGoals, enterSendGoals, setTaskState, busy]
  refine ⟨fun h => absurd sent.busy h, by rw [button, sent.busy], fun _ => sent.busy, ?_⟩
  intro c mem isMotion
  rw [sent.built] at mem
  rcases List.mem_cons.mp mem with rfl | earlier
  · by_cases busy : s.navTaskState = .busy
    · rw [commandOf_busy busy] at isMotion
      exact absurd isMotion cancelCommand_not_isMotion
    · rw [commandOf_free busy, targets_motionCommand]
      simpa using goals busy
  · exact inv.motion c earlier isMotion

theorem dispatchStatus_invariant {s : NavDialog α} (inv : TaskInvariant s)
    (acknowledged : s.awaitingNavAck = false) (status : CommandStatus) :
    TaskInvariant (dispatchStatus s status) := by
  have noAck : ∀ state : NavTaskState, s.awaitingNavAck = true → state = .busy := by
    intro state h
    rw [acknowledged] at h
    cases h
  unfold dispatchStatus
  split
  · exact ⟨fun h => absurd rfl h, rfl, fun _ => rfl, inv.motion⟩
  · split
    · split
      · rename_i goals
        split
        · have sent := sendGoals_invariant inv (fun _ => goals)
          exact ⟨sent.settled, sent.button, sent.ack, sent.motion⟩
        · exact ⟨fun _ => ((settledState_ready_iff _).mpr goals).symm, rfl, noAck _, inv.motion⟩
      · rename_i none
        have empty : s.navigationGoalsList = [] := by simpa using none
        exact ⟨fun _ => ((settledState_idle_iff _).mpr empty).symm, rfl, noAck _, inv.motion⟩
    · split
      · split
        · rename_i goals
          exact ⟨fun _ => ((settledState_ready_iff _).mpr goals).symm, rfl, noAck _, inv.motion⟩
        · rename_i none
          have empty : s.navigationGoalsList = [] := by simpa using none
          exact ⟨fun _ => ((settledState_idle_iff _).mpr empty).symm, rfl, noAck _, inv.motion⟩
      · have settled := updateStateFromGoals_invariant (fun _ => inv.button) inv.ack inv.motion
        exact ⟨settled.settled, settled.button, settled.ack, settled.motion⟩

theorem onTimeout_invariant {s : NavDialog α} (inv : TaskInvariant s) :
    TaskInvariant (onTimeout s) := by
  have shown : TaskInvariant (showTaskStatus s) :=
    ⟨inv.settled, inv.button, inv.ack, inv.motion⟩
  rw [onTimeout_eq]
  split
  · rename_i waiting
    split
    · have acknowledged : TaskInvariant { showTaskStatus s with awaitingNavAck := false } :=
        ⟨inv.settled, inv.button, fun _ => waiting.1, inv.motion⟩
      exact dispatchStatus_invariant acknowledged rfl _
    · exact ⟨inv.settled, inv.button, inv.ack, inv.motion⟩
  · rename_i settled
    refine dispatchStatus_invariant shown ?_ _
    cases h : s.awaitingNavAck with
    | false => exact h
    | true => exact absurd ⟨inv.ack h, h⟩ settled

variable [Add α] [Sub α] [Mul α] [Div α] [IntCast α]

theorem step_invariant (s : NavDialog α) (e : Event α) (inv : TaskInvariant s) :
    TaskInvariant (step s e) := by
  cases e with
  | mousePress button pos =>
    simp only [step]
    split
    · exact edit_invariant inv _ _ _
    · exact inv
  | clearClicked => exact edit_invariant inv _ _ _
  | undoClicked =>
    simp only [step, undoGoals]
    split
    · exact edit_invariant inv _ _ _
    · rename_i history goals refused
      have same := undo_refused (congrArg (·.2.2) refused)
      rw [same] at refused
      obtain ⟨rfl, rfl⟩ : s.navGoalsHistory = history ∧ s.navigationGoalsList = goals := by
        simpa using refused
      exact inv
  | redoClicked =>
    simp only [step, redoGoals]
    split
    · exact edit_invariant inv _ _ _
    · rename_i history goals refused
      have same := redo_refused (congrArg (·.2.2) refused)
      rw [same] at refused
      obtain ⟨rfl, rfl⟩ : s.navGoalsHistory = history ∧ s.navigationGoalsList = goals := by
        simpa using refused
      exact inv
  | radioFollowWaypoints checked =>
    cases checked with
    | false => exact inv
    | true => exact ⟨inv.settled, inv.button, inv.ack, inv.motion⟩
  | radioGoThroughPoses checked =>
    cases checked with
    | false => exact inv
    | true => exact ⟨inv.settled, inv.button, inv.ack, inv.motion⟩
  | sendClicked =>
    simp only [step]
    split
    · rename_i enabled
      refine sendGoals_invariant inv fun free => ?_
      rw [inv.button, inv.settled free] at enabled
      -- an enabled button that does not say Stop belongs to the Ready state
      refine (settledState_ready_iff _).mp ?_
      by_cases empty : s.navigationGoalsList = []
      · simp [settledState, empty, buttonOf] at enabled
      · simp [settledState, empty]
    · exact inv
  | timerTick => exact onTimeout_invariant inv
  | patrolToggled checked => exact ⟨inv.settled, inv.button, inv.ack, inv.motion⟩
  | networkReport sensors => exact ⟨inv.settled, inv.button, inv.ack, inv.motion⟩
  | mapChanged view => exact ⟨inv.settled, inv.button, inv.ack, inv.motion⟩
  | controlsWritten controls => exact ⟨inv.settled, inv.button, inv.ack, inv.motion⟩

omit [Zero α] [One α] [Add α] [Sub α] [Mul α] [Div α] [IntCast α] in
theorem construct_invariant (controls : Controls α) (sensors : Sensors) (view : MapView α) :
    TaskInvariant (construct controls sensors view) :=
  updateStateFromGoals_invariant (fun busy => nomatch busy) (fun ack => nomatch ack)
    (fun _ mem => nomatch mem)

theorem run_taskInvariant (controls : Controls α) (sensors : Sensors) (view : MapView α)
    (events : List (Event α)) :
    TaskInvariant (run step (construct controls sensors view) events) :=
  run_invariant step_invariant (construct_invariant controls sensors view) events

end Invariant

end NavTaskInvariant
