import AmurCore.NavTaskInvariant

/-!
# The command on the wire and the undo history over whole runs

Two results about runs of the dialog. The command that the server copies into
its replies is the one determined by the last call of `sendGoals`, whatever
happened since. And the goals list with its history behaves as the two-stack
editor that sees the same adds, clears, undos and redos.
-/

namespace NavWire

open RobotMessages NavCommands GoalHistory MapClicks NavDialogModel NavTaskInvariant EventRuns
open TwoStackEditor

variable {α : Type} [Zero α] [One α]

/-- After a call of `sendGoals` the shared message holds that call's command. -/
def WireHoldsLastCall (s : NavDialog α) : Prop :=
  ∀ call earlier, s.sendCalls = call :: earlier →
    s.controls.navControl = some (commandOf call)

theorem wire_of_same {s t : NavDialog α} (same : SameCommands s t)
    (wire : WireHoldsLastCall s) : WireHoldsLastCall t := by
  intro call earlier h
  rw [same.navControl]
  exact wire call earlier (same.sendCalls ▸ h)

theorem wire_of_sent {s t : NavDialog α} (sent : SentOnce s t) : WireHoldsLastCall t := by
  intro call earlier h
  rw [sent.sendCalls] at h
  obtain ⟨rfl, rfl⟩ := List.cons.inj h
  rw [sent.controls]

/-- Building a command writes one field of `Controls`. -/
theorem sendGoals_other_fields (s : NavDialog α) :
    { (sendGoals s).controls with navControl := s.controls.navControl } = s.controls := by
  rw [(sendGoals_sent s).controls]

/-- The editing operations of a user: the reference sees the clicked point, not
the list that the dialog keeps. -/
inductive GoalEdit (α : Type) where
  | add (goal : QPointF α)
  | clear
  | undo
  | redo

omit [Zero α] [One α] in
/-- The reference editor of goal lists. -/
def applyEdit (e : Editor (List (QPointF α))) : GoalEdit α → Editor (List (QPointF α))
  | .add goal => e.edit (e.present ++ [goal])
  | .clear => e.edit []
  | .undo => e.undo
  | .redo => e.redo

omit [Zero α] [One α] in
/-- The history and the live list of the dialog stand for the editor. -/
def ShowsEditor (s : NavDialog α) (e : Editor (List (QPointF α))) : Prop :=
  Mirrors s.navGoalsHistory s.navigationGoalsList e

/-- The parts of the dialog that only an editing event changes. -/
structure SameGoals (s t : NavDialog α) : Prop where
  goals : t.navigationGoalsList = s.navigationGoalsList
  history : t.navGoalsHistory = s.navGoalsHistory

omit [Zero α] [One α] in
theorem ShowsEditor.of_same {s t : NavDialog α} (same : SameGoals s t)
    {e : Editor (List (QPointF α))} (shows_ : ShowsEditor s e) : ShowsEditor t e := by
  unfold ShowsEditor
  rw [same.goals, same.history]
  exact shows_

omit [Zero α] [One α] in
theorem updateStateFromGoals_sameGoals (s : NavDialog α) :
    SameGoals s (updateStateFromGoals s) := by
  unfold updateStateFromGoals
  split
  · exact ⟨rfl, rfl⟩
  · split <;> exact ⟨rfl, rfl⟩

theorem sendGoals_sameGoals (s : NavDialog α) : SameGoals s (sendGoals s) :=
  ⟨(sendGoals_frame s).1, (sendGoals_frame s).2.1⟩

theorem dispatchStatus_sameGoals (s : NavDialog α) (status : CommandStatus) :
    SameGoals s (dispatchStatus s status) := by
  have sent := sendGoals_sameGoals s
  have settled := updateStateFromGoals_sameGoals s
  unfold dispatchStatus
  split
  · exact ⟨rfl, rfl⟩
  · split
    · split
      · split
        · exact ⟨sent.goals, sent.history⟩
        · exact ⟨rfl, rfl⟩
      · exact ⟨rfl, rfl⟩
    · split
      · split <;> exact ⟨rfl, rfl⟩
      · exact ⟨settled.goals, settled.history⟩

theorem onTimeout_sameGoals (s : NavDialog α) : SameGoals s (onTimeout s) := by
  rw [onTimeout_eq]
  split
  · split
    · have same := dispatchStatus_sameGoals
        { showTaskStatus s with awaitingNavAck := false } s.sensors.navStatus
      exact ⟨same.goals, same.history⟩
    · exact ⟨rfl, rfl⟩
  · have same := dispatchStatus_sameGoals (showTaskStatus s) s.sensors.navStatus
    exact ⟨same.goals, same.history⟩

variable [Add α] [Sub α] [Mul α] [Div α] [IntCast α]

theorem step_wire (s : NavDialog α) (e : Event α) (wire : WireHoldsLastCall s) :
    WireHoldsLastCall (step s e) := by
  by_cases sends : Sends s e
  · exact wire_of_sent (step_sent sends)
  · exact wire_of_same (step_same sends) wire

/-- In every state after a call of `sendGoals`, `controls.navControl` is the
command determined by the state at the last call: nothing of an earlier command
is left in it, later edits and map events do not reach it, and building it
changes no other field of `Controls`. -/
theorem wire_is_last_call (controls : Controls α) (sensors : Sensors) (view : MapView α)
    (events : List (Event α)) :
    (∀ call earlier,
      (run step (construct controls sensors view) events).sendCalls = call :: earlier →
      (run step (construct controls sensors view) events).controls.navControl =
        some (commandOf call)) ∧
    (∀ s : NavDialog α,
      { (sendGoals s).controls with navControl := s.controls.navControl } = s.controls) := by
  have start : WireHoldsLastCall (construct controls sensors view) :=
    wire_of_same (updateStateFromGoals_same _) fun _ _ h => nomatch h
  exact ⟨run_invariant step_wire start events, sendGoals_other_fields⟩

omit [Zero α] [One α] in
/-- The editing operation that an event amounts to. Only the view decides where
a click lands. -/
def goalEdit (s : NavDialog α) : Event α → List (GoalEdit α)
  | .mousePress button pos =>
    match mousePressEvent s.mapView button pos with
    | some goal => [.add goal]
    | none => []
  | .clearClicked => [.clear]
  | .undoClicked => [.undo]
  | .redoClicked => [.redo]
  | _ => []

omit [Zero α] [One α] [Add α] [Sub α] [Mul α] [Div α] [IntCast α] in
/-- Recording an edit and settling the task state afterwards. -/
theorem recorded_shows {s : NavDialog α} {e : Editor (List (QPointF α))} (m : ShowsEditor s e)
    (goals : List (QPointF α)) :
    ShowsEditor (updateStateFromGoals (refreshGoalList (recordGoalsSnapshot
      { s with navigationGoalsList := goals }))) (e.edit goals) :=
  ShowsEditor.of_same (updateStateFromGoals_sameGoals _) (Mirrors.record m goals)

omit [Zero α] [One α] [Add α] [Sub α] [Mul α] [Div α] [IntCast α] in
theorem undoGoals_shows {s : NavDialog α} {e : Editor (List (QPointF α))} (m : ShowsEditor s e) :
    ShowsEditor (undoGoals s) e.undo := by
  have moved := Mirrors.undo m
  unfold undoGoals
  split
  · rename_i history goals taken
    rw [taken] at moved
    exact ShowsEditor.of_same (updateStateFromGoals_sameGoals _) moved
  · rename_i history goals refused
    rw [refused] at moved
    exact moved

omit [Zero α] [One α] [Add α] [Sub α] [Mul α] [Div α] [IntCast α] in
theorem redoGoals_shows {s : NavDialog α} {e : Editor (List (QPointF α))} (m : ShowsEditor s e) :
    ShowsEditor (redoGoals s) e.redo := by
  have moved := Mirrors.redo m
  unfold redoGoals
  split
  · rename_i history goals taken
    rw [taken] at moved
    exact ShowsEditor.of_same (updateStateFromGoals_sameGoals _) moved
  · rename_i history goals refused
    rw [refused] at moved
    exact moved

/-- One event of the dialog is matched by the editing operation it amounts to. -/
theorem step_shows (s : NavDialog α) (e : Editor (List (QPointF α))) (event : Event α)
    (m : ShowsEditor s e) :
    ShowsEditor (step s event) (run applyEdit e (goalEdit s event)) := by
  cases event with
  | mousePress button pos =>
    simp only [step, goalEdit]
    cases click : mousePressEvent s.mapView button pos with
    | none => exact m
    | some goal =>
      have live : s.navigationGoalsList = e.present := m.live_eq
      simp only [run_cons, run_nil, applyEdit, ← live]
      exact recorded_shows m _
  | clearClicked => exact recorded_shows m []
  | undoClicked => exact undoGoals_shows m
  | redoClicked => exact redoGoals_shows m
  | radioFollowWaypoints checked => cases checked <;> exact m
  | radioGoThroughPoses checked => cases checked <;> exact m
  | sendClicked =>
    simp only [step]
    split
    · exact ShowsEditor.of_same (sendGoals_sameGoals s) m
    · exact m
  | timerTick => exact ShowsEditor.of_same (onTimeout_sameGoals s) m
  | patrolToggled checked => exact m
  | networkReport sensors => exact m
  | mapChanged view => exact m
  | controlsWritten controls => exact m

omit [Zero α] [One α] [Add α] [Sub α] [Mul α] [Div α] [IntCast α] in
theorem construct_shows (controls : Controls α) (sensors : Sensors) (view : MapView α) :
    ShowsEditor (construct controls sensors view) (Editor.start []) :=
  ShowsEditor.of_same (updateStateFromGoals_sameGoals _) (mirrors_construct [])

/-- For every run the goals list, `canUndo` and `canRedo` are those of the
two-stack editor fed with the same edits; the history is never empty, its index
is in range and the live list is the snapshot at the index. -/
theorem history_refines_editor (controls : Controls α) (sensors : Sensors) (view : MapView α)
    (events : List (Event α)) :
    let d := construct controls sensors view
    let s := run step d events
    let reference := run applyEdit (Editor.start []) (trace step goalEdit d events)
    s.navigationGoalsList = reference.present ∧
    s.navGoalsHistory.canUndo = reference.canUndo ∧
    s.navGoalsHistory.canRedo = reference.canRedo ∧
    s.navGoalsHistory.history ≠ [] ∧
    s.navGoalsHistory.currentIndex < s.navGoalsHistory.history.length ∧
    s.navGoalsHistory.history[s.navGoalsHistory.currentIndex]? = some s.navigationGoalsList := by
  intro d s reference
  have m : Mirrors s.navGoalsHistory s.navigationGoalsList reference :=
    run_refines (R := ShowsEditor) step_shows (construct_shows controls sensors view) events
  have bound := m.cursor_lt
  refine ⟨m.live_eq, m.canUndo_eq, m.canRedo_eq, ?_, bound, m.live_at_cursor⟩
  intro empty
  rw [empty] at bound
  cases bound

end NavWire
