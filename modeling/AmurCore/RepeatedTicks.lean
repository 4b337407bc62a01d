import Mathlib.Logic.Function.Iterate
import AmurCore.NavTaskInvariant

/-!
# Ticks on an unchanged status

The timer samples the status every 42 ms, far more often than a robot reports
one. A tick that finds the status of the tick before it changes nothing: what
the first one leaves is a fixed point of the slot, also where it issued a
command, since the call of `sendGoals` sets the acknowledgement flag and the
tick remembers the status.
-/

namespace RepeatedTicks

open RobotMessages NavCommands MapClicks NavDialogModel NavTaskInvariant EventRuns

section Ticks
variable {α : Type} [Zero α] [One α] {s : NavDialog α} {status : CommandStatus}

omit [Zero α] [One α] in
theorem updateStateFromGoals_idem (s : NavDialog α) :
    updateStateFromGoals (updateStateFromGoals s) = updateStateFromGoals s := by
  by_cases busy : s.navTaskState = .busy
  · simp [updateStateFromGoals, busy]
  · by_cases empty : s.navigationGoalsList = []
    · simp [updateStateFromGoals, busy, empty, setTaskState]
    · simp [updateStateFromGoals, busy, empty, setTaskState]

omit [Zero α] [One α] in
theorem updateStateFromGoals_remember (s : NavDialog α) (status : CommandStatus) :
    updateStateFromGoals { s with lastNavStatus := status }
      = { updateStateFromGoals s with lastNavStatus := status } := by
  unfold updateStateFromGoals
  split
  · rfl
  · split <;> rfl

omit [Zero α] [One α] in
theorem updateStateFromGoals_frame (s : NavDialog α) :
    (updateStateFromGoals s).sensors = s.sensors ∧
    (updateStateFromGoals s).statusTaskLabel = s.statusTaskLabel := by
  unfold updateStateFromGoals
  split
  · exact ⟨rfl, rfl⟩
  · split <;> exact ⟨rfl, rfl⟩

theorem sendGoals_label (s : NavDialog α) :
    (sendGoals s).statusTaskLabel = s.statusTaskLabel := by
  by_cases busy : s.navTaskState = .busy
  · simp [sendGoals, enterSendGoals, stopNavigation, writeNavControl, busy]
  · cases follow : s.isFollowWaypoints <;>
      simp [sendGoals, enterSendGoals, followWaypoints, goThroughPoses, writeNavControl,
        setTaskState, busy, follow]

/-- The switch remembers the status and leaves the message and its label. -/
theorem dispatchStatus_frame (s : NavDialog α) (status : CommandStatus) :
    (dispatchStatus s status).sensors = s.sensors ∧
    (dispatchStatus s status).statusTaskLabel = s.statusTaskLabel ∧
    (dispatchStatus s status).lastNavStatus = status := by
  have sensors := (sendGoals_frame s).2.2.2.2
  have label := sendGoals_label s
  have settled := updateStateFromGoals_frame s
  unfold dispatchStatus
  split
  · exact ⟨rfl, rfl, rfl⟩
  · split
    · split
      · split
        · exact ⟨sensors, label, rfl⟩
        · exact ⟨rfl, rfl, rfl⟩
      · exact ⟨rfl, rfl, rfl⟩
    · split
      · split <;> exact ⟨rfl, rfl, rfl⟩
      · exact ⟨settled.1, settled.2, rfl⟩

/-- A dialog that waits for another status than it remembers stays as it is. -/
theorem waiting_fixed (busy : s.navTaskState = .busy) (awaiting : s.awaitingNavAck = true)
    (last : s.lastNavStatus = s.sensors.navStatus) : updateStateFromStatus s = s := by
  have same : ¬ s.sensors.navStatus ≠ s.lastNavStatus := fun differs => differs last.symm
  simp only [updateStateFromStatus, if_pos (And.intro busy awaiting), if_neg same]
  rw [← last]

/-! ### The switch outside the patrol branch -/

theorem dispatchStatus_progress (s : NavDialog α) :
    dispatchStatus s .inProgress
      = { setTaskState s .busy with lastNavStatus := .inProgress } := by
  simp only [dispatchStatus, if_true]

/-- A task that has ended, in patrol mode only with a status other than SUCCESS
or without goals. -/
theorem dispatchStatus_ended
    (ended : status = .success ∨ status = .failure ∨ status = .canceled)
    (elsewhere : ¬ (status = .success ∧ s.navigationGoalsList ≠ [] ∧ s.isPatrolMode = true)) :
    dispatchStatus s status
      = { setTaskState s (settledState s.navigationGoalsList) with lastNavStatus := status } := by
  by_cases goals : s.navigationGoalsList = []
  · rcases ended with rfl | rfl | rfl <;>
      simp [dispatchStatus, goals, settledState, CommandStatus.success, CommandStatus.failure,
        CommandStatus.canceled, CommandStatus.inProgress]
  · rcases ended with rfl | rfl | rfl
    · have manual : s.isPatrolMode = false := by
        simpa using fun patrol => elsewhere ⟨rfl, goals, patrol⟩
      simp [dispatchStatus, goals, manual, settledState, CommandStatus.success,
        CommandStatus.inProgress]
    · simp [dispatchStatus, goals, settledState, CommandStatus.success, CommandStatus.failure,
        CommandStatus.inProgress]
    · simp [dispatchStatus, goals, settledState, CommandStatus.success, CommandStatus.failure,
        CommandStatus.canceled, CommandStatus.inProgress]

theorem dispatchStatus_unknown (progress : status ≠ .inProgress)
    (ended : ¬ (status = .success ∨ status = .failure ∨ status = .canceled)) :
    dispatchStatus s status = { updateStateFromGoals s with lastNavStatus := status } := by
  rw [not_or] at ended
  simp only [dispatchStatus, if_neg progress, if_neg ended.1, if_neg ended.2]

/-- Outside the patrol branch the switch sets a task state that depends only on
what it does not change. -/
theorem dispatchStatus_idem
    (elsewhere : ¬ (status = .success ∧ s.navigationGoalsList ≠ [] ∧ s.isPatrolMode = true)) :
    dispatchStatus (dispatchStatus s status) status = dispatchStatus s status := by
  by_cases progress : status = .inProgress
  · subst progress
    rw [dispatchStatus_progress, dispatchStatus_progress]
    rfl
  · by_cases ended : status = .success ∨ status = .failure ∨ status = .canceled
    · rw [dispatchStatus_ended ended elsewhere, dispatchStatus_ended ended]
      · rfl
      · exact elsewhere
    · rw [dispatchStatus_unknown progress ended, dispatchStatus_unknown progress ended,
        updateStateFromGoals_remember, updateStateFromGoals_idem]

/-! ### One tick after another -/

/-- What the switch leaves is not changed by a tick with the same status. -/
theorem dispatchStatus_fixed (sampled : s.sensors.navStatus = status) :
    updateStateFromStatus (dispatchStatus s status) = dispatchStatus s status := by
  obtain ⟨sensors, -, last⟩ := dispatchStatus_frame s status
  have same : (dispatchStatus s status).sensors.navStatus = status := by
    rw [sensors, sampled]
  by_cases waiting : (dispatchStatus s status).navTaskState = .busy ∧
      (dispatchStatus s status).awaitingNavAck = true
  · exact waiting_fixed waiting.1 waiting.2 (last.trans same.symm)
  · have elsewhere :
        ¬ (status = .success ∧ s.navigationGoalsList ≠ [] ∧ s.isPatrolMode = true) := by
      rintro ⟨rfl, goals, patrol⟩
      have sent := dispatchStatus_sent goals patrol
      exact waiting ⟨sent.busy, sent.awaiting⟩
    simp only [updateStateFromStatus, if_neg waiting, same]
    exact dispatchStatus_idem elsewhere

theorem updateStateFromStatus_idem (s : NavDialog α) :
    updateStateFromStatus (updateStateFromStatus s) = updateStateFromStatus s := by
  by_cases waiting : s.navTaskState = .busy ∧ s.awaitingNavAck = true
  · by_cases last : s.lastNavStatus = s.sensors.navStatus
    · have fixed := waiting_fixed waiting.1 waiting.2 last
      rw [fixed, fixed]
    · have acknowledged : updateStateFromStatus s
          = dispatchStatus { s with awaitingNavAck := false } s.sensors.navStatus := by
        have differs : s.sensors.navStatus ≠ s.lastNavStatus := fun same => last same.symm
        simp only [updateStateFromStatus, if_pos waiting, if_pos differs]
      rw [acknowledged]
      exact dispatchStatus_fixed rfl
  · have settled : updateStateFromStatus s = dispatchStatus s s.sensors.navStatus := by
      simp only [updateStateFromStatus, if_neg waiting]
    rw [settled]
    exact dispatchStatus_fixed rfl

theorem updateStateFromStatus_frame (s : NavDialog α) :
    (updateStateFromStatus s).sensors = s.sensors ∧
    (updateStateFromStatus s).statusTaskLabel = s.statusTaskLabel := by
  unfold updateStateFromStatus
  dsimp only
  split
  · split
    · obtain ⟨sensors, label, -⟩ :=
        dispatchStatus_frame { s with awaitingNavAck := false } s.sensors.navStatus
      exact ⟨sensors, label⟩
    · exact ⟨rfl, rfl⟩
  · obtain ⟨sensors, label, -⟩ := dispatchStatus_frame s s.sensors.navStatus
    exact ⟨sensors, label⟩

omit [Zero α] [One α] in
theorem showTaskStatus_fixed {t : NavDialog α} (sensors : t.sensors = (showTaskStatus s).sensors)
    (label : t.statusTaskLabel = (showTaskStatus s).statusTaskLabel) : showTaskStatus t = t := by
  have present : some (t.sensors.navControlStatus.getD .empty) = t.sensors.navControlStatus := by
    rw [sensors]
    rfl
  have text : "Status: " ++ statusName t.sensors.navStatus = t.statusTaskLabel := by
    rw [sensors, label]
    rfl
  rw [showTaskStatus, present, text]

/-- The whole timer slot, with the label that it refreshes first. -/
theorem onTimeout_idem (s : NavDialog α) : onTimeout (onTimeout s) = onTimeout s := by
  have shown : showTaskStatus (onTimeout s) = onTimeout s := by
    obtain ⟨sensors, label⟩ := updateStateFromStatus_frame (showTaskStatus s)
    exact showTaskStatus_fixed sensors label
  rw [onTimeout, shown]
  exact updateStateFromStatus_idem (showTaskStatus s)

/-! ### What the ticks write -/

theorem dispatchStatus_commands (s : NavDialog α) (status : CommandStatus) :
    SameCommands s (dispatchStatus s status) ∨ SentOnce s (dispatchStatus s status) := by
  by_cases patrol : status = .success ∧ s.navigationGoalsList ≠ [] ∧ s.isPatrolMode = true
  · obtain ⟨rfl, goals, on⟩ := patrol
    exact Or.inr (dispatchStatus_sent goals on)
  · exact Or.inl (dispatchStatus_same patrol)

/-- A tick builds at most one command. -/
theorem updateStateFromStatus_commands (s : NavDialog α) :
    SameCommands s (updateStateFromStatus s) ∨ SentOnce s (updateStateFromStatus s) := by
  unfold updateStateFromStatus
  dsimp only
  split
  · split
    · rcases dispatchStatus_commands { s with awaitingNavAck := false } s.sensors.navStatus with
        same | sent
      · exact Or.inl ⟨same.navControl, same.built, same.sendCalls⟩
      · exact Or.inr ⟨sent.controls, sent.built, sent.sendCalls, sent.busy, sent.awaiting⟩
    · exact Or.inl ⟨rfl, rfl, rfl⟩
  · exact dispatchStatus_commands s s.sensors.navStatus

/-- A slot that leaves a fixed point of its own does nothing from its second call on. -/
theorem iterate_eq_once {S : Type} {slot : S → S} (idem : ∀ s, slot (slot s) = slot s) (n : Nat)
    (s : S) : slot^[n + 1] s = slot s := by
  rw [Function.iterate_succ_apply]
  exact Function.iterate_fixed (idem s) n

variable [Add α] [Sub α] [Mul α] [Div α] [IntCast α]

/-- Any number of ticks with the status that the first one sampled leave the
dialog as the first one did, with one command built at most. -/
theorem repeated_ticks (controls : Controls α) (sensors : Sensors) (view : MapView α)
    (events : List (Event α)) (report : Sensors) (n : Nat) :
    let s := { run step (construct controls sensors view) events with sensors := report }
    let t := updateStateFromStatus^[n + 1] s
    t = updateStateFromStatus s ∧
    ((t.built = s.built ∧ t.controls.navControl = s.controls.navControl) ∨
      ∃ command, t.built = command :: s.built ∧ t.controls.navControl = some command) ∧
    onTimeout^[n + 1] s = onTimeout s := by
  intro s t
  have once : t = updateStateFromStatus s := iterate_eq_once updateStateFromStatus_idem n s
  refine ⟨once, ?_, iterate_eq_once onTimeout_idem n s⟩
  rw [once]
  rcases updateStateFromStatus_commands s with same | sent
  · exact Or.inl ⟨same.built, same.navControl⟩
  · refine Or.inr ⟨_, sent.built, ?_⟩
    rw [sent.controls]

end Ticks

end RepeatedTicks
