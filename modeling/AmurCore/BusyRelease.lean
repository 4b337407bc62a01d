import Mathlib.Algebra.Field.Rat
import AmurCore.NavTaskInvariant

/-!
# The release of Busy

After a Send the dialog is Busy and waits for an acknowledgement, which is the
first tick that samples another status than the press did. Reports that no tick
samples leave no trace, so a task that ends between two ticks in the status it
began with is never acknowledged, and Busy stays.
-/

namespace BusyRelease

open RobotMessages NavDialogModel NavTaskInvariant EventRuns

/-- What may happen between a press and the tick in question. -/
inductive RobotEvent where
  | report (sensors : Sensors)
  | tick

def RobotEvent.event {α : Type} : RobotEvent → Event α
  | .report sensors => .networkReport sensors
  | .tick => .timerTick

/-- The statuses that the ticks sample when the first one current is given. -/
def samples : CommandStatus → List RobotEvent → List CommandStatus
  | _, [] => []
  | _, .report sensors :: es => samples sensors.navStatus es
  | status, .tick :: es => status :: samples status es

/-- The status of a task that has come to its end. -/
def Terminal (status : CommandStatus) : Prop :=
  status = .success ∨ status = .failure ∨ status = .canceled

section Ticks
variable {α : Type}

/-- Busy with a task that was sent at the status and not acknowledged since. -/
structure Waiting (sent : CommandStatus) (s : NavDialog α) : Prop where
  busy : s.navTaskState = .busy
  awaiting : s.awaitingNavAck = true
  last : s.lastNavStatus = sent
  manual : s.isPatrolMode = false

structure Acknowledged (s : NavDialog α) : Prop where
  acknowledged : s.awaitingNavAck = false
  manual : s.isPatrolMode = false

variable [Zero α] [One α] {s : NavDialog α} {sent status : CommandStatus}

theorem dispatchStatus_frame (manual : s.isPatrolMode = false) (status : CommandStatus) :
    (dispatchStatus s status).awaitingNavAck = s.awaitingNavAck ∧
    (dispatchStatus s status).isPatrolMode = s.isPatrolMode ∧
    (dispatchStatus s status).sensors = s.sensors := by
  have settled : (updateStateFromGoals s).awaitingNavAck = s.awaitingNavAck ∧
      (updateStateFromGoals s).isPatrolMode = s.isPatrolMode ∧
      (updateStateFromGoals s).sensors = s.sensors := by
    unfold updateStateFromGoals
    split
    · exact ⟨rfl, rfl, rfl⟩
    · split <;> exact ⟨rfl, rfl, rfl⟩
  have off : ¬ s.isPatrolMode = true := by
    rw [manual]
    exact Bool.false_ne_true
  simp only [dispatchStatus, if_neg off]
  split
  · exact ⟨rfl, rfl, rfl⟩
  · split
    · split <;> exact ⟨rfl, rfl, rfl⟩
    · split
      · split <;> exact ⟨rfl, rfl, rfl⟩
      · exact settled

/-- Without patrol a status that ends a task releases Busy. -/
theorem dispatchStatus_terminal (manual : s.isPatrolMode = false) (ended : Terminal status) :
    (dispatchStatus s status).navTaskState ≠ .busy := by
  by_cases goals : s.navigationGoalsList = [] <;>
    rcases ended with rfl | rfl | rfl <;>
    simp [dispatchStatus, manual, goals, setTaskState, CommandStatus.success,
      CommandStatus.failure, CommandStatus.canceled, CommandStatus.inProgress]

theorem Acknowledged.dispatch (h : Acknowledged s) (status : CommandStatus) :
    Acknowledged (dispatchStatus s status) := by
  obtain ⟨awaiting, patrol, -⟩ := dispatchStatus_frame h.manual status
  exact ⟨awaiting.trans h.acknowledged, patrol.trans h.manual⟩

theorem onTimeout_waiting (h : Waiting sent s) (same : s.sensors.navStatus = sent) :
    Waiting sent (onTimeout s) := by
  have unchanged : ¬ s.sensors.navStatus ≠ s.lastNavStatus := by
    rw [same, h.last]
    exact not_not.mpr rfl
  rw [onTimeout_eq, if_pos ⟨h.busy, h.awaiting⟩, if_neg unchanged]
  exact ⟨h.busy, h.awaiting, same, h.manual⟩

/-- The tick that sees another status acknowledges the task and acts on it. -/
theorem onTimeout_acknowledges (h : Waiting sent s) (differs : s.sensors.navStatus ≠ sent) :
    onTimeout s
      = dispatchStatus { showTaskStatus s with awaitingNavAck := false } s.sensors.navStatus := by
  rw [onTimeout_eq, if_pos ⟨h.busy, h.awaiting⟩, h.last, if_pos differs]

theorem onTimeout_acknowledged (h : Acknowledged s) :
    onTimeout s = dispatchStatus (showTaskStatus s) s.sensors.navStatus := by
  have settled : ¬ (s.navTaskState = .busy ∧ s.awaitingNavAck = true) := by
    rintro ⟨-, awaiting⟩
    rw [h.acknowledged] at awaiting
    cases awaiting
  rw [onTimeout_eq, if_neg settled]

/-- A tick that finds the task acknowledged and at its end releases Busy. -/
theorem onTimeout_releases (h : Acknowledged s) (ended : Terminal s.sensors.navStatus) :
    (onTimeout s).navTaskState ≠ .busy := by
  rw [onTimeout_acknowledged h]
  exact dispatchStatus_terminal h.manual ended

theorem onTimeout_releases_waiting (h : Waiting sent s) (differs : s.sensors.navStatus ≠ sent)
    (ended : Terminal s.sensors.navStatus) : (onTimeout s).navTaskState ≠ .busy := by
  rw [onTimeout_acknowledges h differs]
  exact dispatchStatus_terminal h.manual ended

theorem onTimeout_navStatus (h : s.isPatrolMode = false) :
    (onTimeout s).sensors.navStatus = s.sensors.navStatus := by
  rw [onTimeout_eq]
  split
  · split
    · rw [(dispatchStatus_frame (by exact h) _).2.2]
      rfl
    · rfl
  · rw [(dispatchStatus_frame (by exact h) _).2.2]
    rfl

end Ticks

section Runs
variable {α : Type} [Zero α] [One α] [Add α] [Sub α] [Mul α] [Div α] [IntCast α]
variable {s : NavDialog α} {sent : CommandStatus}

theorem run_acknowledged (h : Acknowledged s) (es : List RobotEvent) :
    Acknowledged (run step s (es.map RobotEvent.event)) := by
  induction es generalizing s with
  | nil => exact h
  | cons e es ih =>
    cases e with
    | report sensors => exact ih ⟨h.acknowledged, h.manual⟩
    | tick =>
      refine ih ?_
      change Acknowledged (onTimeout s)
      rw [onTimeout_acknowledged h]
      have shown : Acknowledged (showTaskStatus s) := ⟨h.acknowledged, h.manual⟩
      exact shown.dispatch _

/-- The dialog waits as long as every sample is the status of the press. -/
theorem run_waiting (h : Waiting sent s) (es : List RobotEvent) :
    ((∀ status ∈ samples s.sensors.navStatus es, status = sent) →
      Waiting sent (run step s (es.map RobotEvent.event))) ∧
    ((∃ status ∈ samples s.sensors.navStatus es, status ≠ sent) →
      Acknowledged (run step s (es.map RobotEvent.event))) := by
  induction es generalizing s with
  | nil => exact ⟨fun _ => h, fun ⟨_, mem, _⟩ => nomatch mem⟩
  | cons e es ih =>
    cases e with
    | report sensors =>
      have reported : Waiting sent { s with sensors := sensors } :=
        ⟨h.busy, h.awaiting, h.last, h.manual⟩
      exact ih reported
    | tick =>
      by_cases same : s.sensors.navStatus = sent
      · have next := ih (onTimeout_waiting h same)
        rw [onTimeout_navStatus h.manual] at next
        constructor
        · intro all
          exact next.1 fun status mem => all status (List.mem_cons_of_mem _ mem)
        · rintro ⟨status, mem, differs⟩
          rcases List.mem_cons.mp mem with rfl | later
          · exact absurd same differs
          · exact next.2 ⟨status, later, differs⟩
      · have acknowledged : Acknowledged (onTimeout s) := by
          have shown : Acknowledged { showTaskStatus s with awaitingNavAck := false } :=
            ⟨rfl, h.manual⟩
          rw [onTimeout_acknowledges h same]
          exact shown.dispatch _
        constructor
        · exact fun all => absurd (all _ (List.mem_cons_self ..)) same
        · exact fun _ => run_acknowledged acknowledged es

/-- A press of Send makes the dialog wait for another status than the current one. -/
theorem step_send_waiting (enabled : s.sendGoalsButton.enabled = true)
    (free : s.navTaskState ≠ .busy) (manual : s.isPatrolMode = false) :
    Waiting s.sensors.navStatus (step s .sendClicked) ∧
    (step s .sendClicked).sensors = s.sensors := by
  obtain ⟨-, -, patrol, -, sensors⟩ := sendGoals_frame s
  have sent := sendGoals_sent s
  have last : (sendGoals s).lastNavStatus = s.sensors.navStatus := by
    cases follow : s.isFollowWaypoints <;>
      simp [sendGoals, enterSendGoals, followWaypoints, goThroughPoses, writeNavControl,
        setTaskState, free, follow]
  simp only [step, if_pos enabled]
  exact ⟨⟨sent.busy, sent.awaiting, last, patrol.trans manual⟩, sensors⟩

/-- After the last report comes one more sample, the reported status. -/
theorem samples_final (status : CommandStatus) (between : List RobotEvent) (final : Sensors) :
    samples status (between ++ [.report final, .tick])
      = samples status between ++ [final.navStatus] := by
  induction between generalizing status with
  | nil => rfl
  | cons e es ih =>
    cases e with
    | report sensors => exact ih sensors.navStatus
    | tick => exact congrArg (status :: ·) (ih status)

/-- The first tick after the last report releases Busy exactly if some tick since
the press has sampled another status than the press. -/
theorem busy_released_iff (enabled : s.sendGoalsButton.enabled = true)
    (free : s.navTaskState ≠ .busy) (manual : s.isPatrolMode = false)
    (between : List RobotEvent) (final : Sensors) (ended : Terminal final.navStatus) :
    let events : List RobotEvent := between ++ [.report final, .tick]
    (run step (step s .sendClicked) (events.map RobotEvent.event)).navTaskState ≠ .busy ↔
      ∃ status ∈ samples s.sensors.navStatus events, status ≠ s.sensors.navStatus := by
  intro events
  obtain ⟨waiting, sensors⟩ := step_send_waiting enabled free manual
  have whole := run_waiting waiting events
  have early := run_waiting waiting between
  rw [sensors] at whole early
  constructor
  · intro released
    by_contra same
    have all : ∀ status ∈ samples s.sensors.navStatus events, status = s.sensors.navStatus :=
      fun status mem => by_contra fun differs => same ⟨status, mem, differs⟩
    exact released (whole.1 all).busy
  · rintro ⟨status, mem, differs⟩
    rw [samples_final] at mem
    rw [List.map_append, run_append]
    generalize run step (step s .sendClicked) (between.map RobotEvent.event) = u at early
    change (onTimeout { u with sensors := final }).navTaskState ≠ .busy
    by_cases seen : ∃ status ∈ samples s.sensors.navStatus between,
        status ≠ s.sensors.navStatus
    · have acknowledged := early.2 seen
      have reported : Acknowledged { u with sensors := final } :=
        ⟨acknowledged.acknowledged, acknowledged.manual⟩
      exact onTimeout_releases reported ended
    · have all : ∀ status ∈ samples s.sensors.navStatus between,
          status = s.sensors.navStatus :=
        fun status mem => by_contra fun differs => seen ⟨status, mem, differs⟩
      have still := early.1 all
      have reported : Waiting s.sensors.navStatus { u with sensors := final } :=
        ⟨still.busy, still.awaiting, still.last, still.manual⟩
      have finalDiffers : final.navStatus ≠ s.sensors.navStatus := by
        rcases List.mem_append.mp mem with earlier | last
        · exact absurd (all status earlier) differs
        · rwa [List.mem_singleton.mp last] at differs
      exact onTimeout_releases_waiting reported finalDiffers ended

end Runs

/-! A task that ends between two ticks in the status it began with. -/

/-- A dialog as the program builds it, with a map and one goal: no robot has
reported, and the status reads as SUCCESS. -/
def oneGoal : NavDialog ℚ :=
  run step (construct .empty .empty ⟨none, 0, 0, 1 / 20, 1, ⟨0, 0⟩⟩)
    [.mapChanged ⟨some ⟨100, 100⟩, 0, 0, 1 / 20, 1, ⟨0, 0⟩⟩, .mousePress .right ⟨10, 20⟩]

theorem oneGoal_released :
    (run step (step oneGoal .sendClicked) ([.report ⟨some ⟨.inProgress⟩⟩, .tick,
      .report ⟨some ⟨.success⟩⟩, .tick].map RobotEvent.event)).navTaskState ≠ .busy :=
  (busy_released_iff (s := oneGoal) rfl (fun busy => nomatch busy) rfl
    [.report ⟨some ⟨.inProgress⟩⟩, .tick] ⟨some ⟨.success⟩⟩ (.inl rfl)).mpr
    ⟨.inProgress, by decide, by decide⟩

theorem oneGoal_stays_busy : oneGoal.sendGoalsButton.enabled = true ∧
    oneGoal.navTaskState ≠ .busy ∧ oneGoal.isPatrolMode = false ∧
    Terminal (Sensors.navStatus ⟨some ⟨.success⟩⟩) ∧
    (run step (step oneGoal .sendClicked) ([.report ⟨some ⟨.inProgress⟩⟩,
      .report ⟨some ⟨.success⟩⟩, .tick].map RobotEvent.event)).navTaskState = .busy :=
  ⟨rfl, fun busy => (nomatch busy), rfl, .inl rfl, rfl⟩

end BusyRelease
