import Mathlib.Algebra.Field.Rat
import AmurCore.NavTaskInvariant

/-!
# What the timer tick sends in patrol mode

`updateStateFromStatus` takes SUCCESS for the end of a route and calls
`sendGoals` in patrol mode. `sendGoals` is Stop while the dialog is Busy and
Send otherwise, and SUCCESS is also what a robot that never ran a task reports.
So the call stops the route that it should repeat, and it starts a route when
no task is running. Both effects are characterised exactly over whole runs.
-/

namespace PatrolTicks

open RobotMessages NavCommands MapClicks NavDialogModel NavTaskInvariant EventRuns

section Ticks
variable {α : Type} [Zero α] [One α]

omit [Zero α] [One α] in
/-- Between `s` and `t` the command `c` was built into `controls.navControl`. -/
def Writes (s t : NavDialog α) (c : NavCommandRequest α) : Prop :=
  ∃ fresh, t.built = fresh ++ s.built ∧ c ∈ fresh

omit [Zero α] [One α] in
theorem writes_of_same {s t : NavDialog α} (same : SameCommands s t)
    (c : NavCommandRequest α) : ¬ Writes s t c := by
  rintro ⟨fresh, built, mem⟩
  rw [same.built] at built
  have none : fresh = [] := by simpa using built
  rw [none] at mem
  cases mem

theorem writes_of_sent {s t : NavDialog α} (sent : SentOnce s t) (c : NavCommandRequest α) :
    Writes s t c ↔ c = commandOf (callIn s) := by
  constructor
  · rintro ⟨fresh, built, mem⟩
    rw [sent.built] at built
    have one : fresh = [commandOf (callIn s)] := by
      have split : [commandOf (callIn s)] ++ s.built = fresh ++ s.built := built
      exact (List.append_cancel_right split).symm
    rw [one] at mem
    exact List.mem_singleton.mp mem
  · rintro rfl
    exact ⟨[commandOf (callIn s)], sent.built, List.mem_singleton.mpr rfl⟩

/-- A tick writes a command exactly in the patrol branch, and it is the command
of the state that the tick found. -/
theorem onTimeout_writes_iff (s : NavDialog α) (c : NavCommandRequest α) :
    Writes s (onTimeout s) c ↔ PatrolSend s ∧ c = commandOf (callIn s) := by
  by_cases patrol : PatrolSend s
  · rw [writes_of_sent (onTimeout_sent patrol)]
    exact ⟨fun h => ⟨patrol, h⟩, fun h => h.2⟩
  · exact ⟨fun h => absurd h (writes_of_same (onTimeout_same patrol) c),
      fun h => absurd h.1 patrol⟩

omit [Zero α] [One α] in
/-- SUCCESS is sampled in patrol mode while no task is running. -/
def RestsInPatrol (s : NavDialog α) : Prop :=
  s.sensors.navStatus = .success ∧ s.navigationGoalsList ≠ [] ∧ s.isPatrolMode = true ∧
    s.navTaskState ≠ .busy

omit [Zero α] [One α] in
/-- SUCCESS is sampled in patrol mode while a task is running, and it is not the
unacknowledged status from before the command. -/
def RouteEnds (s : NavDialog α) : Prop :=
  s.sensors.navStatus = .success ∧ s.navigationGoalsList ≠ [] ∧ s.isPatrolMode = true ∧
    s.navTaskState = .busy ∧ (s.awaitingNavAck = true → s.lastNavStatus ≠ .success)

omit [Zero α] [One α] in
theorem patrolSend_iff (s : NavDialog α) : PatrolSend s ↔ RestsInPatrol s ∨ RouteEnds s := by
  constructor
  · rintro ⟨success, goals, on, acknowledged⟩
    by_cases busy : s.navTaskState = .busy
    · exact Or.inr ⟨success, goals, on, busy, fun h last => acknowledged ⟨busy, h, last⟩⟩
    · exact Or.inl ⟨success, goals, on, busy⟩
  · rintro (⟨success, goals, on, free⟩ | ⟨success, goals, on, _, acknowledged⟩)
    · exact ⟨success, goals, on, fun h => free h.1⟩
    · exact ⟨success, goals, on, fun h => acknowledged h.2.1 h.2.2⟩

/-- A tick sends the robot off exactly when it finds the dialog at rest. -/
theorem onTimeout_writes_motion_iff (s : NavDialog α) :
    (∃ c, IsMotion c ∧ Writes s (onTimeout s) c) ↔ RestsInPatrol s := by
  constructor
  · rintro ⟨c, motion, written⟩
    obtain ⟨patrol, rfl⟩ := (onTimeout_writes_iff s c).mp written
    rcases (patrolSend_iff s).mp patrol with rests | ends
    · exact rests
    · rw [commandOf_busy ends.2.2.2.1] at motion
      exact absurd motion cancelCommand_not_isMotion
  · intro rests
    refine ⟨commandOf (callIn s), ?_,
      (onTimeout_writes_iff s _).mpr ⟨(patrolSend_iff s).mpr (Or.inl rests), rfl⟩⟩
    rw [commandOf_free rests.2.2.2]
    exact motionCommand_isMotion _ _

/-- A tick stops the robot exactly when it finds the route at its end. -/
theorem onTimeout_writes_cancel_iff (s : NavDialog α) :
    (∃ c, c.command = some .cancelTask ∧ Writes s (onTimeout s) c) ↔ RouteEnds s := by
  constructor
  · rintro ⟨c, cancel, written⟩
    obtain ⟨patrol, rfl⟩ := (onTimeout_writes_iff s c).mp written
    rcases (patrolSend_iff s).mp patrol with rests | ends
    · rw [commandOf_free rests.2.2.2] at cancel
      rcases motionCommand_isMotion s.isFollowWaypoints s.navigationGoalsList with h | h
      · obtain ⟨ws, h⟩ := h
        rw [h] at cancel
        cases cancel
      · obtain ⟨ps, h⟩ := h
        rw [h] at cancel
        cases cancel
    · exact ends
  · intro ends
    refine ⟨commandOf (callIn s), ?_,
      (onTimeout_writes_iff s _).mpr ⟨(patrolSend_iff s).mpr (Or.inr ends), rfl⟩⟩
    rw [commandOf_busy ends.2.2.2.1]
    rfl

/-- What is on the wire after a tick that found a route at its end, in every state. -/
theorem ended_route_cancelled {s : NavDialog α} (ends : RouteEnds s) :
    (onTimeout s).controls.navControl = some cancelCommand := by
  have sent := onTimeout_sent ((patrolSend_iff s).mpr (Or.inr ends))
  rw [sent.controls, commandOf_busy ends.2.2.2.1]

end Ticks

section Runs
variable {α : Type} [Zero α] [One α] [Add α] [Sub α] [Mul α] [Div α] [IntCast α]

inductive Press where
  | send
  | stop
  deriving DecidableEq

/-- What the operator's press of the button means in the state it is made in. -/
def pressIn (s : NavDialog α) : Event α → List Press
  | .sendClicked =>
    if s.sendGoalsButton.enabled then [if s.navTaskState = .busy then .stop else .send] else []
  | _ => []

/-- The operator's latest press in a run, if there was one. -/
def lastPress (d : NavDialog α) (events : List (Event α)) : Option Press :=
  (trace step pressIn d events).getLast?

/-- Ticks send the robot off only when the operator's latest press was a Send. -/
def StartsOnlyAfterSend (d : NavDialog α) : List (Event α) → Prop :=
  Along fun before e =>
    e = .timerTick →
    (∃ c, IsMotion c ∧ Writes (run step d before) (step (run step d before) e) c) →
    lastPress d before = some .send

/-- The condition on the state before a tick: the dialog is not found at rest in
patrol mode, with SUCCESS and with goals, unless the latest press was a Send. -/
def NeverRestsUnsent (d : NavDialog α) : List (Event α) → Prop :=
  Along fun before e =>
    e = .timerTick → RestsInPatrol (run step d before) → lastPress d before = some .send

/-- A run starts the robot on the operator's word exactly if no tick finds the
dialog at rest in patrol mode after anything else than a Send. -/
theorem starts_only_after_send_iff (controls : Controls α) (sensors : Sensors)
    (view : MapView α) (events : List (Event α)) :
    StartsOnlyAfterSend (construct controls sensors view) events ↔
      NeverRestsUnsent (construct controls sensors view) events := by
  refine along_congr (fun before e => ?_) events
  constructor
  · rintro starts rfl rests
    exact starts rfl ((onTimeout_writes_motion_iff _).mpr rests)
  · rintro sent rfl writes
    exact sent rfl ((onTimeout_writes_motion_iff _).mp writes)

/-- At the end of an acknowledged route a tick in patrol mode sends the route
again, and no tick ever cancels the task. -/
def RepeatsRoute (d : NavDialog α) : List (Event α) → Prop :=
  Along fun before e =>
    let s := run step d before
    e = .timerTick →
    (s.isPatrolMode = true ∧ s.navigationGoalsList ≠ [] ∧ s.navTaskState = .busy ∧
        s.awaitingNavAck = false ∧ s.sensors.navStatus = .success →
      Writes s (step s e) (motionCommand s.isFollowWaypoints s.navigationGoalsList) ∧
      (step s e).controls.navControl =
        some (motionCommand s.isFollowWaypoints s.navigationGoalsList)) ∧
    ¬ ∃ c, c.command = some .cancelTask ∧ Writes s (step s e) c

/-- The condition on the state before a tick: no route is found at its end. -/
def NoRouteEnds (d : NavDialog α) : List (Event α) → Prop :=
  Along fun before e => e = .timerTick → ¬ RouteEnds (run step d before)

/-- Patrol keeps its promise only in runs in which no route ever ends: whenever
one does, the tick cancels it instead of sending it again. -/
theorem repeats_route_iff (controls : Controls α) (sensors : Sensors) (view : MapView α)
    (events : List (Event α)) :
    RepeatsRoute (construct controls sensors view) events ↔
      NoRouteEnds (construct controls sensors view) events := by
  refine along_congr (fun before e => ?_) events
  constructor
  · rintro repeats rfl ends
    exact (repeats rfl).2 ((onTimeout_writes_cancel_iff _).mpr ends)
  · intro noEnd s isTick
    subst isTick
    refine ⟨?_, fun cancel => noEnd rfl ((onTimeout_writes_cancel_iff _).mp cancel)⟩
    -- an acknowledged route that has ended is just what the condition excludes
    rintro ⟨on, goals, busy, acknowledged, success⟩
    refine absurd ⟨success, goals, on, busy, fun waiting => ?_⟩ (noEnd rfl)
    rw [acknowledged] at waiting
    cases waiting

end Runs

/-! The two defects on concrete dialogs. -/

/-- A dialog as `AmurCore::initialize` builds it, before any map has arrived. -/
def newDialog : NavDialog ℚ :=
  construct .empty .empty ⟨none, 0, 0, 1 / 20, 1, ⟨0, 0⟩⟩

def smallMap : MapView ℚ := ⟨some ⟨100, 100⟩, 0, 0, 1 / 20, 1, ⟨0, 0⟩⟩

/-- A map arrives, a goal is added and Patrol is ticked; nobody presses Send. -/
def unsentPatrol : List (Event ℚ) :=
  [.mapChanged smallMap, .mousePress .right ⟨10, 20⟩, .patrolToggled true, .timerTick]

theorem unsentPatrol_starts : ¬ StartsOnlyAfterSend newDialog unsentPatrol := by
  intro starts
  have sent := starts (unsentPatrol.take 3) .timerTick [] rfl rfl
    ((onTimeout_writes_motion_iff _).mpr ⟨rfl, List.cons_ne_nil _ _, rfl, fun busy => nomatch busy⟩)
  cases sent

/-- The operator sends a patrol route, the robot reports progress and then success. -/
def finishedPatrol : List (Event ℚ) :=
  [.mapChanged smallMap, .mousePress .right ⟨10, 20⟩, .sendClicked, .patrolToggled true,
    .networkReport ⟨some ⟨.inProgress⟩⟩, .timerTick,
    .networkReport ⟨some ⟨.success⟩⟩, .timerTick]

theorem finishedPatrol_cancels : ¬ RepeatsRoute newDialog finishedPatrol := by
  intro repeats
  refine (repeats (finishedPatrol.take 7) .timerTick [] rfl rfl).2 ?_
  exact (onTimeout_writes_cancel_iff _).mpr
    ⟨rfl, List.cons_ne_nil _ _, rfl, rfl, fun waiting => nomatch waiting⟩

end PatrolTicks
