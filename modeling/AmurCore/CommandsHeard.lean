import AmurCore.NavTaskInvariant
import AmurCore.SampledCell
import AmurCore.ServerExchange

/-!
# The commands that a robot hears

The navigation dialog together with the server that hands its messages to the
robots. A command is not sent: it stays in the shared message until the next one
replaces it, and a robot is told of it in every reply to that robot in between.

An event of the dialog and an exchange with a robot are each taken as one step. The locks
of the two do not make them so: the dialog is constructed with the mutexes in the other
order, and an exchange may then copy a command that is being built.
-/

namespace CommandsHeard

open RobotMessages MapClicks NavDialogModel NavTaskInvariant EventRuns SampledCell

variable {ι α : Type} [DecidableEq ι] [Zero α] [One α] [Add α] [Sub α] [Mul α] [Div α] [IntCast α]

/-- An event of the dialog, or an exchange of data with a robot. -/
inductive Event (ι α : Type) where
  | dialog (e : NavDialogModel.Event α)
  | exchange (robot : ι) (report : Sensors)

/-- The exchange stores the report and replies with the shared message. -/
def exchange (report : Sensors) (s : NavDialog α) : NavDialog α × Controls α :=
  let (shared, reply) := ServerExchange.dataExchange report ⟨s.controls, s.sensors⟩
  ({ s with controls := shared.controls, sensors := shared.sensors }, reply)

def step (s : NavDialog α) : Event ι α → NavDialog α
  | .dialog e => NavDialogModel.step s e
  | .exchange _ report => (exchange report s).1

/-- The command in a reply to the robot. -/
def replied (robot : ι) (s : NavDialog α) : Event ι α → List (NavCommandRequest α)
  | .dialog _ => []
  | .exchange robot' report =>
    if robot' = robot then (exchange report s).2.navControl.toList else []

/-- The command that a step builds. -/
def builtBy (s : NavDialog α) : Event ι α → List (NavCommandRequest α)
  | .dialog e =>
    let built := (NavDialogModel.step s e).built
    built.take (built.length - s.built.length)
  | .exchange _ _ => []

/-- What a step does to the command in the shared message, as one robot sees it. -/
def accesses (robot : ι) (s : NavDialog α) (e : Event ι α) : List (Access (NavCommandRequest α)) :=
  (builtBy s e).map .write ++
    match e with
    | .dialog _ => []
    | .exchange robot' _ => if robot' = robot then [.sample] else []

/-! ### Steps -/

section Step
variable (robot : ι) (s : NavDialog α)

omit [DecidableEq ι] in
/-- A step builds at most one command, which is then in the shared message. -/
theorem builtBy_cases (e : Event ι α) :
    builtBy s e = [] ∧ (step s e).built = s.built ∧
        (step s e).controls.navControl = s.controls.navControl ∨
      ∃ command, builtBy s e = [command] ∧ (step s e).built = command :: s.built ∧
        (step s e).controls.navControl = some command := by
  cases e with
  | exchange robot report => exact Or.inl ⟨rfl, rfl, rfl⟩
  | dialog e =>
    by_cases sends : Sends s e
    · have sent := step_sent sends
      refine Or.inr ⟨commandOf (callIn s), ?_, sent.built, by rw [step, sent.controls]⟩
      simp [builtBy, sent.built]
    · have same := step_same sends
      exact Or.inl ⟨by simp [builtBy, same.built], same.built, same.navControl⟩

theorem step_content (e : Event ι α) (c : Cell (NavCommandRequest α))
    (same : s.controls.navControl = c.content) :
    (step s e).controls.navControl = (run access c (accesses robot s e)).content ∧
      replied robot s e = trace access seen c (accesses robot s e) := by
  cases e with
  | dialog e =>
    rcases builtBy_cases s (.dialog e : Event ι α) with ⟨nothing, -, kept⟩ | ⟨command, one, -, new⟩
    · rw [accesses, nothing, kept]
      exact ⟨same, rfl⟩
    · rw [accesses, one, new]
      exact ⟨rfl, rfl⟩
  | exchange robot' report =>
    by_cases mine : robot' = robot
    · have sampled : accesses robot s (.exchange robot' report) = [.sample] := if_pos mine
      have told : replied robot s (.exchange robot' report) = s.controls.navControl.toList :=
        if_pos mine
      rw [sampled, told, same]
      exact ⟨same, (List.append_nil _).symm⟩
    · have nothing : accesses robot s (.exchange robot' report) = [] := if_neg mine
      have untold : replied robot s (.exchange robot' report) = [] := if_neg mine
      rw [nothing, untold]
      exact ⟨same, rfl⟩

theorem accesses_written (e : Event ι α) :
    (accesses robot s e).filterMap written = builtBy s e := by
  have writes : ((builtBy s e).map Access.write).filterMap written = builtBy s e := by
    rw [List.filterMap_map]
    exact List.filterMap_some
  cases e with
  | dialog e =>
    rw [accesses, List.append_nil]
    exact writes
  | exchange robot' report =>
    by_cases mine : robot' = robot
    · have sampled : accesses robot s (.exchange robot' report) = [.sample] := if_pos mine
      rw [sampled]
      rfl
    · have nothing : accesses robot s (.exchange robot' report) = [] := if_neg mine
      rw [nothing]
      rfl

/-- A step loses the command that still waits to be heard, if it builds another. -/
theorem accesses_lost (e : Event ι α) (c : Cell (NavCommandRequest α)) :
    trace access lost c (accesses robot s e) = [] ↔ (builtBy s e ≠ [] → c.pending = []) := by
  cases e with
  | dialog e =>
    rcases builtBy_cases s (.dialog e : Event ι α) with ⟨nothing, -, -⟩ | ⟨command, one, -, -⟩
    · rw [accesses, nothing]
      exact iff_of_true rfl fun builds => absurd rfl builds
    · rw [accesses, one]
      simp [trace, lost]
  | exchange robot' report =>
    have nothing : builtBy s (.exchange robot' report : Event ι α) = [] := rfl
    refine iff_of_true ?_ fun builds => absurd nothing builds
    by_cases mine : robot' = robot
    · have sampled : accesses robot s (.exchange robot' report) = [.sample] := if_pos mine
      rw [sampled]
      rfl
    · have none_accessed : accesses robot s (.exchange robot' report) = [] := if_neg mine
      rw [none_accessed]
      rfl

end Step

/-! ### Runs -/

section Run
variable (view : MapView α) (robot : ι)

/-- After `AmurCore::initialize`. -/
def start : NavDialog α := construct .empty .empty view

/-- The commands in the replies to the robot, in their order. -/
def told (events : List (Event ι α)) : List (NavCommandRequest α) :=
  trace step (replied robot) (start view) events

/-- The command in the shared message, and whether the robot has been told of it. -/
def cell (events : List (Event ι α)) : Cell (NavCommandRequest α) :=
  run access .empty (trace step (accesses robot) (start view) events)

/-- What the robot is told for the first time. -/
def heard (events : List (Event ι α)) : List (NavCommandRequest α) :=
  trace access news .empty (trace step (accesses robot) (start view) events)

/-- The commands that the dialog has built, in their order. -/
def commands (events : List (Event ι α)) : List (NavCommandRequest α) :=
  (run step (start view) events).built.reverse

theorem told_eq_seen (events : List (Event ι α)) :
    told view robot events
      = trace access seen .empty (trace step (accesses robot) (start view) events) := by
  have initial : (start view).controls.navControl
      = (Cell.empty : Cell (NavCommandRequest α)).content := by
    rw [start, construct, (updateStateFromGoals_same _).navControl]
    rfl
  have matched : ∀ (s : NavDialog α) (c : Cell (NavCommandRequest α)) (e : Event ι α),
      s.controls.navControl = c.content →
        (step s e).controls.navControl = (run access c (accesses robot s e)).content ∧
          replied robot s e = trace access seen c (accesses robot s e) :=
    fun s c e same => step_content robot s e c same
  exact trace_refines matched initial events

theorem commands_eq_written (events : List (Event ι α)) :
    commands view events
      = (trace step (accesses robot) (start view) events).filterMap written := by
  induction events using List.reverseRecOn with
  | nil =>
    rw [commands, run_nil, start, construct, (updateStateFromGoals_same _).built]
    rfl
  | append_singleton events e ih =>
    rw [trace_concat, List.filterMap_append, accesses_written, ← ih, commands, run_concat]
    rcases builtBy_cases (run step (start view) events) e with
      ⟨nothing, same, -⟩ | ⟨command, one, more, -⟩
    · rw [nothing, same, List.append_nil]
      rfl
    · rw [one, more, List.reverse_cons]
      rfl

theorem lost_iff (events : List (Event ι α)) :
    trace access lost .empty (trace step (accesses robot) (start view) events) = [] ↔
      Along (fun before e => builtBy (run step (start view) before) e ≠ [] →
        (cell view robot before).pending = []) events := by
  induction events using List.reverseRecOn with
  | nil => exact iff_of_true rfl (along_nil _)
  | append_singleton events e ih =>
    rw [trace_concat, trace_append, List.append_eq_nil_iff, ih, along_concat]
    exact and_congr_right fun _ => accesses_lost robot _ e _

/-- A robot is told the commands in the order in which they were built, each one once
or several times in a row, and is told all but the one that still waits exactly when
no command was built while another one waited to be told. -/
theorem commands_heard (events : List (Event ι α)) :
    Repeats (heard view robot events) (told view robot events) ∧
      (heard view robot events).Sublist (commands view events) ∧
      (heard view robot events ++ (cell view robot events).pending
          = commands view events ↔
        Along (fun before e => builtBy (run step (start view) before) e ≠ [] →
          (cell view robot before).pending = []) events) := by
  rw [told_eq_seen, commands_eq_written view robot, ← lost_iff]
  exact ⟨seen_repeats _, news_sublist _, news_eq_iff _⟩

end Run

end CommandsHeard
