import AmurCore.EventRuns
import AmurCore.RobotMessages

/-!
# The exchange of sensors and controls

`grpcServer::DataExchange` and `DataStreamExchange` for any number of robots,
and the two menu entries of `AmurCore` that set a flag of `Controls.System`.
There is one `Controls` object: every reply is a copy of it.
-/

namespace ServerExchange

open EventRuns RobotMessages

variable {ι α : Type}

/-- What the server and the window share. -/
structure State (α : Type) where
  controls : Controls α
  sensors : Sensors

inductive Event (ι : Type) where
  | robotHalt
  | robotReboot
  /-- A unary call of the robot, from the lock to the unlock. -/
  | dataExchange (robot : ι) (request : Sensors)
  /-- One turn of the stream's loop, with the message that was read. -/
  | dataStreamExchange (robot : ι) (message : Sensors)
  deriving DecidableEq

structure Reply (ι α : Type) where
  robot : ι
  controls : Controls α

/-- `mutable_system()` followed by a setter. -/
def onSystem (f : System → System) (c : Controls α) : Controls α :=
  { c with system := some (f (c.system.getD .empty)) }

def robotHalt (s : State α) : State α :=
  { s with controls := onSystem (fun system => { system with haltFlag := true }) s.controls }

def robotReboot (s : State α) : State α :=
  { s with controls := onSystem (fun system => { system with restartFlag := true }) s.controls }

/-- The new state and the reply. -/
def dataExchange (request : Sensors) (s : State α) : State α × Controls α :=
  ({ s with sensors := request }, s.controls)

/-- The new state and the message written to the stream. -/
def dataStreamExchange (message : Sensors) (s : State α) : State α × Controls α :=
  ({ s with sensors := message }, s.controls)

def step (s : State α) : Event ι → State α
  | .robotHalt => robotHalt s
  | .robotReboot => robotReboot s
  | .dataExchange _ request => (dataExchange request s).1
  | .dataStreamExchange _ message => (dataStreamExchange message s).1

/-- The replies that a step sends. -/
def replies (s : State α) : Event ι → List (Reply ι α)
  | .robotHalt | .robotReboot => []
  | .dataExchange robot request => [⟨robot, (dataExchange request s).2⟩]
  | .dataStreamExchange robot message => [⟨robot, (dataStreamExchange message s).2⟩]

/-- After `AmurCore::initialize`. -/
def start : State α := ⟨.empty, .empty⟩

/-- The replies sent during a run, in their order. -/
def sent (events : List (Event ι)) : List (Reply ι α) := trace step replies start events

def haltFlag (c : Controls α) : Bool := (c.system.getD .empty).haltFlag
def restartFlag (c : Controls α) : Bool := (c.system.getD .empty).restartFlag

/-- A flag of the shared message says whether its menu entry was ever pressed. -/
structure Remembers (c : Controls α) (events : List (Event ι)) : Prop where
  halt : haltFlag c = true ↔ .robotHalt ∈ events
  restart : restartFlag c = true ↔ .robotReboot ∈ events

theorem remembers_start : Remembers (start : State α).controls ([] : List (Event ι)) := by
  constructor <;> simp [start, haltFlag, restartFlag, Controls.empty, System.empty]

theorem step_remembers {s : State α} {events : List (Event ι)}
    (before : Remembers s.controls events) (e : Event ι) :
    Remembers (step s e).controls (events ++ [e]) := by
  obtain ⟨halt, restart⟩ := before
  cases e with
  | robotHalt =>
    constructor
    · simp [step, ServerExchange.robotHalt, onSystem, haltFlag]
    · simpa [step, ServerExchange.robotHalt, onSystem, restartFlag] using restart
  | robotReboot =>
    constructor
    · simpa [step, ServerExchange.robotReboot, onSystem, haltFlag] using halt
    · simp [step, ServerExchange.robotReboot, onSystem, restartFlag]
  | dataExchange robot request =>
    constructor
    · simpa [step, ServerExchange.dataExchange] using halt
    · simpa [step, ServerExchange.dataExchange] using restart
  | dataStreamExchange robot message =>
    constructor
    · simpa [step, ServerExchange.dataStreamExchange] using halt
    · simpa [step, ServerExchange.dataStreamExchange] using restart

theorem run_remembers (events : List (Event ι)) :
    Remembers (run step (start : State α) events).controls events := by
  induction events using List.reverseRecOn with
  | nil => exact remembers_start
  | append_singleton events e ih =>
    rw [run_concat]
    exact step_remembers ih e

/-- A reply is a copy of the shared message. -/
theorem replies_controls {s : State α} {e : Event ι} {reply : Reply ι α}
    (sent : reply ∈ replies s e) : reply.controls = s.controls := by
  cases e with
  | robotHalt => simp [replies] at sent
  | robotReboot => simp [replies] at sent
  | dataExchange robot request =>
    rw [List.mem_singleton.mp sent]
    rfl
  | dataStreamExchange robot message =>
    rw [List.mem_singleton.mp sent]
    rfl

/-- Every reply carries the halt flag exactly when Halt was pressed before it,
and the restart flag exactly when Reboot was, however often it was sent. -/
theorem replies_carry_presses (events : List (Event ι)) :
    Along
      (fun before e => ∀ reply ∈ replies (run step (start : State α) before) e,
        (haltFlag reply.controls = true ↔ .robotHalt ∈ before) ∧
          (restartFlag reply.controls = true ↔ .robotReboot ∈ before)) events := by
  rintro before e after - reply sent
  rw [replies_controls sent]
  exact ⟨(run_remembers before).halt, (run_remembers before).restart⟩

/-- One press of Reboot, and a robot that calls again is told to reboot again. -/
theorem reboots_twice :
    ¬∀ events : List (Event Unit),
      (sent events : List (Reply Unit Unit)).countP (fun reply => haltFlag reply.controls)
          ≤ events.count .robotHalt ∧
        (sent events : List (Reply Unit Unit)).countP (fun reply => restartFlag reply.controls)
          ≤ events.count .robotReboot := by
  intro claimed
  have counted := claimed [.robotReboot, .dataExchange () .empty, .dataExchange () .empty]
  revert counted
  decide

end ServerExchange
