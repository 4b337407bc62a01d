import Mathlib.Data.List.Basic
import AmurCore.EventRuns

/-!
# Joystick adapters

`VJoystickAdapter` with its thread, for the adapter of the joystick dialog and for
those that `GetStateByJoystick` makes at every accepted joystick. They are all
threads of one process and wait for events from the one queue of SDL.

Assertions are taken to be compiled out, so a joystick that was unplugged can be
replaced without having been closed. `close` waits for the thread of its adapter, so it
is two steps; whatever thread calls it is blocked in between.
-/

namespace JoystickAdapter

open EventRuns

inductive Signal where
  | buttonChanged (id : Int) (state : Bool)
  | axisChanged (id state : Int)
  | hatChanged (id state : Int)
  | ballChanged (id stateX stateY : Int)
  deriving DecidableEq

/-- An `SDL_Event`; `which` is an instance id. Of one that is neither a quit nor of a joystick nothing is
emitted, whatever the bytes at `which` are. -/
inductive Message where
  | quit
  | joystick (which : Int) (signal : Signal)
  | other
  deriving DecidableEq

structure Adapter where
  /-- The player index of `m_joystick`, unless that is null. The thread compares it with
  `which` of an event, which is the instance id that SDL keeps beside the player index. -/
  joystick : Option Int
  /-- The thread is running. -/
  running : Bool
  /-- A call of `close` waits for the thread. -/
  closing : Bool
  deriving DecidableEq

/-- `VJoystickAdapter::VJoystickAdapter` -/
def Adapter.constructed : Adapter := ⟨none, false, false⟩

def Adapter.getJoystickId (adapter : Adapter) : Int := adapter.joystick.getD (-1)

structure System where
  adapters : List Adapter
  /-- The events that SDL has not handed out yet. -/
  queue : List Message

namespace System

def start : System := ⟨[], []⟩

def put (k : Nat) (adapter : Adapter) (s : System) : System :=
  { s with adapters := s.adapters.set k adapter }

end System

inductive Event where
  | construct
  /-- `open`, with whether the joystick of the adapter is attached, and the one that SDL
  opens, if that is. -/
  | openJoystick (k : Nat) (attached : Bool) (joystick : Option Int)
  /-- `close` up to the wait, and whether SDL accepts the event. -/
  | close (k : Nat) (queued : Bool)
  /-- The wait in `close` returns. -/
  | closed (k : Nat)
  /-- `SDL_WaitEvent` returns in a thread. -/
  | take (k : Nat)
  /-- SDL reports something. -/
  | post (message : Message)

/-- `VJoystickAdapter::open`; a thread that runs is not started again. -/
def openJoystick (attached : Bool) (joystick : Option Int) (adapter : Adapter) : Option Adapter :=
  if adapter.closing then none
  else if adapter.joystick.isSome && attached then some adapter
  else
    match joystick with
    | none => some { adapter with joystick := none }
    | some index => some { adapter with joystick := some index, running := true }

/-- What is pushed by `VJoystickAdapter::close`. -/
def closeEvents (queued : Bool) (adapter : Adapter) : List Message :=
  if adapter.joystick.isSome && queued then [.quit] else []

/-- `VJoystickAdapter::close` up to the wait. -/
def close (adapter : Adapter) : Option Adapter :=
  if adapter.closing then none
  else some { adapter with closing := adapter.joystick.isSome }

/-- The rest of `VJoystickAdapter::close`. -/
def closed (adapter : Adapter) : Option Adapter :=
  if adapter.closing && !adapter.running then some .constructed else none

/-- One turn of `VJoystickThread::run`. -/
def runThread (message : Message) (adapter : Adapter) : Adapter :=
  match message with
  | .quit => { adapter with running := false }
  | _ => adapter

/-- The signal that the turn emits. -/
def emitted (message : Message) (id : Int) : Option Signal :=
  match message with
  | .joystick which signal => if which = id then some signal else none
  | _ => none

/-- A step of one adapter. -/
def System.change (s : System) (k : Nat) (f : Adapter → Option Adapter) (pushed : List Message) :
    Option System :=
  (s.adapters[k]?.bind f).map fun adapter =>
    { s.put k adapter with queue := s.queue ++ pushed }

def pushedBy (s : System) : Event → List Message
  | .close k queued => s.adapters[k]?.elim [] (closeEvents queued)
  | .post message => [message]
  | _ => []

def step (s : System) (e : Event) : Option System :=
  match e with
  | .construct => some { s with adapters := s.adapters ++ [.constructed] }
  | .openJoystick k attached joystick => s.change k (openJoystick attached joystick) []
  | .close k _ => s.change k close (pushedBy s e)
  | .closed k => s.change k closed []
  | .take k =>
    match s.queue, s.adapters[k]? with
    | message :: queue, some adapter =>
      if adapter.running then some { s.put k (runThread message adapter) with queue := queue }
      else none
    | _, _ => none
  | .post message => some { s with queue := s.queue ++ [message] }

/-- The state `s` is reached by the events. -/
def Reaches (events : List Event) (s : System) : Prop :=
  run (lift step) (some .start) events = some s

/-! ### What the threads do with the queue -/

/-- What a step does to the queue: a thread takes an event with the player index
that its adapter has at the time. -/
inductive Access where
  | pushed (message : Message)
  | taken (k : Nat) (id : Int) (message : Message)

def access (s : System) (e : Event) : List Access :=
  match e with
  | .take k =>
    match s.queue, s.adapters[k]? with
    | message :: _, some adapter => [.taken k adapter.getJoystickId message]
    | _, _ => []
  | _ => (pushedBy s e).map .pushed

namespace Access

def pushedMessage : Access → Option Message
  | .pushed message => some message
  | .taken .. => none

def takenMessage : Access → Option Message
  | .pushed _ => none
  | .taken _ _ message => some message

/-- The signals of a joystick that are emitted. -/
def signal (which : Int) : Access → Option Signal
  | .pushed _ => none
  | .taken _ id message => if id = which then emitted message id else none

end Access

/-- What is accessed in a run. -/
def accesses (events : List Event) : List Access :=
  trace (lift step) (lifted access) (some .start) events

end JoystickAdapter
