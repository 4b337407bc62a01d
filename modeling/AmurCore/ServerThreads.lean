import AmurCore.EventRuns
import AmurCore.LockedSections

/-!
# Server handlers and the user interface thread

The two mutexes of `grpcServer`, the five handlers that any number of robots
may be calling, and the locked sections of `NavDialog` in the user interface
thread. A step is one acquisition, release, call, arrival of a message or
return of a `Read`; the threads interleave in any order. The references that
the dialog holds are a parameter, because they are bound by position through
two constructors.
-/

namespace ServerThreads

open EventRuns LockedSections

inductive Mutex where
  | muServer
  | muMap
  deriving DecidableEq

def Mutex.other : Mutex → Mutex
  | .muServer => .muMap
  | .muMap => .muServer

/-- The handlers of `grpcServer`. -/
inductive HandlerKind where
  | dataExchange
  | dataStreamExchange
  | mapStream
  | poseStream
  | zoneStream
  deriving DecidableEq

namespace HandlerKind

/-- The handler exchanges `controls` and `sensors`; the others write the map. -/
def exchangesData : HandlerKind → Bool
  | dataExchange | dataStreamExchange => true
  | mapStream | poseStream | zoneStream => false

/-- The mutex that the handler locks. -/
def mutex : HandlerKind → Mutex
  | dataExchange | dataStreamExchange => .muServer
  | mapStream | poseStream | zoneStream => .muMap

end HandlerKind

/-- The locked sections of `NavDialog`, named after their functions. -/
inductive UiSection where
  | followWaypoints
  | goThroughPoses
  | stopNavigation
  | sendGoals
  | taskStatusAsString
  | updateStateFromStatus
  | onMapUpdated
  deriving DecidableEq

/-- The references that the dialog was constructed with. -/
structure DialogMutexes where
  grpcMutex : Mutex
  mapMutex : Mutex

/-- The mutex parameters of `NavDialog::NavDialog`, in their order. -/
def constructNavDialog (grpcMutex mapMutex : Mutex) : DialogMutexes := ⟨grpcMutex, mapMutex⟩

def getMutex : Mutex := .muServer
def getMapMutex : Mutex := .muMap

/-- The construction of the dialog in `AmurCore::initialize`. -/
def wireNavDialog : DialogMutexes :=
  let mapMutex := getMapMutex
  let grpcMutex := getMutex
  constructNavDialog mapMutex grpcMutex

/-- `onMapUpdated` locks `mapMutex_`, every other section `grpcMutex_`. -/
def UiSection.mutex (w : DialogMutexes) : UiSection → Mutex
  | onMapUpdated => w.mapMutex
  | followWaypoints | goThroughPoses | stopNavigation | sendGoals | taskStatusAsString
  | updateStateFromStatus => w.grpcMutex

/-- Where a handler is. A stream handler that has not been called, or has
returned, is `idle`, and so is a unary one. -/
inductive HandlerPc where
  | idle
  /-- In `Read`, without a lock. -/
  | reading
  /-- At the lock operation. -/
  | locking
  /-- `DataStreamExchange` calls `Read` with the lock held. -/
  | readingLocked
  /-- In the locked section, with a message. -/
  | inside
  deriving DecidableEq

/-- The handler is between its lock and its unlock. -/
def HandlerPc.locked : HandlerPc → Bool
  | readingLocked | inside => true
  | idle | reading | locking => false

inductive Thread (ι : Type) where
  | ui
  | handler (i : ι)
  deriving DecidableEq

/-- `arrived i` counts the messages for handler `i` that it has not read. -/
structure State (ι : Type) where
  owner : Mutex → Option (Thread ι)
  ui : Option UiSection
  pc : ι → HandlerPc
  arrived : ι → Nat

inductive Action (ι : Type) where
  | uiLock (section_ : UiSection)
  | uiUnlock
  | call (i : ι)
  | arrive (i : ι)
  | lock (i : ι)
  | read (i : ι)
  /-- `Read` returns false and the handler returns. -/
  | close (i : ι)
  | unlock (i : ι)

namespace HandlerKind

/-- The first blocking operation of a call: a unary call has its message already. -/
def entry : HandlerKind → HandlerPc
  | dataExchange | dataStreamExchange => .locking
  | mapStream | poseStream | zoneStream => .reading

/-- Where the handler is once it holds the lock. -/
def afterLock : HandlerKind → HandlerPc
  | dataStreamExchange => .readingLocked
  | dataExchange | mapStream | poseStream | zoneStream => .inside

/-- Where the handler goes once it has released the lock. -/
def afterUnlock : HandlerKind → HandlerPc
  | dataExchange => .idle
  | dataStreamExchange => .locking
  | mapStream | poseStream | zoneStream => .reading

end HandlerKind

section Steps
variable {ι : Type} [DecidableEq ι] (w : DialogMutexes) (kind : ι → HandlerKind)

/-- One step, undefined where the action cannot happen. -/
def step (s : State ι) : Action ι → Option (State ι)
  | .uiLock sec =>
    if s.ui = none ∧ s.owner (sec.mutex w) = none then
      some { s with
        owner := Function.update s.owner (sec.mutex w) (some .ui)
        ui := some sec }
    else none
  | .uiUnlock =>
    match s.ui with
    | some sec => some { s with
        owner := Function.update s.owner (sec.mutex w) none
        ui := none }
    | none => none
  | .call i =>
    if s.pc i = .idle then some { s with pc := Function.update s.pc i (kind i).entry } else none
  | .arrive i => some { s with arrived := Function.update s.arrived i (s.arrived i + 1) }
  | .lock i =>
    if s.pc i = .locking ∧ s.owner (kind i).mutex = none then
      some { s with
        owner := Function.update s.owner (kind i).mutex (some (.handler i))
        pc := Function.update s.pc i (kind i).afterLock }
    else none
  | .read i =>
    if 0 < s.arrived i then
      let rest := Function.update s.arrived i (s.arrived i - 1)
      if s.pc i = .reading then
        some { s with arrived := rest, pc := Function.update s.pc i .locking }
      else if s.pc i = .readingLocked then
        some { s with arrived := rest, pc := Function.update s.pc i .inside }
      else none
    else none
  | .close i =>
    if s.pc i = .reading then some { s with pc := Function.update s.pc i .idle }
    else if s.pc i = .readingLocked then
      -- the destructor of the `unique_lock` releases the mutex
      some { s with
        owner := Function.update s.owner (kind i).mutex none
        pc := Function.update s.pc i .idle }
    else none
  | .unlock i =>
    if s.pc i = .inside then
      some { s with
        owner := Function.update s.owner (kind i).mutex none
        pc := Function.update s.pc i (kind i).afterUnlock }
    else none

/-- What an action needs, and the state it leads to. -/
inductive Stepped (s : State ι) : Action ι → State ι → Prop where
  | uiLock (sec : UiSection) (outside : s.ui = none) (free : s.owner (sec.mutex w) = none) :
    Stepped s (.uiLock sec) { s with
      owner := Function.update s.owner (sec.mutex w) (some .ui)
      ui := some sec }
  | uiUnlock (sec : UiSection) (inside : s.ui = some sec) :
    Stepped s .uiUnlock { s with
      owner := Function.update s.owner (sec.mutex w) none
      ui := none }
  | call (i : ι) (idle : s.pc i = .idle) :
    Stepped s (.call i) { s with pc := Function.update s.pc i (kind i).entry }
  | arrive (i : ι) :
    Stepped s (.arrive i) { s with arrived := Function.update s.arrived i (s.arrived i + 1) }
  | lock (i : ι) (locking : s.pc i = .locking) (free : s.owner (kind i).mutex = none) :
    Stepped s (.lock i) { s with
      owner := Function.update s.owner (kind i).mutex (some (.handler i))
      pc := Function.update s.pc i (kind i).afterLock }
  | read (i : ι) (reading : s.pc i = .reading) :
    Stepped s (.read i) { s with
      arrived := Function.update s.arrived i (s.arrived i - 1)
      pc := Function.update s.pc i .locking }
  | readLocked (i : ι) (reading : s.pc i = .readingLocked) :
    Stepped s (.read i) { s with
      arrived := Function.update s.arrived i (s.arrived i - 1)
      pc := Function.update s.pc i .inside }
  | close (i : ι) (reading : s.pc i = .reading) :
    Stepped s (.close i) { s with pc := Function.update s.pc i .idle }
  | closeLocked (i : ι) (reading : s.pc i = .readingLocked) :
    Stepped s (.close i) { s with
      owner := Function.update s.owner (kind i).mutex none
      pc := Function.update s.pc i .idle }
  | unlock (i : ι) (inside : s.pc i = .inside) :
    Stepped s (.unlock i) { s with
      owner := Function.update s.owner (kind i).mutex none
      pc := Function.update s.pc i (kind i).afterUnlock }

variable {w kind} in
theorem step_stepped {s t : State ι} {a : Action ι} (h : step w kind s a = some t) :
    Stepped w kind s a t := by
  cases a with
  | uiLock sec =>
    simp only [step] at h
    split at h
    · rename_i ready
      cases h
      exact .uiLock sec ready.1 ready.2
    · cases h
  | uiUnlock =>
    simp only [step] at h
    split at h
    · rename_i sec inside
      cases h
      exact .uiUnlock sec inside
    · cases h
  | call i =>
    simp only [step] at h
    split at h
    · rename_i idle
      cases h
      exact .call i idle
    · cases h
  | arrive i =>
    cases h
    exact .arrive i
  | lock i =>
    simp only [step] at h
    split at h
    · rename_i ready
      cases h
      exact .lock i ready.1 ready.2
    · cases h
  | read i =>
    simp only [step] at h
    split at h
    · split at h
      · rename_i reading
        cases h
        exact .read i reading
      · split at h
        · rename_i reading
          cases h
          exact .readLocked i reading
        · cases h
    · cases h
  | close i =>
    simp only [step] at h
    split at h
    · rename_i reading
      cases h
      exact .close i reading
    · split at h
      · rename_i reading
        cases h
        exact .closeLocked i reading
      · cases h
  | unlock i =>
    simp only [step] at h
    split at h
    · rename_i inside
      cases h
      exact .unlock i inside
    · cases h

/-- Before any call: no thread is in a section and no message has arrived. -/
def start : State ι := ⟨fun _ => none, none, fun _ => .idle, fun _ => 0⟩

/-- The state `s` is reached by the actions, all of which could happen. -/
def Reaches (actions : List (Action ι)) (s : State ι) : Prop :=
  run (lift (step w kind)) (some start) actions = some s

/-- The mutex that a thread holds by being where it is. -/
def holds (s : State ι) : Thread ι → Option Mutex
  | .ui => s.ui.map (UiSection.mutex w)
  | .handler i => if (s.pc i).locked then some (kind i).mutex else none

end Steps

end ServerThreads
