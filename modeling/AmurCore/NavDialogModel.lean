import AmurCore.EventRuns
import AmurCore.GoalHistory
import AmurCore.MapClicks

/-!
# The navigation dialog

`NavDialog` as a state and a step function on the events of the user interface
thread. The slots of the dialog run to completion one after another; the
network thread replaces `sensors` between them. Inside one tick the status is
sampled again by the `sendGoals` that the tick may call, but the tick
overwrites `lastNavStatus` with its own sample at the end, so a report that
arrives between the two samples is no different from one after the tick.

The pointers to `controls`, `sensors` and the goals list are never null once
`AmurCore::initialize` has run. The two history variables at the end of the
state are written by the model only and read by no function of it.
-/

namespace NavDialogModel

open RobotMessages NavCommands GoalHistory MapClicks EventRuns

inductive NavTaskState where
  | idle
  | ready
  | busy
  deriving DecidableEq

/-- `sendGoalsButton`: its text and the flag that `setEnabled` gives it. -/
structure SendButton where
  text : String
  enabled : Bool
  deriving DecidableEq

/-- What the dialog is set to when `sendGoals` is entered. -/
structure SendCall (α : Type) where
  navTaskState : NavTaskState
  isFollowWaypoints : Bool
  goals : List (QPointF α)

structure NavDialog (α : Type) where
  controls : Controls α
  sensors : Sensors
  mapView : MapView α
  isFollowWaypoints : Bool
  isPatrolMode : Bool
  goalListWidget : List (Nat × QPointF α)
  sendGoalsButton : SendButton
  statusTaskLabel : String
  lastNavStatus : CommandStatus
  awaitingNavAck : Bool
  navTaskState : NavTaskState
  navigationGoalsList : List (QPointF α)
  navGoalsHistory : NavGoalsHistory (List (QPointF α))
  /-- History variable: the calls of `sendGoals` so far, the latest first. -/
  sendCalls : List (SendCall α)
  /-- History variable: the commands built into `controls.navControl`, the latest first. -/
  built : List (NavCommandRequest α)

section Display
variable {α : Type}

/-- The switch of `setTaskState`. -/
def buttonOf : NavTaskState → SendButton
  | .busy => ⟨"Stop", true⟩
  | .ready => ⟨"Send goals", true⟩
  | .idle => ⟨"Send goals", false⟩

def setTaskState (s : NavDialog α) (state : NavTaskState) : NavDialog α :=
  { s with navTaskState := state, sendGoalsButton := buttonOf state }

/-- `refreshGoalList`: a row shows its number, counted from 1, and the two coordinates. -/
def refreshGoalList (s : NavDialog α) : NavDialog α :=
  { s with goalListWidget := s.navigationGoalsList.zipIdx.map fun (p, i) => (i + 1, p) }

def recordGoalsSnapshot (s : NavDialog α) : NavDialog α :=
  { s with navGoalsHistory := s.navGoalsHistory.record s.navigationGoalsList }

def updateStateFromGoals (s : NavDialog α) : NavDialog α :=
  if s.navTaskState = .busy then s
  else if s.navigationGoalsList = [] then setTaskState s .idle
  else setTaskState s .ready

/-- `taskStatusAsString`: the name that the enumeration gives to a number. -/
def statusName (status : CommandStatus) : String :=
  if status = .success then "SUCCESS"
  else if status = .failure then "FAILURE"
  else if status = .inProgress then "IN_PROGRESS"
  else if status = .canceled then "CANCELED"
  else "Unknown status"

/-- The first part of the timer slot. `mutable_navcontrolstatus()` leaves a
default response behind when there was none. -/
def showTaskStatus (s : NavDialog α) : NavDialog α :=
  { s with
    sensors := { s.sensors with navControlStatus := some (s.sensors.navControlStatus.getD .empty) }
    statusTaskLabel := "Status: " ++ statusName s.sensors.navStatus }

/-- The slot connected to `MapWidget::goalAdded`, after the widget has pushed the point. -/
def onGoalAdded (s : NavDialog α) : NavDialog α :=
  updateStateFromGoals (refreshGoalList (recordGoalsSnapshot s))

def clearGoals (s : NavDialog α) : NavDialog α :=
  updateStateFromGoals (refreshGoalList (recordGoalsSnapshot
    { s with navigationGoalsList := [] }))

def undoGoals (s : NavDialog α) : NavDialog α :=
  match s.navGoalsHistory.undo s.navigationGoalsList with
  | (history, goals, true) =>
    updateStateFromGoals (refreshGoalList
      { s with navGoalsHistory := history, navigationGoalsList := goals })
  | (history, goals, false) =>
    { s with navGoalsHistory := history, navigationGoalsList := goals }

def redoGoals (s : NavDialog α) : NavDialog α :=
  match s.navGoalsHistory.redo s.navigationGoalsList with
  | (history, goals, true) =>
    updateStateFromGoals (refreshGoalList
      { s with navGoalsHistory := history, navigationGoalsList := goals })
  | (history, goals, false) =>
    { s with navGoalsHistory := history, navigationGoalsList := goals }

/-- A command builder has written `controls.navControl`. -/
def writeNavControl (s : NavDialog α) (controls : Controls α) : NavDialog α :=
  { s with
    controls := controls
    built := controls.navControl.getD .empty :: s.built }

def stopNavigation (s : NavDialog α) : NavDialog α :=
  writeNavControl s (buildCancelTask s.controls)

end Display

section Commands
variable {α : Type} [Zero α] [One α]

def followWaypoints (s : NavDialog α) : NavDialog α :=
  writeNavControl s (buildFollowWaypoints s.controls s.navigationGoalsList)

def goThroughPoses (s : NavDialog α) : NavDialog α :=
  writeNavControl s (buildGoThroughPoses s.controls s.navigationGoalsList)

/-- The entry of `sendGoals`: remember the call, sample the status. -/
def enterSendGoals (s : NavDialog α) : NavDialog α :=
  { s with
    sendCalls := ⟨s.navTaskState, s.isFollowWaypoints, s.navigationGoalsList⟩ :: s.sendCalls
    lastNavStatus := s.sensors.navStatus }

/-- `sendGoals` is Send or Stop, depending on the task state. -/
def sendGoals (s : NavDialog α) : NavDialog α :=
  let s := enterSendGoals s
  if s.navTaskState = .busy then
    { stopNavigation s with awaitingNavAck := true }
  else
    let s := if s.isFollowWaypoints then followWaypoints s else goThroughPoses s
    { setTaskState s .busy with awaitingNavAck := true }

/-- The switch of `updateStateFromStatus` and the assignment after it. -/
def dispatchStatus (s : NavDialog α) (status : CommandStatus) : NavDialog α :=
  let s :=
    if status = .inProgress then setTaskState s .busy
    else if status = .success then
      if s.navigationGoalsList ≠ [] then
        if s.isPatrolMode then sendGoals s else setTaskState s .ready
      else setTaskState s .idle
    else if status = .failure ∨ status = .canceled then
      if s.navigationGoalsList ≠ [] then setTaskState s .ready else setTaskState s .idle
    else updateStateFromGoals s
  { s with lastNavStatus := status }

def updateStateFromStatus (s : NavDialog α) : NavDialog α :=
  let status := s.sensors.navStatus
  if s.navTaskState = .busy ∧ s.awaitingNavAck = true then
    -- busy is kept until the sampled status differs from the one before
    if status ≠ s.lastNavStatus then dispatchStatus { s with awaitingNavAck := false } status
    else { s with lastNavStatus := status }
  else dispatchStatus s status

/-- The timer slot up to the map refresh. -/
def onTimeout (s : NavDialog α) : NavDialog α := updateStateFromStatus (showTaskStatus s)

end Commands

inductive Event (α : Type) where
  | mousePress (button : MouseButton) (pos : QPoint)
  | clearClicked
  | undoClicked
  | redoClicked
  | radioFollowWaypoints (checked : Bool)
  | radioGoThroughPoses (checked : Bool)
  | patrolToggled (checked : Bool)
  | sendClicked
  /-- A server handler stores the report of a robot. -/
  | networkReport (sensors : Sensors)
  | timerTick
  /-- A map refresh, a zoom, a drag or a resize has left another view. -/
  | mapChanged (view : MapView α)
  /-- The joystick control or a menu entry writes other fields of `controls`. -/
  | controlsWritten (controls : Controls α)

section Steps
variable {α : Type} [Zero α] [One α] [Add α] [Sub α] [Mul α] [Div α] [IntCast α]

def step (s : NavDialog α) : Event α → NavDialog α
  | .mousePress button pos =>
    match mousePressEvent s.mapView button pos with
    | some goal => onGoalAdded { s with navigationGoalsList := s.navigationGoalsList ++ [goal] }
    | none => s
  | .clearClicked => clearGoals s
  | .undoClicked => undoGoals s
  | .redoClicked => redoGoals s
  | .radioFollowWaypoints checked => if checked then { s with isFollowWaypoints := true } else s
  | .radioGoThroughPoses checked => if checked then { s with isFollowWaypoints := false } else s
  | .patrolToggled checked => { s with isPatrolMode := checked }
  -- a disabled button emits no `clicked`
  | .sendClicked => if s.sendGoalsButton.enabled then sendGoals s else s
  | .networkReport sensors => { s with sensors := sensors }
  | .timerTick => onTimeout s
  | .mapChanged view => { s with mapView := view }
  | .controlsWritten controls =>
    { s with controls := { controls with navControl := s.controls.navControl } }

end Steps

/-- The constructor, for the messages and the view that it is given. -/
def construct {α : Type} (controls : Controls α) (sensors : Sensors) (mapView : MapView α) :
    NavDialog α :=
  updateStateFromGoals (refreshGoalList
    { controls := controls
      sensors := sensors
      mapView := mapView
      isFollowWaypoints := true
      isPatrolMode := false
      goalListWidget := []
      sendGoalsButton := ⟨"Send goals", true⟩
      statusTaskLabel := ""
      lastNavStatus := .success
      awaitingNavAck := false
      navTaskState := .idle
      navigationGoalsList := []
      navGoalsHistory := NavGoalsHistory.construct []
      sendCalls := []
      built := [] })

end NavDialogModel
