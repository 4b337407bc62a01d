import Mathlib.Data.Rat.Defs

/-!
# The protocol messages that the program shares between its parts

`robot.proto`, `navigation.proto`, `drives.proto`, `base.proto` and `map.proto`
as proto3 reads them: a sub-message is present or absent, and an absent one is
read as its default. `Controls` goes to the robots, `Sensors` comes from them,
`GetMapResponse` holds the map, the robot pose and the zones.

A `double` of a navigation pose has an arbitrary type `α`: the program only
copies it. Fields that no part of the program reads or writes are left out.
-/

namespace RobotMessages

/-- `Navigation.CommandStatus`. A proto3 enumeration is open: a message may
carry any number, and a field that was never sent is read as number 0. -/
structure CommandStatus where
  number : Int
  deriving DecidableEq, Repr

namespace CommandStatus

def success : CommandStatus := ⟨0⟩
def failure : CommandStatus := ⟨1⟩
def inProgress : CommandStatus := ⟨2⟩
def canceled : CommandStatus := ⟨3⟩

end CommandStatus

/-- `Navigation.Pose`. -/
structure Pose (α : Type) where
  x : α
  y : α
  z : α
  orientationW : α
  orientationX : α
  orientationY : α
  orientationZ : α
  deriving DecidableEq

/-- The default message: proto3 reads every absent number as 0. -/
def Pose.empty {α : Type} [Zero α] : Pose α := ⟨0, 0, 0, 0, 0, 0, 0⟩

/-- The `oneof` of `Navigation.NavCommandRequest`: at most one alternative is set. -/
inductive Command (α : Type) where
  | goToPose (pose : Option (Pose α))
  | setInitialPose (pose : Option (Pose α)) (covariance : List α)
  | goThroughPoses (poses : List (Pose α))
  | followWaypoints (waypoints : List (Pose α))
  | spin (targetYaw timeAllowance : α)
  | cancelTask
  | isTaskComplete
  | getResult
  deriving DecidableEq

structure NavCommandRequest (α : Type) where
  command : Option (Command α)
  requestFeedback : Bool
  deriving DecidableEq

/-- The message after `Clear()`. -/
def NavCommandRequest.empty {α : Type} : NavCommandRequest α := ⟨none, false⟩

structure CameraServos where
  xAngle : Int
  yAngle : Int
  deriving DecidableEq

def CameraServos.empty : CameraServos := ⟨0, 0⟩

structure WheelMotors where
  leftPower : Int
  leftTime : Nat
  rightPower : Int
  rightTime : Nat
  deriving DecidableEq

structure HandMotors where
  leftPower : Int
  leftTime : Nat
  rightPower : Int
  rightTime : Nat
  leftRelay : Bool
  rightRelay : Bool
  deriving DecidableEq

def HandMotors.empty : HandMotors := ⟨0, 0, 0, 0, false, false⟩

inductive ControlLevel where
  | raw
  | smoothed
  | unsafety
  deriving DecidableEq

/-- `Base.BaseControl`. Both velocities are doubles that the program converts
from integers, so a rational number holds them exactly. -/
structure BaseControl where
  controlLevel : ControlLevel
  linearVelocity : ℚ
  angularVelocity : ℚ
  deriving DecidableEq

def BaseControl.empty : BaseControl := ⟨.raw, 0, 0⟩

structure Light where
  ledLeftPower : Nat
  ledRightPower : Nat
  deriving DecidableEq

def Light.empty : Light := ⟨0, 0⟩

/-- `Controls.System`: the flags of the Halt and Reboot menu entries. -/
structure System where
  haltFlag : Bool
  restartFlag : Bool
  onTime : String
  deriving DecidableEq

def System.empty : System := ⟨false, false, ""⟩

structure Controls (α : Type) where
  cameraServos : Option CameraServos
  wheelMotors : Option WheelMotors
  handMotors : Option HandMotors
  baseControl : Option BaseControl
  navControl : Option (NavCommandRequest α)
  light : Option Light
  system : Option System
  deriving DecidableEq

/-- A freshly constructed message: nothing is set. -/
def Controls.empty {α : Type} : Controls α := ⟨none, none, none, none, none, none, none⟩

/-- `Navigation.NavCommandResponse`; its optional feedback is read nowhere. -/
structure NavCommandResponse where
  status : CommandStatus
  deriving DecidableEq

def NavCommandResponse.empty : NavCommandResponse := ⟨.success⟩

/-- `Sensors`, of which the modelled code reads the navigation status only. -/
structure Sensors where
  navControlStatus : Option NavCommandResponse
  deriving DecidableEq

def Sensors.empty : Sensors := ⟨none⟩

/-- `sensors->navcontrolstatus().status()`: an absent response reads as SUCCESS. -/
def Sensors.navStatus (s : Sensors) : CommandStatus :=
  (s.navControlStatus.getD .empty).status

end RobotMessages
