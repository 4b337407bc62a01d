import AmurCore.RobotMessages

/-!
# Building navigation commands

`NavigationAdapter::fromPoint` and `NavCommandBuilder`. A builder method clears
`controls.navControl`, selects one alternative of its `oneof` and fills it
point by point. The last section says what the three methods leave behind, so
that no later proof looks into the loops.
-/

namespace NavCommands

open RobotMessages

variable {α : Type} [Zero α] [One α]

/-- `QPointF`. -/
structure QPointF (α : Type) where
  x : α
  y : α
  deriving DecidableEq

/-- `NavigationAdapter::fromPoint`, which sets every field of the given pose. -/
def fromPoint (point : QPointF α) (pose : Pose α) : Pose α :=
  { pose with
    x := point.x, y := point.y, z := 0
    orientationW := 1, orientationX := 0, orientationY := 0, orientationZ := 0 }

/-- `add_waypoints()` and `add_poses()`: append a default pose and fill it in place. -/
def addPose (poses : List (Pose α)) (point : QPointF α) : List (Pose α) :=
  poses ++ [fromPoint point .empty]

omit [Zero α] [One α] in
/-- `mutable_navcontrol()` followed by `Clear()`. -/
def resetNavCommand (_controls : Controls α) : NavCommandRequest α := .empty

omit [Zero α] [One α] in
/-- `mutable_follow_waypoints()->mutable_waypoints()`: selecting another
alternative of the `oneof` starts from an empty list. -/
def mutableWaypoints (navCmd : NavCommandRequest α) : List (Pose α) :=
  match navCmd.command with
  | some (.followWaypoints waypoints) => waypoints
  | _ => []

omit [Zero α] [One α] in
/-- `mutable_go_through_poses()->mutable_poses()`. -/
def mutablePoses (navCmd : NavCommandRequest α) : List (Pose α) :=
  match navCmd.command with
  | some (.goThroughPoses poses) => poses
  | _ => []

def buildFollowWaypoints (controls : Controls α) (goals : List (QPointF α)) : Controls α :=
  let navCmd := resetNavCommand controls
  -- `waypoints->Clear()` empties the list before the loop fills it
  let cleared := (mutableWaypoints navCmd).take 0
  let waypoints := goals.foldl addPose cleared
  { controls with
    navControl := some { navCmd with
      command := some (.followWaypoints waypoints), requestFeedback := true } }

def buildGoThroughPoses (controls : Controls α) (goals : List (QPointF α)) : Controls α :=
  let navCmd := resetNavCommand controls
  let cleared := (mutablePoses navCmd).take 0
  let poses := goals.foldl addPose cleared
  { controls with
    navControl := some { navCmd with
      command := some (.goThroughPoses poses), requestFeedback := true } }

omit [Zero α] [One α] in
def buildCancelTask (controls : Controls α) : Controls α :=
  let navCmd := resetNavCommand controls
  { controls with
    navControl := some { navCmd with command := some .cancelTask, requestFeedback := true } }

/-- A motion command makes the robot drive. -/
def IsMotion (c : NavCommandRequest α) : Prop :=
  (∃ ws, c.command = some (.followWaypoints ws)) ∨ (∃ ps, c.command = some (.goThroughPoses ps))

/-- The poses that a motion command asks the robot to visit. -/
def targets (c : NavCommandRequest α) : List (Pose α) :=
  match c.command with
  | some (.followWaypoints ws) => ws
  | some (.goThroughPoses ps) => ps
  | _ => []

/-! What a command should say, independently of how it is built. -/

/-- A goal as a pose: at height 0, with the identity orientation. -/
def goalPose (goal : QPointF α) : Pose α := ⟨goal.x, goal.y, 0, 1, 0, 0, 0⟩

/-- The motion command of the selected kind, one pose for each goal in order. -/
def motionCommand (isFollowWaypoints : Bool) (goals : List (QPointF α)) : NavCommandRequest α :=
  ⟨some (if isFollowWaypoints then .followWaypoints (goals.map goalPose)
    else .goThroughPoses (goals.map goalPose)), true⟩

omit [Zero α] [One α] in
def cancelCommand : NavCommandRequest α := ⟨some .cancelTask, true⟩

theorem fromPoint_eq (point : QPointF α) (pose : Pose α) :
    fromPoint point pose = goalPose point := rfl

theorem foldl_addPose (goals : List (QPointF α)) (poses : List (Pose α)) :
    goals.foldl addPose poses = poses ++ goals.map goalPose := by
  induction goals generalizing poses with
  | nil => simp
  | cons goal goals ih => simp [ih, addPose, fromPoint_eq]

@[simp] theorem buildFollowWaypoints_eq (controls : Controls α) (goals : List (QPointF α)) :
    buildFollowWaypoints controls goals =
      { controls with navControl := some (motionCommand true goals) } := by
  simp [buildFollowWaypoints, foldl_addPose, motionCommand, resetNavCommand]

@[simp] theorem buildGoThroughPoses_eq (controls : Controls α) (goals : List (QPointF α)) :
    buildGoThroughPoses controls goals =
      { controls with navControl := some (motionCommand false goals) } := by
  simp [buildGoThroughPoses, foldl_addPose, motionCommand, resetNavCommand]

omit [Zero α] [One α] in
@[simp] theorem buildCancelTask_eq (controls : Controls α) :
    buildCancelTask controls = { controls with navControl := some cancelCommand } := rfl

theorem motionCommand_isMotion (isFollowWaypoints : Bool) (goals : List (QPointF α)) :
    IsMotion (motionCommand isFollowWaypoints goals) := by
  cases isFollowWaypoints with
  | true => exact Or.inl ⟨_, rfl⟩
  | false => exact Or.inr ⟨_, rfl⟩

omit [Zero α] [One α] in
theorem cancelCommand_not_isMotion : ¬ IsMotion (cancelCommand : NavCommandRequest α) := by
  rintro (⟨ws, h⟩ | ⟨ps, h⟩)
  · cases h
  · cases h

@[simp] theorem targets_motionCommand (isFollowWaypoints : Bool) (goals : List (QPointF α)) :
    targets (motionCommand isFollowWaypoints goals) = goals.map goalPose := by
  cases isFollowWaypoints with
  | true => rfl
  | false => rfl

end NavCommands
