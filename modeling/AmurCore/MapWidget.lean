import Mathlib.Data.Rat.Floor
import AmurCore.EventRuns
import AmurCore.MapClicks
import AmurCore.MapPainting

/-!
# The map widget

`MapWidget` as a state machine: the map it was given, the view that resizing,
zooming and dragging leave, the pose of the robot and the goals it shares with
the dialog. Coordinates are exact rationals. `round` is `qRound`, and `toFloat`
the conversion of a double to the `float` members of the robot's position.
-/

namespace MapWidget

open EventRuns NavCommands MapClicks MapPainting

structure PoseQuaternion where
  x : ℚ
  y : ℚ
  z : ℚ
  w : ℚ
  deriving DecidableEq

structure ZoneOverlay where
  id : UInt32
  typeId : UInt32
  name : String
  color : QColor
  contour : List (QPointF ℚ)

/-- The members of `MapWidget` and its size. -/
structure State where
  size : ImageSize
  mapImage : Option QImage
  firstMapLoaded : Bool
  originX : ℚ
  originY : ℚ
  mapResolution : ℚ
  scaleFactor : ℚ
  offset : QPoint
  panning : Bool
  lastMousePos : QPoint
  robotX : ℚ
  robotY : ℚ
  /-- The quaternion that `m_robot_theta` was computed from, if it was. -/
  robotOrientation : Option PoseQuaternion
  zones : List ZoneOverlay
  goals : List (QPointF ℚ)

/-- The size of `m_mapImage`. -/
def State.imageSize (s : State) : Option ImageSize :=
  s.mapImage.map fun image => ⟨image.width, image.height⟩

def State.view (s : State) : MapView ℚ :=
  ⟨s.imageSize, s.originX, s.originY, s.mapResolution, s.scaleFactor, s.offset⟩

/-- The constructor leaves the origin of the map without a value. -/
def construct (size : ImageSize) (originX originY : ℚ) : State where
  size := size
  mapImage := none
  firstMapLoaded := false
  originX := originX
  originY := originY
  mapResolution := 1 / 20
  scaleFactor := 1
  offset := ⟨0, 0⟩
  panning := false
  lastMousePos := ⟨0, 0⟩
  robotX := 0
  robotY := 0
  robotOrientation := none
  zones := []
  goals := []

def minScale : ℚ := 1 / 10

def maxScale : ℚ := 10

/-- `std::clamp`. -/
def clamp (v lo hi : ℚ) : ℚ := if v < lo then lo else if hi < v then hi else v

/-- The conversion of a double to an integer, towards zero. -/
def truncate (q : ℚ) : ℤ := q.num.tdiv q.den

/-! ### The map -/

def updateScaleOnResize (widgetWidth widgetHeight : ℤ) (s : State) : State :=
  match s.mapImage with
  | none => s
  | some image =>
    let scaleX := (widgetWidth : ℚ) / image.width
    let scaleY := (widgetHeight : ℚ) / image.height
    let scaleFactor := clamp (min scaleX scaleY) minScale maxScale
    let scaledWidth := image.width * scaleFactor
    let scaledHeight := image.height * scaleFactor
    { s with
      scaleFactor := scaleFactor
      offset := ⟨truncate ((widgetWidth - scaledWidth) / 2),
        truncate ((widgetHeight - scaledHeight) / 2)⟩ }

/-- The checks that `setMapData` makes before it takes over a map. -/
def accepts (data : List Int8) (width height : ℤ) : Bool :=
  !(width ≤ 0 || height ≤ 0 || data.isEmpty) && data.length = width * height

def setMapData (data : List Int8) (width height : ℤ) (resolution originX originY : ℚ)
    (s : State) : State :=
  if accepts data width height then
    let s := { s with
      mapResolution := resolution
      originX := originX
      originY := originY
      mapImage := some (paint data width.toNat height.toNat) }
    if s.firstMapLoaded then s
    else { updateScaleOnResize s.size.width s.size.height s with firstMapLoaded := true }
  else { s with mapImage := none }

def resizeEvent (width height : ℤ) (s : State) : State :=
  updateScaleOnResize width height { s with size := ⟨width, height⟩ }

/-! ### Zooming and dragging -/

/-- `MapWidget::worldToMap`. -/
def worldToMap (v : MapView ℚ) (world : QPointF ℚ) : QPointF ℚ :=
  let px := (world.x - v.originX) / v.mapResolution
  let py := ((v.imageHeight - 1 : ℤ) : ℚ) - (world.y - v.originY) / v.mapResolution
  ⟨px, py⟩

/-- `MapWidget::mapToWidget`. -/
def mapToWidget (v : MapView ℚ) (mapPt : QPointF ℚ) : QPointF ℚ :=
  ⟨mapPt.x * v.scaleFactor + v.offset.x, mapPt.y * v.scaleFactor + v.offset.y⟩

section Rounding
variable (round : ℚ → ℤ) (toFloat : ℚ → ℚ)

def wheelEvent (mousePos : QPointF ℚ) (angleDeltaY : ℤ) (s : State) : State :=
  match s.mapImage with
  | none => s
  | some _ =>
    let beforeScaleMapPoint := widgetToMap s.view mousePos
    let numDegreesY := round ((angleDeltaY : ℚ) / 8)
    if numDegreesY = 0 then s
    else
      let factor : ℚ := 23 / 20
      let scaled := if numDegreesY > 0 then s.scaleFactor * factor else s.scaleFactor / factor
      let s := { s with scaleFactor := clamp scaled minScale maxScale }
      let afterScaleScreenPoint := mapToWidget s.view beforeScaleMapPoint
      { s with
        offset := ⟨s.offset.x + round (mousePos.x - afterScaleScreenPoint.x),
          s.offset.y + round (mousePos.y - afterScaleScreenPoint.y)⟩ }

def mousePressEvent (button : MouseButton) (pos : QPoint) (s : State) : State :=
  match s.mapImage with
  | none => s
  | some _ =>
    let s := if button = .left then { s with panning := true, lastMousePos := pos } else s
    match MapClicks.mousePressEvent s.view button pos with
    | some worldPoint => { s with goals := s.goals ++ [worldPoint] }
    | none => s

def mouseMoveEvent (pos : QPoint) (s : State) : State :=
  if s.panning then
    { s with
      lastMousePos := pos
      offset := ⟨s.offset.x + (pos.x - s.lastMousePos.x),
        s.offset.y + (pos.y - s.lastMousePos.y)⟩ }
  else s

def mouseReleaseEvent (button : MouseButton) (s : State) : State :=
  if button = .left ∧ s.panning = true then { s with panning := false } else s

def centerOnRobot (s : State) : State :=
  match s.mapImage with
  | none => s
  | some image =>
    let robotMapX := (s.robotX - s.originX) / s.mapResolution
    let robotMapY := ((image.height : ℚ) - 1) - (s.robotY - s.originY) / s.mapResolution
    { s with
      offset := ⟨round ((s.size.width : ℚ) / 2 - robotMapX * s.scaleFactor),
        round ((s.size.height : ℚ) / 2 - robotMapY * s.scaleFactor)⟩ }

/-! ### The robot, the zones and the goals -/

def setRobotPose (posX posY : ℚ) (quaternion : PoseQuaternion) (s : State) : State :=
  { s with
    robotX := toFloat posX
    robotY := toFloat posY
    robotOrientation := some quaternion }

def setZones (zones : List ZoneOverlay) (s : State) : State := { s with zones := zones }

/-- What `drawWaypoints` draws for a goal: the centre of the circle on the
screen, and the number beside it. -/
structure Marker where
  centre : QPointF ℚ
  goalIndex : Nat
  deriving DecidableEq

def drawWaypoint (v : MapView ℚ) (goal : QPointF ℚ) : QPointF ℚ :=
  let mapPixelX := (goal.x - v.originX) / v.mapResolution
  let mapPixelY := v.imageHeight - (goal.y - v.originY) / v.mapResolution
  ⟨v.offset.x + v.scaleFactor * mapPixelX, v.offset.y + v.scaleFactor * mapPixelY⟩

def drawWaypoints (s : State) : List Marker :=
  s.goals.zipIdx.map fun (goal, i) => ⟨drawWaypoint s.view goal, i + 1⟩

/-! ### Runs -/

inductive Event where
  | setMapData (data : List Int8) (width height : ℤ) (resolution originX originY : ℚ)
  | setRobotPose (posX posY : ℚ) (quaternion : PoseQuaternion)
  | setZones (zones : List ZoneOverlay)
  | resize (width height : ℤ)
  | wheel (mousePos : QPointF ℚ) (angleDeltaY : ℤ)
  | mousePress (button : MouseButton) (pos : QPoint)
  | mouseMove (pos : QPoint)
  | mouseRelease (button : MouseButton)
  | centerOnRobot
  /-- The dialog changed the list of goals. -/
  | goals (goals : List (QPointF ℚ))

def step (s : State) : Event → State
  | .setMapData data width height resolution originX originY =>
    setMapData data width height resolution originX originY s
  | .setRobotPose posX posY quaternion => setRobotPose toFloat posX posY quaternion s
  | .setZones zones => setZones zones s
  | .resize width height => resizeEvent width height s
  | .wheel mousePos angleDeltaY => wheelEvent round mousePos angleDeltaY s
  | .mousePress button pos => mousePressEvent button pos s
  | .mouseMove pos => mouseMoveEvent pos s
  | .mouseRelease button => mouseReleaseEvent button s
  | .centerOnRobot => centerOnRobot round s
  | .goals goals => { s with goals := goals }

/-- The state `s` is reached from some start by the events. -/
def Reaches (events : List Event) (s : State) : Prop :=
  ∃ size originX originY, s = run (step round toFloat) (construct size originX originY) events

end Rounding

end MapWidget
