import Mathlib.Data.Int.Range
import Mathlib.Order.Lattice
import AmurCore.MapWidget

/-!
# What the layers draw

The places at which `MapWidget` draws the map, the zones, the grid and the robot.
All but `drawZones` have their own copy of the formula that takes the world to
the screen. The layers of the map, of the zones and of the grid are drawn in the
coordinates of the map, which `drawMapLayer`, `drawZonesLayer` and
`drawGridLayer` shift by the offset and scale.
-/

namespace MapDrawing

open NavCommands MapPainting MapWidget

/-! ### The map -/

/-- A rectangle of the screen. -/
structure Rect where
  left : ℚ
  top : ℚ
  right : ℚ
  bottom : ℚ
  deriving DecidableEq

/-- `drawImage(0, 0, m_mapImage)` in the shifted and scaled coordinates. -/
def drawMapLayer (s : State) : Option Rect :=
  s.mapImage.map fun image =>
    let topLeft := mapToWidget s.view ⟨0, 0⟩
    let bottomRight := mapToWidget s.view ⟨image.width, image.height⟩
    ⟨topLeft.x, topLeft.y, bottomRight.x, bottomRight.y⟩

/-! ### The zones -/

/-- The corners that `drawRect` is given. -/
def Rect.corners (rect : Rect) : List (QPointF ℚ) :=
  [⟨rect.left, rect.top⟩, ⟨rect.right, rect.bottom⟩]

/-- A turn of the loop of `QPolygonF::boundingRect`. -/
def Rect.around (rect : Rect) (pt : QPointF ℚ) : Rect :=
  ⟨min rect.left pt.x, min rect.top pt.y, max rect.right pt.x, max rect.bottom pt.y⟩

/-- `QPolygonF::boundingRect` -/
def boundingRect : List (QPointF ℚ) → Rect
  | [] => ⟨0, 0, 0, 0⟩
  | pt :: poly => poly.foldl Rect.around ⟨pt.x, pt.y, pt.x, pt.y⟩

/-- A change of coordinates that keeps their order takes the rectangle along. -/
theorem boundingRect_map {f g : ℚ → ℚ} (hf : Monotone f) (hg : Monotone g)
    {poly : List (QPointF ℚ)} (drawn : poly ≠ []) :
    boundingRect (poly.map fun pt => ⟨f pt.x, g pt.y⟩)
      = ⟨f (boundingRect poly).left, g (boundingRect poly).top, f (boundingRect poly).right,
          g (boundingRect poly).bottom⟩ := by
  have folded : ∀ (poly : List (QPointF ℚ)) (rect : Rect),
      (poly.map fun pt => ⟨f pt.x, g pt.y⟩).foldl Rect.around
          ⟨f rect.left, g rect.top, f rect.right, g rect.bottom⟩
        = ⟨f (poly.foldl Rect.around rect).left, g (poly.foldl Rect.around rect).top,
            f (poly.foldl Rect.around rect).right, g (poly.foldl Rect.around rect).bottom⟩ := by
    intro poly
    induction poly with
    | nil => exact fun _ => rfl
    | cons pt poly ih =>
      intro rect
      rw [List.map_cons, List.foldl_cons, List.foldl_cons, ← ih, Rect.around, Rect.around,
        hf.map_min, hg.map_min, hf.map_max, hg.map_max]
  cases poly with
  | nil => exact absurd rfl drawn
  | cons pt poly => exact folded poly ⟨pt.x, pt.y, pt.x, pt.y⟩

/-- What `drawZones` draws for a zone: its outline in the coordinates of the map,
the colour that fill and pen are shades of, and the rectangle around the outline,
which `debugZones` adds. -/
structure ZoneShape where
  poly : List (QPointF ℚ)
  color : QColor
  bounds : Rect
  deriving DecidableEq

def drawZones (s : State) : List ZoneShape :=
  match s.mapImage with
  | none => []
  | some _ =>
    s.zones.filterMap fun zone =>
      if zone.contour.length < 3 then none
      else
        let poly := zone.contour.map (worldToMap s.view)
        some ⟨poly, zone.color, boundingRect poly⟩

/-! ### The grid -/

/-- A line of the grid, in the coordinates of the map, with the metre that it marks. -/
structure GridLine where
  metre : ℤ
  start : QPointF ℚ
  stop : QPointF ℚ
  deriving DecidableEq

/-- A turn of the first loop of `drawGrid`. -/
def verticalLine (s : State) (image : QImage) (i : ℤ) : Option GridLine :=
  let px := (i - s.originX) / s.mapResolution
  if px < 0 ∨ px > image.width then none
  else some ⟨i, ⟨px, 0⟩, ⟨px, image.height⟩⟩

/-- A turn of the second loop. -/
def horizontalLine (s : State) (image : QImage) (j : ℤ) : Option GridLine :=
  let py := ((image.height : ℚ) - 1) - (j - s.originY) / s.mapResolution
  if py < 0 ∨ py > image.height then none
  else some ⟨j, ⟨0, py⟩, ⟨image.width, py⟩⟩

/-- The vertical and the horizontal lines, in the order in which they are drawn. -/
def drawGrid (s : State) : List GridLine × List GridLine :=
  match s.mapImage with
  | none => ([], [])
  | some image =>
    let mapWidthM := image.width * s.mapResolution
    let mapHeightM := image.height * s.mapResolution
    let minX := s.originX
    let maxX := s.originX + mapWidthM
    let minY := s.originY
    let maxY := s.originY + mapHeightM
    let iMin := ⌊minX⌋
    let iMax := ⌈maxX⌉
    let jMin := ⌊minY⌋
    let jMax := ⌈maxY⌉
    ((Int.range iMin (iMax + 1)).filterMap (verticalLine s image),
      (Int.range jMin (jMax + 1)).filterMap (horizontalLine s image))

/-! ### The robot -/

/-- What `drawRobot` sets up before it draws the picture at `topLeft`: the
translation, and the orientation that the picture is turned by. -/
structure RobotMark where
  translation : QPointF ℚ
  orientation : Option PoseQuaternion
  topLeft : QPointF ℚ
  deriving DecidableEq

def drawRobot (s : State) : Option RobotMark :=
  match s.mapImage with
  | none => none
  | some image =>
    let robotPixelX := (s.robotX - s.originX) / s.mapResolution
    let robotPixelY := image.height - (s.robotY - s.originY) / s.mapResolution
    let screenX := s.offset.x + s.scaleFactor * robotPixelX
    let screenY := s.offset.y + s.scaleFactor * robotPixelY
    let robotSize : ℚ := 20
    some ⟨⟨screenX, screenY⟩, s.robotOrientation, ⟨-robotSize / 2, -robotSize / 2⟩⟩

end MapDrawing
