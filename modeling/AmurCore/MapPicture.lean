import AmurCore.MapDrawing
import AmurCore.MapGeometry
import AmurCore.PainterScopes

/-!
# The picture of the map

`MapWidget::paintEvent`: the layers in the order of `m_layers`, as the commands
that they give one painter. The figures are stated again on the world, through one
projection that puts the map under them; the zones, with the rectangles around them,
and the horizontal lines of the grid are drawn a map pixel above it. `rotate` is the
rotation by `m_robot_theta`. Coordinates are exact rationals.
-/

namespace MapPicture

open NavCommands MapClicks MapPainting MapWidget MapDrawing MapGeometry PainterScopes

/-! ### The layers -/

/-- What a stroke is drawn for. -/
inductive Ink where
  | map
  | zone (color : QColor)
  | zoneBounds
  | vertical (metre : ℤ)
  | horizontal (metre : ℤ)
  | axisX
  | axisY
  | robot
  | goal (goalIndex : Nat)
  | goalNumber (goalIndex : Nat)
  deriving DecidableEq

abbrev Layer := List (Command (QPointF ℚ) Ink)

/-- `m_showGrid` and `m_showAxis`. -/
structure Switches where
  showGrid : Bool
  showAxis : Bool

/-- `painter.translate`. -/
def translate (d p : QPointF ℚ) : QPointF ℚ := ⟨p.x + d.x, p.y + d.y⟩

/-- `painter.scale` with the same factor twice. -/
def scale (k : ℚ) (p : QPointF ℚ) : QPointF ℚ := ⟨p.x * k, p.y * k⟩

section Layers
variable (rotate : Option PoseQuaternion → QPointF ℚ → QPointF ℚ) (switches : Switches) (s : State)

/-- The coordinates of the map. -/
def onMap (commands : Layer) : Layer :=
  scope [translate s.offset.toPointF, scale s.scaleFactor] commands

def drawMapLayer : Layer :=
  match s.mapImage with
  | none => []
  | some image => onMap s [.draw .map [⟨0, 0⟩, ⟨image.width, image.height⟩]]

def drawZonesLayer : Layer :=
  match s.mapImage with
  | none => []
  | some _ =>
    onMap s ((MapDrawing.drawZones s).flatMap fun shape =>
      [.draw (.zone shape.color) shape.poly, .draw .zoneBounds shape.bounds.corners])

def drawGridLayer : Layer :=
  if !switches.showGrid || s.mapImage.isNone then []
  else
    let (vertical, horizontal) := drawGrid s
    onMap s (vertical.map (fun line => .draw (.vertical line.metre) [line.start, line.stop]) ++
      horizontal.map fun line => .draw (.horizontal line.metre) [line.start, line.stop])

def drawAxis : Layer :=
  let origin : QPointF ℚ := s.offset.toPointF
  [.draw .axisX [origin, ⟨origin.x + 20, origin.y⟩],
    .draw .axisY [origin, ⟨origin.x, origin.y - 20⟩]]

def drawAxisLayer : Layer := if switches.showAxis then drawAxis s else []

def drawRobotLayer : Layer :=
  match MapDrawing.drawRobot s with
  | none => []
  | some mark =>
    scope [translate mark.translation ∘ rotate mark.orientation] [.draw .robot [mark.topLeft]]

def drawWaypointsLayer : Layer :=
  (drawWaypoints s).flatMap fun marker =>
    [.draw (.goal marker.goalIndex) [marker.centre],
      .draw (.goalNumber marker.goalIndex) [translate ⟨-(7 / 2), 7 / 2⟩ marker.centre]]

/-- `m_layers`, as `setupLayers` fills it. -/
def layers : List Layer :=
  [drawMapLayer s, drawZonesLayer s, drawGridLayer switches s, drawAxisLayer switches s,
    drawRobotLayer rotate s, drawWaypointsLayer s]

def paintEvent : Layer := (layers rotate switches s).flatMap id

/-- What a new painter draws for the event. -/
def picture : List (Stroke (QPointF ℚ) Ink) := drawn .new (paintEvent rotate switches s)

end Layers

/-! ### The picture of the world -/

section World
variable (rotate : Option PoseQuaternion → QPointF ℚ → QPointF ℚ) (switches : Switches) (s : State)

/-- Where a point of the world is on the screen. -/
def project (world : QPointF ℚ) : QPointF ℚ := drawWaypoint s.view world

/-- A map pixel higher on the screen. -/
def raised (p : QPointF ℚ) : QPointF ℚ := ⟨p.x, p.y - s.scaleFactor⟩

/-- The corner of the map with the last row of cells. -/
def topLeft : QPointF ℚ := ⟨s.originX, s.originY + s.view.imageHeight * s.mapResolution⟩

/-- A figure on the screen. -/
abbrev Figure := Ink × List (QPointF ℚ)

def mapFigures (image : QImage) : List Figure :=
  [(.map, [project s (topLeft s),
    project s ⟨s.originX + image.width * s.mapResolution, s.originY⟩])]

/-- The outline of a zone, and the rectangle around it. -/
def zoneFigures : List Figure :=
  (s.zones.filter fun zone => !(zone.contour.length < 3)).flatMap fun zone =>
    let outline := zone.contour.map fun world => raised s (project s world)
    [(.zone zone.color, outline), (.zoneBounds, (boundingRect outline).corners)]

def gridFigures (image : QImage) : List Figure :=
  (drawGrid s).1.map (fun line => (.vertical line.metre,
      [project s ⟨line.metre, (topLeft s).y⟩, project s ⟨line.metre, s.originY⟩])) ++
    (drawGrid s).2.map fun line => (.horizontal line.metre,
      [raised s (project s ⟨s.originX, line.metre⟩),
        raised s (project s ⟨s.originX + image.width * s.mapResolution, line.metre⟩)])

def axisFigures : List Figure :=
  let corner := project s (topLeft s)
  [(.axisX, [corner, ⟨corner.x + 20, corner.y⟩]), (.axisY, [corner, ⟨corner.x, corner.y - 20⟩])]

def robotFigures : List Figure :=
  [(.robot, [translate (project s ⟨s.robotX, s.robotY⟩) (rotate s.robotOrientation ⟨-10, -10⟩)])]

def goalFigures : List Figure :=
  s.goals.zipIdx.flatMap fun (goal, i) =>
    [(.goal (i + 1), [project s goal]),
      (.goalNumber (i + 1), [translate ⟨-(7 / 2), 7 / 2⟩ (project s goal)])]

/-- The figures, from the one at the bottom to the one at the top. -/
def figures : List Figure :=
  match s.mapImage with
  | none => (if switches.showAxis then axisFigures s else []) ++ goalFigures s
  | some image =>
    mapFigures s image ++ zoneFigures s ++
      (if switches.showGrid then gridFigures s image else []) ++
      (if switches.showAxis then axisFigures s else []) ++ robotFigures rotate s ++ goalFigures s

end World

/-! ### Places -/

section Places
variable {s : State} {image : QImage}

theorem imageHeight_eq (shown : s.mapImage = some image) : s.view.imageHeight = image.height := by
  rw [MapView.imageHeight, State.view, State.imageSize, shown]
  rfl

/-- A row counted from `height() - 1` is drawn a map pixel too high. -/
theorem mapToWidget_worldToMap (world : QPointF ℚ) :
    mapToWidget s.view (worldToMap s.view world) = raised s (project s world) := by
  simp only [mapToWidget, worldToMap, raised, project, drawWaypoint, QPointF.mk.injEq]
  constructor
  · ring
  · push_cast
    have scaled : s.view.scaleFactor = s.scaleFactor := rfl
    rw [scaled]
    ring

/-- On the screen the rectangle is the one around the outline there. -/
theorem corners_mapToWidget (scale : 0 < s.scaleFactor) {poly : List (QPointF ℚ)}
    (drawn : poly ≠ []) :
    (boundingRect poly).corners.map (mapToWidget s.view)
      = (boundingRect (poly.map (mapToWidget s.view))).corners := by
  have grows (offset : ℚ) : Monotone fun x : ℚ => x * s.scaleFactor + offset :=
    fun _ _ le => add_le_add_left (mul_le_mul_of_nonneg_right le scale.le) offset
  have moved := boundingRect_map (grows s.offset.x) (grows s.offset.y) drawn
  have placed : mapToWidget s.view = fun pt : QPointF ℚ =>
      ⟨pt.x * s.scaleFactor + s.offset.x, pt.y * s.scaleFactor + s.offset.y⟩ := rfl
  rw [placed, moved]
  rfl

/-- The coordinates of the map that a point of the world has. -/
theorem project_eq (shown : s.mapImage = some image) (world : QPointF ℚ) :
    project s world = mapToWidget s.view ⟨(world.x - s.originX) / s.mapResolution,
      image.height - (world.y - s.originY) / s.mapResolution⟩ := by
  rw [project, drawWaypoint, imageHeight_eq shown, mapToWidget, QPointF.mk.injEq]
  constructor
  · exact (add_comm _ _).trans (congrArg (· + _) (mul_comm _ _))
  · exact (add_comm _ _).trans (congrArg (· + _) (mul_comm _ _))

theorem back_to_pixel (resolution : s.mapResolution ≠ 0) (origin n : ℚ) :
    (origin + n * s.mapResolution - origin) / s.mapResolution = n := by
  rw [add_sub_cancel_left, mul_div_cancel_right₀ n resolution]

theorem project_topLeft (resolution : s.mapResolution ≠ 0) :
    project s (topLeft s) = s.offset.toPointF := by
  have row := back_to_pixel resolution s.originY s.view.imageHeight
  simp only [project, topLeft, drawWaypoint, QPoint.toPointF, QPointF.mk.injEq]
  constructor
  · show _ + _ * ((s.originX - s.originX) / _) = _
    rw [sub_self, zero_div, mul_zero, add_zero]
    rfl
  · show _ + _ * (_ - (s.originY + _ * s.mapResolution - s.originY) / s.mapResolution) = _
    rw [row, sub_self, mul_zero, add_zero]
    rfl

end Places

/-! ### The layers on the screen -/

section Shown
variable {s : State} {image : QImage}

/-- What a new painter shows of the commands. -/
def shown (commands : Layer) : List Figure :=
  (drawn .new commands).map fun stroke => (stroke.ink, stroke.onDevice)

theorem shown_append {commands : Layer} (h : Settled commands) (commands' : Layer) :
    shown (commands ++ commands') = shown commands ++ shown commands' := by
  rw [shown, drawn_append h, List.map_append]
  rfl

theorem settled_onMap {commands : Layer} (h : Settled commands) : Settled (onMap s commands) :=
  settled_scope _ h

theorem onMap_place (p : QPointF ℚ) :
    ((Painter.new : Painter (QPointF ℚ)).inner
      [translate s.offset.toPointF, scale s.scaleFactor]).place p = mapToWidget s.view p := rfl

/-- Figures in the coordinates of the map. -/
theorem shown_onMap {α : Type} (ink : α → Ink) (points : α → List (QPointF ℚ)) (l : List α) :
    shown (onMap s (l.map fun a => .draw (ink a) (points a)))
      = l.map fun a => (ink a, (points a).map (mapToWidget s.view)) := by
  rw [shown, onMap, drawn_scope _ (settled_map ink points l), drawn_map, List.map_map]
  exact List.map_congr_left fun a _ => congrArg (Prod.mk (ink a))
    (List.map_congr_left fun p _ => onMap_place p)

theorem drawMapLayer_shown (shows : s.mapImage = some image) (resolution : s.mapResolution ≠ 0) :
    shown (drawMapLayer s) = mapFigures s image := by
  have one := shown_onMap (s := s) (fun _ : Unit => Ink.map)
    (fun _ => [⟨0, 0⟩, ⟨image.width, image.height⟩]) [()]
  have corner : mapToWidget s.view ⟨0, 0⟩ = project s (topLeft s) := by
    rw [project_topLeft resolution]
    simp [mapToWidget, State.view, QPoint.toPointF]
  have far : mapToWidget s.view ⟨image.width, image.height⟩
      = project s ⟨s.originX + image.width * s.mapResolution, s.originY⟩ := by
    rw [project_eq shows, back_to_pixel resolution, sub_self, zero_div, sub_zero]
  rw [drawMapLayer, shows]
  refine one.trans ?_
  rw [mapFigures, ← corner, ← far]
  rfl

theorem drawZonesLayer_shown (shows : s.mapImage = some image) (scale : 0 < s.scaleFactor) :
    shown (drawZonesLayer s) = zoneFigures s := by
  have layer : drawZonesLayer s = onMap s (((MapDrawing.drawZones s).flatMap fun shape =>
      [(Ink.zone shape.color, shape.poly), (.zoneBounds, shape.bounds.corners)]).map
        fun figure => .draw figure.1 figure.2) := by
    rw [drawZonesLayer, shows, List.map_flatMap]
    rfl
  rw [layer, shown_onMap, MapDrawing.drawZones, shows, zoneFigures]
  induction s.zones with
  | nil => rfl
  | cons zone zones ih =>
    by_cases small : zone.contour.length < 3
    · simp only [List.filterMap_cons, small, if_true, List.filter_cons, decide_true,
        Bool.not_true, Bool.false_eq_true, if_false]
      exact ih
    · have drawn : zone.contour.map (worldToMap s.view) ≠ [] := by
        intro empty
        rw [List.map_eq_nil_iff.mp empty] at small
        exact small (by decide)
      have outline : (zone.contour.map (worldToMap s.view)).map (mapToWidget s.view)
          = zone.contour.map fun world => raised s (project s world) := by
        rw [List.map_map]
        exact List.map_congr_left fun world _ => mapToWidget_worldToMap world
      simp only [List.filterMap_cons, small, if_false, List.filter_cons, decide_false,
        Bool.not_false, if_true, List.flatMap_cons, List.map_append, List.map_cons, List.map_nil,
        corners_mapToWidget scale drawn, outline]
      exact congrArg _ ih

/-- The ends of a vertical line, and those of a horizontal one. -/
theorem grid_ends (shows : s.mapImage = some image) :
    (∀ line ∈ (drawGrid s).1, line.start = ⟨(line.metre - s.originX) / s.mapResolution, 0⟩ ∧
        line.stop = ⟨(line.metre - s.originX) / s.mapResolution, image.height⟩) ∧
      ∀ line ∈ (drawGrid s).2, line.start = worldToMap s.view ⟨s.originX, line.metre⟩ ∧
        line.stop = ⟨image.width, (worldToMap s.view ⟨s.originX, line.metre⟩).y⟩ := by
  have row (j : ℤ) : worldToMap s.view ⟨s.originX, j⟩
      = ⟨0, ((image.height : ℚ) - 1) - (j - s.originY) / s.mapResolution⟩ := by
    have column : (s.originX - s.view.originX) / s.view.mapResolution = 0 := by
      rw [show s.view.originX = s.originX from rfl, sub_self, zero_div]
    rw [worldToMap, imageHeight_eq shows, column]
    push_cast
    rfl
  rw [drawGrid, shows]
  constructor
  · intro line mem
    obtain ⟨i, -, turn⟩ := List.mem_filterMap.mp mem
    obtain ⟨-, same⟩ := Option.ite_none_left_eq_some.mp turn
    cases same
    exact ⟨rfl, rfl⟩
  · intro line mem
    obtain ⟨j, -, turn⟩ := List.mem_filterMap.mp mem
    obtain ⟨-, same⟩ := Option.ite_none_left_eq_some.mp turn
    cases same
    rw [row]
    exact ⟨rfl, rfl⟩

theorem drawGridLayer_shown (switches : Switches) (shows : s.mapImage = some image)
    (resolution : s.mapResolution ≠ 0) :
    shown (drawGridLayer switches s)
      = if switches.showGrid then gridFigures s image else [] := by
  obtain ⟨vertical, horizontal⟩ := grid_ends shows
  cases switched : switches.showGrid with
  | false => simp [drawGridLayer, switched, shown, drawn, EventRuns.trace]
  | true =>
    have lines := settled_map (fun line : GridLine => Ink.vertical line.metre)
      (fun line => [line.start, line.stop]) (drawGrid s).1
    have rows := settled_map (fun line : GridLine => Ink.horizontal line.metre)
      (fun line => [line.start, line.stop]) (drawGrid s).2
    have layer : drawGridLayer switches s = onMap s
        ((drawGrid s).1.map (fun line => .draw (.vertical line.metre) [line.start, line.stop]) ++
          (drawGrid s).2.map fun line =>
            .draw (.horizontal line.metre) [line.start, line.stop]) := by
      rw [drawGridLayer, switched, shows]
      rfl
    rw [layer, shown, onMap, drawn_scope _ (lines.append rows), drawn_append lines, drawn_map,
      drawn_map, List.map_append, List.map_map, List.map_map, if_pos rfl, gridFigures]
    refine congrArg₂ (· ++ ·) (List.map_congr_left fun line mem => ?_)
      (List.map_congr_left fun line mem => ?_)
    · obtain ⟨start, stop⟩ := vertical line mem
      have top : project s ⟨line.metre, (topLeft s).y⟩ = mapToWidget s.view line.start := by
        rw [project_eq shows, topLeft, imageHeight_eq shows, back_to_pixel resolution, start]
        simp
      have bottom : project s ⟨line.metre, s.originY⟩ = mapToWidget s.view line.stop := by
        rw [project_eq shows, stop]
        simp
      rw [top, bottom]
      rfl
    · obtain ⟨start, stop⟩ := horizontal line mem
      have left : raised s (project s ⟨s.originX, line.metre⟩) = mapToWidget s.view line.start := by
        rw [← mapToWidget_worldToMap, start]
      have right : raised s (project s ⟨s.originX + image.width * s.mapResolution, line.metre⟩)
          = mapToWidget s.view line.stop := by
        rw [← mapToWidget_worldToMap, stop]
        simp only [worldToMap]
        rw [show (s.originX + image.width * s.mapResolution - s.view.originX) / s.view.mapResolution
          = image.width from back_to_pixel resolution s.originX image.width]
      rw [left, right]
      rfl

theorem drawAxisLayer_shown (switches : Switches) (resolution : s.mapResolution ≠ 0) :
    shown (drawAxisLayer switches s) = if switches.showAxis then axisFigures s else [] := by
  cases switched : switches.showAxis with
  | false => simp [drawAxisLayer, switched, shown, drawn, EventRuns.trace]
  | true =>
    rw [drawAxisLayer, switched, if_pos rfl, if_pos rfl, axisFigures, project_topLeft resolution]
    rfl

theorem drawRobotLayer_shown (rotate : Option PoseQuaternion → QPointF ℚ → QPointF ℚ)
    (shows : s.mapImage = some image) :
    shown (drawRobotLayer rotate s) = robotFigures rotate s := by
  have there : project s ⟨s.robotX, s.robotY⟩
      = ⟨s.offset.x + s.scaleFactor * ((s.robotX - s.originX) / s.mapResolution),
        s.offset.y + s.scaleFactor *
          (image.height - (s.robotY - s.originY) / s.mapResolution)⟩ := by
    rw [project, drawWaypoint, imageHeight_eq shows]
    rfl
  have half : (-20 / 2 : ℚ) = -10 := by norm_num
  rw [drawRobotLayer, MapDrawing.drawRobot, shows, robotFigures, there]
  simp only [half]
  rfl

theorem drawWaypointsLayer_shown : shown (drawWaypointsLayer s) = goalFigures s := by
  rw [drawWaypointsLayer, drawWaypoints, goalFigures, List.flatMap_map]
  induction s.goals.zipIdx with
  | nil => rfl
  | cons goal goals ih =>
    rw [List.flatMap_cons, List.flatMap_cons, ← ih]
    exact shown_append (fun _ => rfl) _

end Shown

/-! ### The picture -/

section Picture
variable (rotate : Option PoseQuaternion → QPointF ℚ → QPointF ℚ) (switches : Switches)
  {s : State}

/-- Every layer gives back the painter that it was given. -/
theorem layers_settled : ∀ layer ∈ layers rotate switches s, Settled layer := by
  have map : Settled (drawMapLayer s) := by
    rw [drawMapLayer]
    split
    · exact settled_nil
    · exact settled_onMap (settled_draw _ _)
  have zones : Settled (drawZonesLayer s) := by
    rw [drawZonesLayer]
    split
    · exact settled_nil
    · exact settled_onMap (settled_flatMap fun _ _ _ => rfl)
  have grid : Settled (drawGridLayer switches s) := by
    rw [drawGridLayer]
    split
    · exact settled_nil
    · exact settled_onMap ((settled_map _ _ _).append (settled_map _ _ _))
  have axis : Settled (drawAxisLayer switches s) := by
    rw [drawAxisLayer]
    split
    · exact fun _ => rfl
    · exact settled_nil
  have robot : Settled (drawRobotLayer rotate s) := by
    rw [drawRobotLayer]
    split
    · exact settled_nil
    · exact settled_scope _ (settled_draw _ _)
  have goals : Settled (drawWaypointsLayer s) := settled_flatMap fun _ _ _ => rfl
  intro layer mem
  simp only [layers, List.mem_cons, List.not_mem_nil, or_false] at mem
  rcases mem with rfl | rfl | rfl | rfl | rfl | rfl
  · exact map
  · exact zones
  · exact grid
  · exact axis
  · exact robot
  · exact goals

/-- The picture shows the figures of the world, each layer above those before it. -/
theorem picture_figures (resolution : s.mapResolution ≠ 0) (scale : 0 < s.scaleFactor) :
    (picture rotate switches s).map (fun stroke => (stroke.ink, stroke.onDevice))
      = figures rotate switches s := by
  have layered : (picture rotate switches s).map (fun stroke => (stroke.ink, stroke.onDevice))
      = (layers rotate switches s).flatMap shown := by
    have apart : drawn .new (paintEvent rotate switches s)
        = (layers rotate switches s).flatMap (drawn .new) :=
      drawn_flatMap (layers_settled rotate switches) .new
    rw [picture, apart, List.map_flatMap]
    rfl
  rw [layered, layers, figures]
  simp only [List.flatMap_cons, List.flatMap_nil, List.append_nil,
    drawAxisLayer_shown switches resolution, drawWaypointsLayer_shown]
  cases shows : s.mapImage with
  | none =>
    have map : drawMapLayer s = [] := by rw [drawMapLayer, shows]
    have zones : drawZonesLayer s = [] := by rw [drawZonesLayer, shows]
    have grid : drawGridLayer switches s = [] := by
      rw [drawGridLayer, shows, Option.isNone_none, Bool.or_true, if_pos rfl]
    have robot : drawRobotLayer rotate s = [] := by
      rw [drawRobotLayer, MapDrawing.drawRobot, shows]
    rw [map, zones, grid, robot]
    rfl
  | some image =>
    simp only [drawMapLayer_shown shows resolution, drawZonesLayer_shown shows scale,
      drawGridLayer_shown switches shows resolution, drawRobotLayer_shown rotate shows,
      List.append_assoc]

/-- A zone in the only cell, whose outline and rectangle are drawn a pixel too high. -/
def zonedCell : State :=
  step roundHalfUp id oneCell
    (.setZones [⟨1, 1, "dock", .rgb 0 0 255, [⟨0, 0⟩, ⟨1, 0⟩, ⟨1, 1⟩]⟩])

/-- The robot stands in the lower left corner of the cell. -/
theorem zonedCell_picture :
    ((picture (fun _ p => p) ⟨false, false⟩ zonedCell).map fun stroke =>
        (stroke.ink, stroke.onDevice))
      = [(.map, [⟨0, 0⟩, ⟨1, 1⟩]), (.zone (.rgb 0 0 255), [⟨0, 0⟩, ⟨1, 0⟩, ⟨1, -1⟩]),
        (.zoneBounds, [⟨0, -1⟩, ⟨1, 0⟩]), (.robot, [⟨-10, -9⟩])] := by
  rw [picture_figures (fun _ p => p) ⟨false, false⟩ (by decide) (by decide +kernel)]
  decide +kernel

end Picture

/-! ### Cells -/

section Cells
variable {s : State} {data : List Int8} {width height : ℤ} {resolution originX originY : ℚ}

/-- The point is where the pixel of the cell is drawn. -/
def OnCell (s : State) (height : ℤ) (cell : ℤ × ℤ) (p : QPointF ℚ) : Prop :=
  let pixel := widgetToMap s.view p
  ((cell.1 : ℚ) ≤ pixel.x ∧ pixel.x ≤ cell.1 + 1) ∧
    ((height - 1 - cell.2 : ℤ) : ℚ) ≤ pixel.y ∧ pixel.y ≤ (height - cell.2 : ℤ)

/-- A point of the world is drawn on the cell that it is in, as the robot and the
goals are. What is raised is on it only from the lower edge of the cell. -/
theorem world_on_cell {round : ℚ → ℤ} {toFloat : ℚ → ℚ} {events : List Event}
    (reached : Reaches round toFloat events s) (accepted : accepts data width height = true)
    (positive : 0 < resolution) (shows : Shows s data width height resolution originX originY)
    (world : QPointF ℚ) :
    OnCell s height (cellOf s world) (project s world) ∧
      (OnCell s height (cellOf s world) (raised s (project s world)) ↔
        ∃ n : ℤ, world.y = originY + n * resolution) := by
  obtain ⟨-, tall, -⟩ := accepts_iff.mp accepted
  have scale : s.scaleFactor ≠ 0 := ne_of_gt (reaches_scale_pos reached)
  obtain ⟨x, hx⟩ : ∃ x, (world.x - originX) / resolution = x := ⟨_, rfl⟩
  obtain ⟨y, hy⟩ : ∃ y, (world.y - originY) / resolution = y := ⟨_, rfl⟩
  have cell : cellOf s world = (⌊x⌋, ⌊y⌋) := by
    rw [cellOf, shows.originX, shows.originY, shows.resolution, hx, hy]
  have pixel : widgetToMap s.view (project s world) = ⟨x, height - y⟩ := by
    rw [project, drawWaypoint, shows.imageHeight tall]
    simp only [widgetToMap, State.view, shows.originX, shows.originY, shows.resolution, hx, hy,
      QPointF.mk.injEq]
    constructor
    · field_simp
      ring
    · field_simp
      ring
  have above : widgetToMap s.view (raised s (project s world)) = ⟨x, height - 1 - y⟩ := by
    have raise : widgetToMap s.view (raised s (project s world))
        = ⟨(widgetToMap s.view (project s world)).x,
          (widgetToMap s.view (project s world)).y - 1⟩ := by
      simp only [widgetToMap, raised, State.view, QPointF.mk.injEq]
      refine ⟨trivial, ?_⟩
      field_simp
      ring
    rw [raise, pixel, QPointF.mk.injEq]
    exact ⟨rfl, by ring⟩
  have column : (⌊x⌋ : ℚ) ≤ x ∧ x ≤ ⌊x⌋ + 1 := ⟨Int.floor_le x, (Int.lt_floor_add_one x).le⟩
  have low := Int.floor_le y
  have high := Int.lt_floor_add_one y
  have edge (n : ℤ) : world.y = originY + n * resolution ↔ y = n := by
    rw [← hy, div_eq_iff (ne_of_gt positive), sub_eq_iff_eq_add']
  simp only [edge]
  rw [cell, OnCell, OnCell, pixel, above]
  push_cast
  refine ⟨⟨column, by linarith, by linarith⟩, ?_⟩
  constructor
  · rintro ⟨-, under, -⟩
    exact ⟨⌊y⌋, by linarith⟩
  · rintro ⟨n, rfl⟩
    rw [Int.floor_intCast]
    exact ⟨column, by linarith, by linarith⟩

/-- From the middle of the cell the point that is raised is drawn above the map. -/
theorem doubledCell_on_cell :
    OnCell doubledCell 1 (cellOf doubledCell ⟨1 / 2, 1 / 2⟩)
        (project doubledCell ⟨1 / 2, 1 / 2⟩) ∧
      ¬OnCell doubledCell 1 (cellOf doubledCell ⟨1 / 2, 1 / 2⟩)
        (raised doubledCell (project doubledCell ⟨1 / 2, 1 / 2⟩)) := by
  have reached : Reaches roundHalfUp id [.setMapData [0] 1 1 1 0 0] doubledCell :=
    ⟨⟨2, 2⟩, 0, 0, rfl⟩
  have shows : Shows doubledCell [0] 1 1 1 0 0 := setMapData_shows (by decide) 1 0 0 _
  obtain ⟨on, raised_iff⟩ := world_on_cell reached (by decide) one_pos shows ⟨1 / 2, 1 / 2⟩
  refine ⟨on, fun raised_on => ?_⟩
  obtain ⟨n, half⟩ := raised_iff.mp raised_on
  have twice : ((2 * n : ℤ) : ℚ) = 1 := by
    push_cast
    linarith
  have odd : 2 * n = 1 := by exact_mod_cast twice
  omega

end Cells

end MapPicture
