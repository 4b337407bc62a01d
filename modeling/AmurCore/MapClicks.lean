import AmurCore.NavCommands

/-!
# Clicks on the map

The part of `MapWidget` that turns a mouse press into a navigation goal. The
view is what the map, zoom and drag handlers leave behind; here any of them may
have left any view. Arithmetic on coordinates is taken as it is on `α`.
-/

namespace MapClicks

open NavCommands

structure QPoint where
  x : Int
  y : Int
  deriving DecidableEq

structure ImageSize where
  width : Int
  height : Int
  deriving DecidableEq

inductive MouseButton where
  | left
  | right
  | other
  deriving DecidableEq

/-- The view members of `MapWidget`; `mapImage` is absent while `m_mapImage` is null. -/
structure MapView (α : Type) where
  mapImage : Option ImageSize
  originX : α
  originY : α
  mapResolution : α
  scaleFactor : α
  offset : QPoint

variable {α : Type} [Add α] [Sub α] [Mul α] [Div α] [IntCast α]

/-- `m_mapImage.height()`, which is 0 for a null image. -/
def MapView.imageHeight (v : MapView α) : Int :=
  match v.mapImage with
  | some size => size.height
  | none => 0

/-- `QPoint` converted to `QPointF`. -/
def QPoint.toPointF (p : QPoint) : QPointF α := ⟨p.x, p.y⟩

/-- `MapWidget::widgetToMap`. -/
def widgetToMap (v : MapView α) (p : QPointF α) : QPointF α :=
  ⟨(p.x - v.offset.x) / v.scaleFactor, (p.y - v.offset.y) / v.scaleFactor⟩

/-- `MapWidget::widgetToWorld`. -/
def widgetToWorld (v : MapView α) (point : QPointF α) : QPointF α :=
  let pixel : QPointF α :=
    ⟨(point.x - v.offset.x) / v.scaleFactor, (point.y - v.offset.y) / v.scaleFactor⟩
  ⟨pixel.x * v.mapResolution + v.originX,
    (((v.imageHeight - 1 : Int) : α) - pixel.y) * v.mapResolution + v.originY⟩

/-- `MapWidget::mousePressEvent`: the goal that the press appends, if it does. -/
def mousePressEvent (v : MapView α) (button : MouseButton) (pos : QPoint) :
    Option (QPointF α) :=
  match v.mapImage with
  | none => none
  | some _ => if button = .right then some (widgetToWorld v pos.toPointF) else none

end MapClicks
