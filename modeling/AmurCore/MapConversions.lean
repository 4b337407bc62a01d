import Mathlib.Logic.Equiv.Basic
import Mathlib.Tactic.Ring
import AmurCore.MapDrawing

/-!
# Conversions of coordinates

The widget, the pixels of the map and the world are three systems of
coordinates. As long as the scale and the resolution are not zero each of the
two changes of coordinates has an inverse, and the four conversions of
`MapWidget` are these changes, their inverses and one composition.
-/

namespace MapConversions

open NavCommands MapWidget MapDrawing
open MapClicks hiding mousePressEvent

variable {v : MapView ℚ} {s : State}

/-! ### Widget and map -/

theorem mapToWidget_widgetToMap (scale : v.scaleFactor ≠ 0) (p : QPointF ℚ) :
    mapToWidget v (widgetToMap v p) = p := by
  have back (x offset : ℚ) : (x - offset) / v.scaleFactor * v.scaleFactor + offset = x := by
    rw [div_mul_cancel₀ _ scale, sub_add_cancel]
  exact congrArg₂ QPointF.mk (back p.x _) (back p.y _)

theorem widgetToMap_mapToWidget (scale : v.scaleFactor ≠ 0) (m : QPointF ℚ) :
    widgetToMap v (mapToWidget v m) = m := by
  have back (x offset : ℚ) : (x * v.scaleFactor + offset - offset) / v.scaleFactor = x := by
    rw [add_sub_cancel_right, mul_div_cancel_right₀ _ scale]
  exact congrArg₂ QPointF.mk (back m.x _) (back m.y _)

/-- The change from the widget to the map. -/
def widgetMap (scale : v.scaleFactor ≠ 0) : QPointF ℚ ≃ QPointF ℚ where
  toFun := widgetToMap v
  invFun := mapToWidget v
  left_inv := mapToWidget_widgetToMap scale
  right_inv := widgetToMap_mapToWidget scale

/-! ### Map and world -/

/-- What `widgetToWorld` does to the pixel that it has found. -/
def mapToWorld (v : MapView ℚ) (pixel : QPointF ℚ) : QPointF ℚ :=
  ⟨pixel.x * v.mapResolution + v.originX,
    (((v.imageHeight - 1 : ℤ) : ℚ) - pixel.y) * v.mapResolution + v.originY⟩

theorem widgetToWorld_eq (v : MapView ℚ) (p : QPointF ℚ) :
    widgetToWorld v p = mapToWorld v (widgetToMap v p) := rfl

theorem worldToMap_mapToWorld (resolution : v.mapResolution ≠ 0) (m : QPointF ℚ) :
    worldToMap v (mapToWorld v m) = m := by
  have unscaled (x origin : ℚ) :
      (x * v.mapResolution + origin - origin) / v.mapResolution = x := by
    rw [add_sub_cancel_right, mul_div_cancel_right₀ _ resolution]
  -- the rows are counted from `height() - 1` both ways
  have flipped (top y origin : ℚ) :
      top - ((top - y) * v.mapResolution + origin - origin) / v.mapResolution = y := by
    rw [unscaled, sub_sub_cancel]
  exact congrArg₂ QPointF.mk (unscaled m.x _) (flipped _ m.y _)

theorem mapToWorld_worldToMap (resolution : v.mapResolution ≠ 0) (w : QPointF ℚ) :
    mapToWorld v (worldToMap v w) = w := by
  have scaled (x origin : ℚ) :
      (x - origin) / v.mapResolution * v.mapResolution + origin = x := by
    rw [div_mul_cancel₀ _ resolution, sub_add_cancel]
  have flipped (top y origin : ℚ) :
      (top - (top - (y - origin) / v.mapResolution)) * v.mapResolution + origin = y := by
    rw [sub_sub_cancel, scaled]
  exact congrArg₂ QPointF.mk (scaled w.x _) (flipped _ w.y _)

/-- The change from the map to the world. -/
def mapWorld (resolution : v.mapResolution ≠ 0) : QPointF ℚ ≃ QPointF ℚ where
  toFun := mapToWorld v
  invFun := worldToMap v
  left_inv := worldToMap_mapToWorld resolution
  right_inv := mapToWorld_worldToMap resolution

/-! ### Widget and world -/

/-- The change from the widget to the world. -/
def widgetWorld (scale : v.scaleFactor ≠ 0) (resolution : v.mapResolution ≠ 0) :
    QPointF ℚ ≃ QPointF ℚ :=
  (widgetMap scale).trans (mapWorld resolution)

/-- The conversions are inverse to each other. -/
theorem conversions_inverse (scale : v.scaleFactor ≠ 0) (resolution : v.mapResolution ≠ 0)
    (p w : QPointF ℚ) :
    (mapToWidget v (widgetToMap v p) = p ∧ widgetToMap v (mapToWidget v p) = p) ∧
    worldToMap v (widgetToWorld v p) = widgetToMap v p ∧
    widgetToWorld v (mapToWidget v (worldToMap v w)) = w := by
  refine ⟨⟨mapToWidget_widgetToMap scale p, widgetToMap_mapToWidget scale p⟩, ?_, ?_⟩
  · rw [widgetToWorld_eq]
    exact worldToMap_mapToWorld resolution (widgetToMap v p)
  · exact (widgetWorld scale resolution).apply_symm_apply w

/-- A view of three rows, moved and enlarged. -/
theorem threeRows_conversions :
    let v : MapView ℚ := ⟨some ⟨4, 3⟩, 1 / 2, -1, 1 / 20, 2, ⟨5, -7⟩⟩
    (mapToWidget v (widgetToMap v ⟨1, 2⟩) = ⟨1, 2⟩ ∧
      widgetToMap v (mapToWidget v ⟨1, 2⟩) = ⟨1, 2⟩) ∧
    worldToMap v (widgetToWorld v ⟨1, 2⟩) = widgetToMap v ⟨1, 2⟩ ∧
    widgetToWorld v (mapToWidget v (worldToMap v ⟨3, 4⟩)) = ⟨3, 4⟩ :=
  conversions_inverse (by norm_num) (by norm_num) ⟨1, 2⟩ ⟨3, 4⟩

/-- The outline of a zone is drawn where a click finds its contour. -/
theorem drawZones_clicked (scale : s.view.scaleFactor ≠ 0)
    (resolution : s.view.mapResolution ≠ 0) {shape : ZoneShape} (drawn : shape ∈ drawZones s) :
    ∃ zone ∈ s.zones, 3 ≤ zone.contour.length ∧ shape.color = zone.color ∧
      shape.poly.map (fun m => widgetToWorld s.view (mapToWidget s.view m)) = zone.contour := by
  unfold drawZones at drawn
  split at drawn
  · cases drawn
  · obtain ⟨zone, mem, shaped⟩ := List.mem_filterMap.mp drawn
    obtain ⟨large, rfl⟩ : ¬zone.contour.length < 3 ∧
        ⟨zone.contour.map (worldToMap s.view), zone.color,
          boundingRect (zone.contour.map (worldToMap s.view))⟩ = shape := by
      simpa using shaped
    refine ⟨zone, mem, not_lt.mp large, rfl, ?_⟩
    have back (w : QPointF ℚ) :
        widgetToWorld s.view (mapToWidget s.view (worldToMap s.view w)) = w :=
      (widgetWorld scale resolution).apply_symm_apply w
    rw [List.map_map]
    exact List.map_id'' back zone.contour

end MapConversions
