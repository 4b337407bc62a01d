import AmurCore.MapDrawing
import AmurCore.MapGeometry
import AmurCore.RoundedScaling

/-!
# Centring on the robot

`centerOnRobot` counts the row of the robot from `height() - 1`, and `drawRobot`
counts it from `height()`. So the robot that was to be in the middle of the
widget is drawn one map pixel below it, up to the rounding of the offset.
-/

namespace RobotCentring

open NavCommands MapPainting MapWidget MapDrawing MapGeometry RoundedScaling

variable {round : ℚ → ℤ} {s : State} {image : QImage}

/-- The robot is drawn in the middle of the widget, half a pixel off at most. -/
def DrawnInCentre (s : State) : Prop :=
  ∃ mark, drawRobot s = some mark ∧
    |mark.translation.x - (s.size.width : ℚ) / 2| ≤ 1 / 2 ∧
    |mark.translation.y - (s.size.height : ℚ) / 2| ≤ 1 / 2

/-- The offset that `centerOnRobot` asks for, before it is rounded. -/
def desiredOffset (s : State) (image : QImage) : QPointF ℚ :=
  ⟨(s.size.width : ℚ) / 2 - (s.robotX - s.originX) / s.mapResolution * s.scaleFactor,
    (s.size.height : ℚ) / 2
      - (((image.height : ℚ) - 1) - (s.robotY - s.originY) / s.mapResolution) * s.scaleFactor⟩

/-- Where the robot is drawn: off by the rounding, and down by a map pixel. -/
theorem drawRobot_centred (shown : s.mapImage = some image) :
    (drawRobot (centerOnRobot round s)).map RobotMark.translation
      = some ⟨(s.size.width : ℚ) / 2
            + (round (desiredOffset s image).x - (desiredOffset s image).x),
          (s.size.height : ℚ) / 2
            + (round (desiredOffset s image).y - (desiredOffset s image).y) + s.scaleFactor⟩ := by
  simp only [drawRobot, centerOnRobot, shown, Option.map_some, Option.some.injEq,
    QPointF.mk.injEq]
  constructor
  · simp only [desiredOffset]
    ring
  · simp only [desiredOffset]
    ring

/-- The rounding takes the map pixel back: the fraction that it cuts off is as
large as the scale, or a tie is rounded down and a map pixel is one pixel at most. -/
def RowAbsorbed (round : ℚ → ℤ) (scaleFactor offset : ℚ) : Prop :=
  scaleFactor ≤ Int.fract (offset + 1 / 2) ∨
    (Int.fract (offset + 1 / 2) = 0 ∧ (round offset : ℚ) < offset ∧ scaleFactor ≤ 1)

theorem rowAbsorbed_iff (nearest : Nearest round) {scaleFactor : ℚ} (positive : 0 < scaleFactor)
    (offset : ℚ) :
    |round offset - offset + scaleFactor| ≤ 1 / 2 ↔ RowAbsorbed round scaleFactor offset := by
  have nonneg := Int.fract_nonneg (offset + 1 / 2)
  have small := Int.fract_lt_one (offset + 1 / 2)
  rw [abs_le, RowAbsorbed]
  rcases nearest.cases offset with up | ⟨tie, down⟩
  · rw [up]
    constructor
    · rintro ⟨-, high⟩
      exact Or.inl (by linarith)
    · rintro (cut | ⟨tie, down, -⟩)
      · constructor <;> linarith
      · linarith
  · rw [tie, down]
    constructor
    · rintro ⟨-, high⟩
      exact Or.inr ⟨rfl, by linarith, by linarith⟩
    · rintro (cut | ⟨-, -, unit⟩)
      · linarith
      · constructor <;> linarith

/-- After `centerOnRobot` the robot is drawn in the middle exactly when the
rounding of the vertical offset happens to take the map pixel back. -/
theorem drawnInCentre_iff (nearest : Nearest round) (shown : s.mapImage = some image)
    (bounded : ScaleBounded s) :
    DrawnInCentre (centerOnRobot round s) ↔
      RowAbsorbed round s.scaleFactor (desiredOffset s image).y := by
  have positive : 0 < s.scaleFactor := lt_of_lt_of_le (by norm_num [minScale]) bounded.1
  have size : (centerOnRobot round s).size = s.size := by
    rw [centerOnRobot, shown]
  obtain ⟨mark, drawn, place⟩ :=
    Option.map_eq_some_iff.mp (@drawRobot_centred round s image shown)
  have column : |mark.translation.x - (s.size.width : ℚ) / 2| ≤ 1 / 2 := by
    rw [place, add_sub_cancel_left]
    exact nearest _
  have row : mark.translation.y - (s.size.height : ℚ) / 2
      = round (desiredOffset s image).y - (desiredOffset s image).y + s.scaleFactor := by
    rw [place]
    ring
  rw [← rowAbsorbed_iff nearest positive, ← row, DrawnInCentre, size]
  constructor
  · rintro ⟨mark', drawn', -, centred⟩
    rw [drawn] at drawn'
    obtain rfl := Option.some.inj drawn'
    exact centred
  · exact fun centred => ⟨mark, drawn, column, centred⟩

/-- A map of one cell, drawn small in a widget of two pixels. -/
def smallCell : State := { oneCell with size := ⟨2, 2⟩, scaleFactor := 1 / 10 }

theorem smallCell_centred : DrawnInCentre (centerOnRobot roundHalfUp smallCell) := by
  have nearest : Nearest roundHalfUp := nearest_half_up
  have shown : smallCell.mapImage = some (paint [0] 1 1) := rfl
  have bounded : ScaleBounded smallCell := by
    constructor <;> norm_num [smallCell, minScale, maxScale]
  exact (drawnInCentre_iff nearest shown bounded).mpr (Or.inl (by decide +kernel))

/-- A map of one cell in a widget of one pixel, with the robot at the origin. -/
theorem oneCell_not_centred : Reaches roundHalfUp id [.setMapData [0] 1 1 1 0 0] oneCell ∧
    oneCell.mapImage.isSome = true ∧ 0 < oneCell.mapResolution ∧ ScaleBounded oneCell ∧
    (drawRobot (centerOnRobot roundHalfUp oneCell)).map RobotMark.translation = some ⟨1, 2⟩ ∧
    ¬ DrawnInCentre (centerOnRobot roundHalfUp oneCell) := by
  have place : (drawRobot (centerOnRobot roundHalfUp oneCell)).map RobotMark.translation
      = some ⟨1, 2⟩ := by decide +kernel
  have bounded : ScaleBounded oneCell := by
    constructor <;> decide +kernel
  refine ⟨⟨⟨1, 1⟩, 0, 0, rfl⟩, by decide, by decide, bounded, place, ?_⟩
  rintro ⟨mark, drawn, -, centred⟩
  rw [drawn, Option.map_some] at place
  rw [Option.some.inj place] at centred
  revert centred
  decide +kernel

end RobotCentring
