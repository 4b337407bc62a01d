import Mathlib.Algebra.Ring.Int.Defs
import AmurCore.CamSettingsHolder

/-!
# The calibration of the camera

`CamCalibrate` with `Calibrator`, and `AmurCore::calibDialogOpen`, which shows the
dialog until it is closed and then deletes it. The dialog looks at the picture at
every tick of the window's timer; a calibration that it starts runs on a thread of
its own and may end at any later time. Times are in nanoseconds. `process` and the
accepting of the settings are each taken as one step, although the thread reads the holder
of the settings without a lock.
-/

namespace CameraCalibration

open EventRuns
open CamSettingsHolder (Mat Size OpenCV)

structure Point3f where
  x : Int
  y : Int
  z : Int
  deriving DecidableEq

/-- What the dialog calls in OpenCV. -/
structure Vision (ι Q : Type) where
  /-- Whether all corners were found, and those that were; `none` if it throws. -/
  findChessboardCorners : ι → Size → Option (Bool × List Q)
  cornerSubPix : ι → List Q → List Q

structure CamCalibrate (Q : Type) where
  started : Bool
  timePoint : Int
  successes : Nat
  objectCorners : List Point3f
  imageCorners : List Q
  objectPoints : List (List Point3f)
  imagePoints : List (List Q)
  boardSize : Size
  /-- Whether `groupBox`, with the button in it, is enabled. -/
  groupBox : Bool
  labelSuccessed : String

structure System (μ Q : Type) where
  camHolder : CamSettingsHolder.State μ Point3f Q
  dialog : Option (CamCalibrate Q)
  /-- How many calibrations have been started and are not over. -/
  calibrating : Nat

section
variable {ι μ Q : Type}

def CamCalibrate.construct : CamCalibrate Q where
  started := false
  timePoint := 0
  successes := 0
  objectCorners := []
  imageCorners := []
  objectPoints := []
  imagePoints := []
  boardSize := ⟨0, 0⟩
  groupBox := true
  labelSuccessed := "Get up to 20 frames chessboard for calibration."

/-- `pauseForChangePosition` -/
def pauseForChangePosition : Int := 2000000000

/-- What the loops of `initFields` push back. -/
def cornersOf (boardSize : Size) : List Point3f :=
  (List.range boardSize.height.toNat).flatMap fun (i : Nat) =>
    (List.range boardSize.width.toNat).map fun (j : Nat) => ⟨(i : Int), (j : Int), 0⟩

/-- `CamCalibrate::initFields`, with the size of `OutLabel`, the values of the spin
boxes and the matrix with two elements set. -/
def initFields (outLabel boardSize : Size) (cameraMatrix : μ) (calib : CamCalibrate Q)
    (s : System μ Q) : CamCalibrate Q × System μ Q :=
  ({ calib with
      boardSize := boardSize
      objectCorners := calib.objectCorners ++ cornersOf boardSize
      started := true },
    { s with camHolder := { s.camHolder with
      imageSize := outLabel
      cameraMatrix := some cameraMatrix } })

/-- `CamCalibrate::on_buttonBox_accepted` -/
def onButtonBoxAccepted (calib : CamCalibrate Q) (s : System μ Q) : System μ Q :=
  if calib.imagePoints.isEmpty then { s with dialog := none }
  else
    { camHolder := { s.camHolder with
        objectPoints := calib.objectPoints
        imagePoints := calib.imagePoints }
      dialog := none
      calibrating := s.calibrating + 1 }

/-- A view of the board is kept. -/
def keepView (imageCorners : List Q) (timeNow : Int) (calib : CamCalibrate Q) : CamCalibrate Q :=
  { calib with
    imageCorners := imageCorners
    objectPoints := calib.objectPoints ++ [calib.objectCorners]
    imagePoints := calib.imagePoints ++ [imageCorners]
    successes := calib.successes + 1
    labelSuccessed := toString (calib.successes + 1)
    timePoint := timeNow }

/-- The first part of `CamCalibrate::getCalibInfo`. -/
def lookForBoard (vision : Vision ι Q) (sourceMat : ι) (timeNow : Int)
    (calib : CamCalibrate Q) : Option (CamCalibrate Q) :=
  match vision.findChessboardCorners sourceMat calib.boardSize with
  | none => none
  | some (found, imageCorners) =>
    if found ∧ calib.timePoint + pauseForChangePosition < timeNow then
      some (keepView (vision.cornerSubPix sourceMat imageCorners) timeNow calib)
    else some { calib with imageCorners := imageCorners }

/-- `CamCalibrate::frameUpdate`, without the picture. -/
def frameUpdate (vision : Vision ι Q) (sourceMat : ι) (timeNow : Int) (calib : CamCalibrate Q)
    (s : System μ Q) : Option (System μ Q) :=
  if calib.started then
    match lookForBoard vision sourceMat timeNow calib with
    | none => none
    | some calib =>
      if calib.successes > 20 then some (onButtonBoxAccepted calib s)
      else some { s with dialog := some calib }
  else some s

/-! ### The system -/

inductive Event (ι μ : Type) where
  | calibDialogOpen
  | clickPushButton (outLabel boardSize : Size) (cameraMatrix : μ)
  | frameUpdate (sourceMat : ι) (timeNow : Int)
  | accept
  | reject
  /-- `CalibratorWorker::process` runs for a calibration. -/
  | process
  /-- `AmurCore` undistorts a picture. -/
  | remap (image : Mat μ)

variable (cv : OpenCV μ Point3f Q) (vision : Vision ι Q)

/-- `CamCalibrate::CamCalibrate` and the rest of `calibDialogOpen` up to `exec`. -/
def calibDialogOpen (s : System μ Q) : System μ Q :=
  { s with
    camHolder := { s.camHolder with flag := 0, ready := false }
    dialog := some .construct }

/-- The dialog is modal. -/
def step (s : System μ Q) (e : Event ι μ) : Option (System μ Q) :=
  match e, s.dialog with
  | .calibDialogOpen, none => some (calibDialogOpen s)
  | .clickPushButton outLabel boardSize cameraMatrix, some calib =>
    if calib.groupBox then
      let (calib, s) := initFields outLabel boardSize cameraMatrix calib s
      some { s with dialog := some { calib with groupBox := false } }
    else none
  | .frameUpdate sourceMat timeNow, some calib => frameUpdate vision sourceMat timeNow calib s
  | .frameUpdate _ _, none => some s
  | .accept, some calib => some (onButtonBoxAccepted calib s)
  | .reject, some _ => some { s with dialog := none }
  | .process, _ =>
    if s.calibrating = 0 then none
    else some { s with
      camHolder := (CamSettingsHolder.process cv .construct s.camHolder).2
      calibrating := s.calibrating - 1 }
  | .remap image, _ =>
    some { s with camHolder := (CamSettingsHolder.remap cv image s.camHolder).1 }
  | _, _ => none

/-- The holder that `AmurCore` makes, with the fields that its constructor leaves. -/
def start (mustInitUndistort : Bool) (flag : Int) : System μ Q :=
  ⟨CamSettingsHolder.construct mustInitUndistort flag, none, 0⟩

/-- The state `s` is reached by the events; none of them throws. -/
def Reaches (mustInitUndistort : Bool) (flag : Int) (events : List (Event ι μ))
    (s : System μ Q) : Prop :=
  run (lift (step cv vision)) (some (start mustInitUndistort flag)) events = some s

end

end CameraCalibration
