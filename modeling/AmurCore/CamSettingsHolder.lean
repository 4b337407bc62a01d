import AmurCore.EventRuns

/-!
# The camera settings and the undistortion

`CamSettingsHolder` and `CalibratorWorker::process`. The functions of OpenCV
are parameters, and a call of `cv::remap` is kept as what it is given. The maps
that it is given are computed when the first image is undistorted; nothing in
the program asks for them to be computed again.
-/

namespace CamSettingsHolder

open EventRuns

/-- A `cv::Mat`, `none` if it is empty. -/
abbrev Mat (μ : Type) := Option μ

structure Size where
  width : Int
  height : Int
  deriving DecidableEq

section
variable (μ P Q : Type)

/-- The matrices of a `CalibratorWorker`; its holder is never null. -/
structure CalibratorWorker where
  distCoeffs : Mat μ
  cameraMatrix : Mat μ
  rvecs : List (Mat μ)
  tvecs : List (Mat μ)

structure State where
  ready : Bool
  mustInitUndistort : Bool
  flag : Int
  imageSize : Size
  map1 : Mat μ
  map2 : Mat μ
  distCoeffs : Mat μ
  cameraMatrix : Mat μ
  rvecs : List (Mat μ)
  tvecs : List (Mat μ)
  objectPoints : List (List P)
  imagePoints : List (List Q)

/-- What the code calls in OpenCV. `calibrateCamera` also reads the matrices
that it writes. -/
structure OpenCV where
  calibrateCamera : List (List P) → List (List Q) → Size → CalibratorWorker μ → Int →
    CalibratorWorker μ
  initUndistortRectifyMap : Mat μ → Mat μ → Mat μ → Mat μ → Size → Int → Mat μ × Mat μ

/-- A call of `cv::remap`. -/
structure RemapCall where
  image : Mat μ
  map1 : Mat μ
  map2 : Mat μ
  deriving DecidableEq

inductive Event where
  | process (worker : CalibratorWorker μ)
  | remap (image : Mat μ)
  | setReady (value : Bool)
  | setCameraMatrix (value : Mat μ)
  | setDistCoeffs (value : Mat μ)
  | setObjectPoints (value : List (List P))
  | setImagePoints (value : List (List Q))
  | setRvecs (value : List (Mat μ))
  | setTvecs (value : List (Mat μ))
  | setFlag (value : Int)
  | setImageSize (value : Size)

end

variable {μ P Q : Type}

def CalibratorWorker.construct : CalibratorWorker μ := ⟨none, none, [], []⟩

/-- The constructor leaves `mustInitUndistort` and `flag` as they are. -/
def construct (mustInitUndistort : Bool) (flag : Int) : State μ P Q where
  ready := false
  mustInitUndistort := mustInitUndistort
  flag := flag
  imageSize := ⟨0, 0⟩
  map1 := none
  map2 := none
  distCoeffs := none
  cameraMatrix := none
  rvecs := []
  tvecs := []
  objectPoints := []
  imagePoints := []

/-- `CV_32FC1`. -/
def cv32FC1 : Int := 5

variable (cv : OpenCV μ P Q)

/-- The maps of the calibration and the image size that the holder has. -/
def currentMaps (s : State μ P Q) : Mat μ × Mat μ :=
  cv.initUndistortRectifyMap s.cameraMatrix s.distCoeffs none none s.imageSize cv32FC1

/-- `CamSettingsHolder::remap`, with no call if it returns an empty image. -/
def remap (image : Mat μ) (s : State μ P Q) : State μ P Q × Option (RemapCall μ) :=
  if s.ready then
    let s :=
      if s.mustInitUndistort then
        let (map1, map2) :=
          cv.initUndistortRectifyMap s.cameraMatrix s.distCoeffs none none s.imageSize cv32FC1
        { s with map1 := map1, map2 := map2, mustInitUndistort := false }
      else s
    (s, some ⟨image, s.map1, s.map2⟩)
  else (s, none)

/-- `CalibratorWorker::process`. -/
def process (worker : CalibratorWorker μ) (camHolder : State μ P Q) :
    CalibratorWorker μ × State μ P Q :=
  let worker :=
    if camHolder.imagePoints.isEmpty then worker
    else cv.calibrateCamera camHolder.objectPoints camHolder.imagePoints camHolder.imageSize
      worker camHolder.flag
  let camHolder := { camHolder with
    cameraMatrix := worker.cameraMatrix
    distCoeffs := worker.distCoeffs
    rvecs := worker.rvecs
    tvecs := worker.tvecs }
  (worker,
    if camHolder.cameraMatrix.isNone then camHolder else { camHolder with ready := true })

def step (s : State μ P Q) : Event μ P Q → State μ P Q
  | .process worker => (process cv worker s).2
  | .remap image => (remap cv image s).1
  | .setReady value => { s with ready := value }
  | .setCameraMatrix value => { s with cameraMatrix := value }
  | .setDistCoeffs value => { s with distCoeffs := value }
  | .setObjectPoints value => { s with objectPoints := value }
  | .setImagePoints value => { s with imagePoints := value }
  | .setRvecs value => { s with rvecs := value }
  | .setTvecs value => { s with tvecs := value }
  | .setFlag value => { s with flag := value }
  | .setImageSize value => { s with imageSize := value }

/-! ### Runs -/

section Run
variable (mustInitUndistort : Bool) (flag : Int)

/-- The state after the events. -/
def reached (events : List (Event μ P Q)) : State μ P Q :=
  run (step cv) (construct mustInitUndistort flag) events

/-- A call of `remap` while ready applies the current maps. -/
def AppliesCurrentMaps (before : List (Event μ P Q)) (e : Event μ P Q) : Prop :=
  let s := reached cv mustInitUndistort flag before
  ∀ image, e = .remap image → s.ready = true →
    (remap cv image s).2 = some ⟨image, (currentMaps cv s).1, (currentMaps cv s).2⟩

/-- What was current at an undistorted image. -/
def undistorting (s : State μ P Q) : Event μ P Q → List (Mat μ × Mat μ)
  | .remap _ => if s.ready then [currentMaps cv s] else []
  | _ => []

/-- The maps that were current at the first undistorted image, where the flag was
set at the start; else the empty maps of the start. -/
def heldMaps (events : List (Event μ P Q)) : Option (Mat μ × Mat μ) :=
  if mustInitUndistort then
    (trace (step cv) (undistorting cv) (construct mustInitUndistort flag) events).head?
  else some (none, none)

/-- The maps current now are those that were current then. -/
def MapsStayed (before : List (Event μ P Q)) (e : Event μ P Q) : Prop :=
  let s := reached cv mustInitUndistort flag before
  ∀ image, e = .remap image → s.ready = true →
    ∀ held, heldMaps cv mustInitUndistort flag before = some held → currentMaps cv s = held

end Run

/-- The holder has the maps, or the flag that asks for them. -/
structure Holds (held : Option (Mat μ × Mat μ)) (s : State μ P Q) : Prop where
  flag : s.mustInitUndistort = held.isNone
  maps : ∀ maps, held = some maps → (s.map1, s.map2) = maps

variable {cv} {mustInitUndistort : Bool} {flag : Int}

theorem remap_initialised {s : State μ P Q} (ready : s.ready = true)
    (must : s.mustInitUndistort = true) (image : Mat μ) :
    remap cv image s =
      ({ s with
          map1 := (currentMaps cv s).1
          map2 := (currentMaps cv s).2
          mustInitUndistort := false },
        some ⟨image, (currentMaps cv s).1, (currentMaps cv s).2⟩) := by
  rw [remap, if_pos ready, if_pos must]
  rfl

theorem remap_held {s : State μ P Q} (ready : s.ready = true)
    (clear : s.mustInitUndistort = false) (image : Mat μ) :
    remap cv image s = (s, some ⟨image, s.map1, s.map2⟩) := by
  rw [remap, if_pos ready, clear]
  rfl

theorem remap_applies {held : Option (Mat μ × Mat μ)} {s : State μ P Q} (holds : Holds held s)
    (ready : s.ready = true) (image : Mat μ) :
    let maps := held.getD (currentMaps cv s)
    Holds (some maps) (remap cv image s).1 ∧
      (remap cv image s).2 = some ⟨image, maps.1, maps.2⟩ := by
  cases held with
  | none =>
    rw [remap_initialised ready holds.flag]
    exact ⟨⟨rfl, fun _ same => Option.some.inj same⟩, rfl⟩
  | some maps =>
    have kept := holds.maps maps rfl
    rw [remap_held ready holds.flag, Option.getD_some, ← kept]
    exact ⟨kept ▸ holds, rfl⟩

theorem process_holds {held : Option (Mat μ × Mat μ)} {s : State μ P Q} (holds : Holds held s)
    (worker : CalibratorWorker μ) : Holds held (process cv worker s).2 := by
  dsimp only [process]
  split <;> split <;> exact ⟨holds.flag, holds.maps⟩

theorem step_holds {held : Option (Mat μ × Mat μ)} {s : State μ P Q} (holds : Holds held s)
    (e : Event μ P Q) : Holds (held.or (undistorting cv s e).head?) (step cv s e) := by
  cases e with
  | remap image =>
    simp only [undistorting, step]
    by_cases ready : s.ready = true
    · obtain ⟨after, -⟩ := @remap_applies _ _ _ cv held s holds ready image
      rw [if_pos ready]
      cases held with
      | none => exact after
      | some maps => exact after
    · rw [if_neg ready, remap, if_neg ready, List.head?_nil, Option.or_none]
      exact holds
  | process worker =>
    simp only [undistorting, List.head?_nil, Option.or_none]
    exact process_holds holds worker
  | _ =>
    simp only [undistorting, List.head?_nil, Option.or_none]
    exact ⟨holds.flag, holds.maps⟩

theorem heldMaps_concat (before : List (Event μ P Q)) (e : Event μ P Q) :
    heldMaps cv mustInitUndistort flag (before ++ [e])
      = (heldMaps cv mustInitUndistort flag before).or
          (undistorting cv (reached cv mustInitUndistort flag before) e).head? := by
  cases mustInitUndistort with
  | false => rfl
  | true =>
    simp only [heldMaps, if_true]
    rw [trace_concat, List.head?_append]
    rfl

theorem reached_concat (before : List (Event μ P Q)) (e : Event μ P Q) :
    reached cv mustInitUndistort flag (before ++ [e])
      = step cv (reached cv mustInitUndistort flag before) e :=
  run_concat _ _ _ _

theorem reached_holds (events : List (Event μ P Q)) :
    Holds (heldMaps cv mustInitUndistort flag events)
      (reached cv mustInitUndistort flag events) := by
  induction events using List.reverseRecOn with
  | nil =>
    cases mustInitUndistort with
    | false => exact ⟨rfl, fun _ same => Option.some.inj same⟩
    | true => exact ⟨rfl, fun _ seen => by cases seen⟩
  | append_singleton before e ih =>
    rw [heldMaps_concat, reached_concat]
    exact step_holds ih e

/-- Every undistorted image is given the current maps exactly when the current
maps are, at each, those of the first one. -/
theorem applies_current_iff (events : List (Event μ P Q)) :
    Along (AppliesCurrentMaps cv mustInitUndistort flag) events ↔
      Along (MapsStayed cv mustInitUndistort flag) events := by
  refine along_congr ?_ events
  intro before e
  refine forall_congr' fun image => imp_congr_right fun _ => imp_congr_right fun ready => ?_
  have holds : Holds (heldMaps cv mustInitUndistort flag before)
      (reached cv mustInitUndistort flag before) := reached_holds before
  obtain ⟨-, applied⟩ := @remap_applies _ _ _ cv _ _ holds ready image
  rw [applied]
  cases heldMaps cv mustInitUndistort flag before with
  | none => exact iff_of_true rfl fun _ unseen => by cases unseen
  | some held =>
    simp only [Option.getD_some, Option.some.injEq, RemapCall.mk.injEq, true_and]
    constructor
    · rintro ⟨map1, map2⟩ _ rfl
      exact (Prod.ext map1 map2).symm
    · intro stayed
      rw [stayed held rfl]
      exact ⟨rfl, rfl⟩

/-- A second calibration, after an image was undistorted with the first. -/
def recalibration : List (Event Nat Unit Unit) :=
  [.setImagePoints [[()]], .process .construct, .remap (some 0),
    .setImagePoints [[()], [()]], .process .construct]

/-- The maps of the first calibration stay in use after the second. -/
theorem recalibrated_maps_stale :
    ¬∀ (cv : OpenCV Nat Unit Unit) (mustInitUndistort : Bool) (flag : Int)
      (events : List (Event Nat Unit Unit)),
      Along (AppliesCurrentMaps cv mustInitUndistort flag) events := by
  intro claimed
  have applied := claimed
    ⟨fun _ imagePoints _ _ _ => ⟨none, some imagePoints.length, [], []⟩,
      fun cameraMatrix distCoeffs _ _ _ _ => (cameraMatrix, distCoeffs)⟩ true 0
    (recalibration ++ [.remap (some 0)]) recalibration (.remap (some 0)) [] rfl (some 0) rfl
    (by decide)
  revert applied
  decide

end CamSettingsHolder
