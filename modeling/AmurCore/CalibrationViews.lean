import Mathlib.Data.List.Chain
import AmurCore.CameraCalibration

/-!
# What the camera is calibrated with

Every calibration gets between 1 and 21 views of one board, with as many points on
the board as corners in the picture in each. The views of one opening of the dialog
are more than two seconds apart, and an opening starts at most one calibration.
Opening the dialog turns the undistortion off until a calibration has ended. As in the
model, a calibration and the accepting of the settings do not overlap.
-/

namespace CalibrationViews

open EventRuns CameraCalibration
open CamSettingsHolder (Size OpenCV)

section Sound
variable {ι μ Q : Type} {cv : OpenCV μ Point3f Q} {vision : Vision ι Q}

/-! ### Steps -/

/-- What one step can do. -/
inductive Effect (cv : OpenCV μ Point3f Q) (vision : Vision ι Q) (s : System μ Q) :
    Event ι μ → System μ Q → Prop where
  | opened (closed : s.dialog = none) : Effect cv vision s .calibDialogOpen (calibDialogOpen s)
  | clicked (outLabel boardSize : Size) (cameraMatrix : μ) {calib : CamCalibrate Q}
      (shown : s.dialog = some calib) (clickable : calib.groupBox = true) :
      Effect cv vision s (.clickPushButton outLabel boardSize cameraMatrix)
        { (initFields outLabel boardSize cameraMatrix calib s).2 with
          dialog := some { (initFields outLabel boardSize cameraMatrix calib s).1 with
            groupBox := false } }
  | looked {image : ι} {timeNow : Int} {calib : CamCalibrate Q} {t : System μ Q}
      (shown : s.dialog = some calib) (h : frameUpdate vision image timeNow calib s = some t) :
      Effect cv vision s (.frameUpdate image timeNow) t
  | idle (image : ι) (timeNow : Int) (closed : s.dialog = none) :
      Effect cv vision s (.frameUpdate image timeNow) s
  | accepted {calib : CamCalibrate Q} (shown : s.dialog = some calib) :
      Effect cv vision s .accept (onButtonBoxAccepted calib s)
  | rejected {calib : CamCalibrate Q} (shown : s.dialog = some calib) :
      Effect cv vision s .reject { s with dialog := none }
  | processed (running : s.calibrating ≠ 0) :
      Effect cv vision s .process { s with
        camHolder := (CamSettingsHolder.process cv .construct s.camHolder).2
        calibrating := s.calibrating - 1 }
  | remapped (image : CamSettingsHolder.Mat μ) :
      Effect cv vision s (.remap image)
        { s with camHolder := (CamSettingsHolder.remap cv image s.camHolder).1 }

theorem step_effect {s t : System μ Q} {e : Event ι μ} (h : step cv vision s e = some t) :
    Effect cv vision s e t := by
  cases e with
  | process =>
    simp only [step] at h
    split at h
    · cases h
    · rename_i running
      cases h
      exact .processed running
  | remap image =>
    simp only [step] at h
    cases h
    exact .remapped image
  | calibDialogOpen =>
    cases shown : s.dialog with
    | none =>
      simp only [step, shown] at h
      cases h
      exact .opened shown
    | some calib =>
      simp only [step, shown] at h
      cases h
  | clickPushButton outLabel boardSize cameraMatrix =>
    cases shown : s.dialog with
    | none =>
      simp only [step, shown] at h
      cases h
    | some calib =>
      simp only [step, shown] at h
      split at h
      · rename_i clickable
        cases h
        exact .clicked outLabel boardSize cameraMatrix shown clickable
      · cases h
  | frameUpdate image timeNow =>
    cases shown : s.dialog with
    | none =>
      simp only [step, shown] at h
      cases h
      exact .idle image timeNow shown
    | some calib =>
      simp only [step, shown] at h
      exact .looked shown h
  | accept =>
    cases shown : s.dialog with
    | none =>
      simp only [step, shown] at h
      cases h
    | some calib =>
      simp only [step, shown] at h
      cases h
      exact .accepted shown
  | reject =>
    cases shown : s.dialog with
    | none =>
      simp only [step, shown] at h
      cases h
    | some calib =>
      simp only [step, shown] at h
      cases h
      exact .rejected shown

/-! ### The state of the dialog -/

/-- What is documented of OpenCV: where all corners of the board are found, there
are as many as the board has, and making them more precise keeps their number. -/
structure Documented (vision : Vision ι Q) : Prop where
  found : ∀ image boardSize corners,
    vision.findChessboardCorners image boardSize = some (true, corners) →
      corners.length = boardSize.height.toNat * boardSize.width.toNat
  subPix : ∀ image corners, (vision.cornerSubPix image corners).length = corners.length

/-- Views of one board: the whole board each time, and as many corners. -/
structure Views (boardSize : Size) (objectPoints : List (List Point3f))
    (imagePoints : List (List Q)) : Prop where
  same : objectPoints.length = imagePoints.length
  board : ∀ points ∈ objectPoints, points = cornersOf boardSize
  corners : ∀ points ∈ imagePoints, points.length = (cornersOf boardSize).length

theorem cornersOf_length (boardSize : Size) :
    (cornersOf boardSize).length = boardSize.height.toNat * boardSize.width.toNat := by
  rw [cornersOf, List.length_flatMap]
  simp

theorem Views.nil (boardSize : Size) : Views boardSize [] ([] : List (List Q)) :=
  ⟨rfl, fun _ mem => absurd mem List.not_mem_nil, fun _ mem => absurd mem List.not_mem_nil⟩

theorem Views.concat {boardSize : Size} {objectPoints : List (List Point3f)}
    {imagePoints : List (List Q)} (views : Views boardSize objectPoints imagePoints)
    {imageCorners : List Q} (all : imageCorners.length = (cornersOf boardSize).length) :
    Views boardSize (objectPoints ++ [cornersOf boardSize]) (imagePoints ++ [imageCorners]) := by
  constructor
  · rw [List.length_append, List.length_append, views.same]
    rfl
  · intro points mem
    rcases List.mem_append.mp mem with mem | mem
    · exact views.board points mem
    · exact List.mem_singleton.mp mem
  · intro points mem
    rcases List.mem_append.mp mem with mem | mem
    · exact views.corners points mem
    · rw [List.mem_singleton.mp mem]
      exact all

/-- The dialog has the board that it was started with, and 20 views at most. -/
structure Sound (calib : CamCalibrate Q) : Prop where
  groupBox : calib.started = true → calib.groupBox = false
  fresh : calib.started = false → calib.objectCorners = [] ∧ calib.imagePoints = []
  corners : calib.started = true → calib.objectCorners = cornersOf calib.boardSize
  views : Views calib.boardSize calib.objectPoints calib.imagePoints
  successes : calib.imagePoints.length = calib.successes

/-- What the holder has been given. -/
structure Given (s : System μ Q) : Prop where
  views : ∃ boardSize, Views boardSize s.camHolder.objectPoints s.camHolder.imagePoints
  few : s.camHolder.imagePoints.length ≤ 21

theorem lookForBoard_sound {vision : Vision ι Q} (documented : Documented vision) {image : ι}
    {timeNow : Int} {calib calib' : CamCalibrate Q}
    (h : lookForBoard vision image timeNow calib = some calib') (started : calib.started = true)
    (sound : Sound calib) : Sound calib' ∧ calib'.successes ≤ calib.successes + 1 := by
  rw [lookForBoard] at h
  split at h
  · cases h
  · rename_i found imageCorners seen
    split at h
    · rename_i kept
      cases h
      have all : (vision.cornerSubPix image imageCorners).length
          = (cornersOf calib.boardSize).length := by
        rw [kept.1] at seen
        rw [documented.subPix, documented.found _ _ _ seen, cornersOf_length]
      refine ⟨⟨sound.groupBox, ?_, sound.corners, ?_, ?_⟩, Nat.le_refl _⟩
      · intro stopped
        exact absurd (started.symm.trans stopped) (by decide)
      · have more := sound.views.concat all
        rw [← sound.corners started] at more
        exact more
      · rw [keepView, List.length_append, sound.successes]
        rfl
    · cases h
      exact ⟨⟨sound.groupBox, sound.fresh, sound.corners, sound.views, sound.successes⟩,
        Nat.le_succ _⟩

theorem onButtonBoxAccepted_given {calib : CamCalibrate Q} {s : System μ Q} (sound : Sound calib)
    (few : calib.successes ≤ 21) (given : Given s) : Given (onButtonBoxAccepted calib s) := by
  rw [onButtonBoxAccepted]
  split
  · exact ⟨given.views, given.few⟩
  · rw [← sound.successes] at few
    exact ⟨⟨calib.boardSize, sound.views⟩, few⟩

theorem construct_sound : Sound (.construct : CamCalibrate Q) where
  groupBox := fun started => absurd started Bool.false_ne_true
  fresh := fun _ => ⟨rfl, rfl⟩
  corners := fun started => absurd started Bool.false_ne_true
  views := .nil _
  successes := rfl

/-- The button is enabled only before the first click, so the board is set up once. -/
theorem initFields_sound {calib : CamCalibrate Q} (sound : Sound calib)
    (clickable : calib.groupBox = true) (outLabel boardSize : Size) (cameraMatrix : μ)
    (s : System μ Q) :
    Sound { (initFields outLabel boardSize cameraMatrix calib s).1 with groupBox := false } := by
  have unstarted : calib.started = false := by
    cases started : calib.started with
    | false => rfl
    | true => exact absurd (clickable.symm.trans (sound.groupBox started)) (by decide)
  obtain ⟨no_corners, no_views⟩ := sound.fresh unstarted
  have no_points : calib.objectPoints = [] := by
    have same := sound.views.same
    rw [no_views] at same
    exact List.eq_nil_of_length_eq_zero same
  refine ⟨fun _ => rfl, fun stopped => absurd stopped.symm Bool.false_ne_true, fun _ => ?_, ?_, ?_⟩
  · show calib.objectCorners ++ cornersOf boardSize = cornersOf boardSize
    rw [no_corners]
    rfl
  · show Views boardSize calib.objectPoints calib.imagePoints
    rw [no_points, no_views]
    exact .nil boardSize
  · exact sound.successes

/-- The invariant of the calibration. -/
structure Invariant (s : System μ Q) : Prop where
  given : Given s
  dialog : ∀ calib, s.dialog = some calib → Sound calib ∧ calib.successes ≤ 20

theorem frameUpdate_invariant {vision : Vision ι Q} (documented : Documented vision) {image : ι}
    {timeNow : Int} {calib : CamCalibrate Q} {s t : System μ Q} (inv : Invariant s)
    (shown : s.dialog = some calib) (h : frameUpdate vision image timeNow calib s = some t) :
    Invariant t := by
  obtain ⟨sound, few⟩ := inv.dialog calib shown
  rw [frameUpdate] at h
  split at h
  · rename_i started
    split at h
    · cases h
    · rename_i calib' looked
      obtain ⟨sound', one_more⟩ := lookForBoard_sound documented looked started sound
      split at h
      · cases h
        have closed : (onButtonBoxAccepted calib' s).dialog = none := by
          rw [onButtonBoxAccepted]
          split <;> rfl
        refine ⟨onButtonBoxAccepted_given sound' (by omega) inv.given, ?_⟩
        intro calib'' shown'
        rw [closed] at shown'
        cases shown'
      · rename_i enough
        cases h
        refine ⟨⟨inv.given.views, inv.given.few⟩, ?_⟩
        rintro calib'' ⟨⟩
        exact ⟨sound', Nat.le_of_not_lt enough⟩
  · cases h
    exact inv

theorem process_points (cv : OpenCV μ Point3f Q) (s : CamSettingsHolder.State μ Point3f Q) :
    (CamSettingsHolder.process cv .construct s).2.objectPoints = s.objectPoints ∧
      (CamSettingsHolder.process cv .construct s).2.imagePoints = s.imagePoints := by
  rw [CamSettingsHolder.process]
  dsimp only
  split <;> split <;> exact ⟨rfl, rfl⟩

theorem remap_points (cv : OpenCV μ Point3f Q) (image : CamSettingsHolder.Mat μ)
    (s : CamSettingsHolder.State μ Point3f Q) :
    (CamSettingsHolder.remap cv image s).1.objectPoints = s.objectPoints ∧
      (CamSettingsHolder.remap cv image s).1.imagePoints = s.imagePoints ∧
      (CamSettingsHolder.remap cv image s).1.ready = s.ready := by
  rw [CamSettingsHolder.remap]
  split
  · dsimp only
    split <;> exact ⟨rfl, rfl, rfl⟩
  · exact ⟨rfl, rfl, rfl⟩

/-- What leaves the views of the holder leaves what it was given. -/
theorem Given.congr {s t : System μ Q} (given : Given s)
    (objectPoints : t.camHolder.objectPoints = s.camHolder.objectPoints)
    (imagePoints : t.camHolder.imagePoints = s.camHolder.imagePoints) : Given t := by
  obtain ⟨views, few⟩ := given
  rw [← objectPoints, ← imagePoints] at views
  rw [← imagePoints] at few
  exact ⟨views, few⟩

theorem onButtonBoxAccepted_closed (calib : CamCalibrate Q) (s : System μ Q) :
    (onButtonBoxAccepted calib s).dialog = none := by
  rw [onButtonBoxAccepted]
  split <;> rfl

theorem step_invariant (documented : Documented vision) {s t : System μ Q} {e : Event ι μ}
    (h : step cv vision s e = some t) (inv : Invariant s) : Invariant t := by
  cases step_effect h with
  | opened closed =>
    refine ⟨inv.given.congr rfl rfl, ?_⟩
    rintro calib ⟨⟩
    exact ⟨construct_sound, Nat.zero_le _⟩
  | clicked outLabel boardSize cameraMatrix shown clickable =>
    obtain ⟨sound, few⟩ := inv.dialog _ shown
    refine ⟨inv.given.congr rfl rfl, ?_⟩
    rintro calib ⟨⟩
    exact ⟨initFields_sound sound clickable outLabel boardSize cameraMatrix s, few⟩
  | looked shown h => exact frameUpdate_invariant documented inv shown h
  | idle => exact inv
  | accepted shown =>
    obtain ⟨sound, few⟩ := inv.dialog _ shown
    refine ⟨onButtonBoxAccepted_given sound (by omega) inv.given, ?_⟩
    intro calib shown'
    rw [onButtonBoxAccepted_closed] at shown'
    cases shown'
  | rejected shown =>
    refine ⟨inv.given.congr rfl rfl, ?_⟩
    rintro calib ⟨⟩
  | processed running =>
    have points := process_points cv s.camHolder
    exact ⟨inv.given.congr points.1 points.2, inv.dialog⟩
  | remapped image =>
    have points := remap_points cv image s.camHolder
    exact ⟨inv.given.congr points.1 points.2.1, inv.dialog⟩

/-- A calibration that has been started has views to work on. -/
def Loaded (s : System μ Q) : Prop := s.calibrating ≠ 0 → s.camHolder.imagePoints ≠ []

theorem onButtonBoxAccepted_loaded (calib : CamCalibrate Q) {s : System μ Q} (loaded : Loaded s) :
    Loaded (onButtonBoxAccepted calib s) := by
  rw [onButtonBoxAccepted]
  split
  · exact loaded
  · rename_i views
    exact fun _ empty => views (List.isEmpty_iff.mpr empty)

/-- A look at the picture changes the dialog, or starts a calibration. -/
theorem frameUpdate_cases {image : ι} {timeNow : Int} {calib : CamCalibrate Q}
    {s t : System μ Q} (h : frameUpdate vision image timeNow calib s = some t) :
    calib.started = false ∧ t = s ∨ calib.started = true ∧ ∃ calib',
      lookForBoard vision image timeNow calib = some calib' ∧
        (20 < calib'.successes ∧ t = onButtonBoxAccepted calib' s ∨
          calib'.successes ≤ 20 ∧ t = { s with dialog := some calib' }) := by
  rw [frameUpdate] at h
  split at h
  · rename_i started
    split at h
    · cases h
    · rename_i calib' looked
      refine Or.inr ⟨started, calib', looked, ?_⟩
      split at h
      · rename_i enough
        cases h
        exact Or.inl ⟨enough, rfl⟩
      · rename_i few
        cases h
        exact Or.inr ⟨Nat.le_of_not_lt few, rfl⟩
  · rename_i unstarted
    cases h
    exact Or.inl ⟨Bool.not_eq_true _ ▸ unstarted, rfl⟩

theorem step_loaded {s t : System μ Q} {e : Event ι μ} (h : step cv vision s e = some t)
    (loaded : Loaded s) : Loaded t := by
  cases step_effect h with
  | opened closed => exact loaded
  | clicked outLabel boardSize cameraMatrix shown clickable => exact loaded
  | looked shown h =>
    rcases frameUpdate_cases h with ⟨-, rfl⟩ | ⟨-, calib', -, ⟨-, rfl⟩ | ⟨-, rfl⟩⟩
    · exact loaded
    · exact onButtonBoxAccepted_loaded calib' loaded
    · exact loaded
  | idle => exact loaded
  | accepted shown => exact onButtonBoxAccepted_loaded _ loaded
  | rejected shown => exact loaded
  | processed running =>
    intro _
    rw [(process_points cv _).2]
    exact loaded running
  | remapped image =>
    intro running
    rw [(remap_points cv image _).2.1]
    exact loaded running

section Runs
variable {mustInitUndistort : Bool} {flag : Int} {events : List (Event ι μ)} {s : System μ Q}

theorem start_invariant (mustInitUndistort : Bool) (flag : Int) :
    Invariant (start mustInitUndistort flag : System μ Q) := by
  refine ⟨⟨⟨⟨0, 0⟩, .nil _⟩, Nat.zero_le _⟩, ?_⟩
  rintro calib ⟨⟩

theorem reaches_loaded (reached : Reaches cv vision mustInitUndistort flag events s) :
    Loaded s := by
  have kept : ∀ (s : System μ Q) (e : Event ι μ) (t : System μ Q),
      step cv vision s e = some t → Loaded s → Loaded t := fun s e t h => step_loaded h
  exact run_lift_invariant kept (fun running => absurd rfl running) reached

/-- Whenever a calibration can run, it finds between 1 and 21 views of one board:
the whole board each time, and as many corners in the picture. -/
theorem calibration_views (documented : Documented vision)
    (reached : Reaches cv vision mustInitUndistort flag events s) :
    (∃ boardSize, Views boardSize s.camHolder.objectPoints s.camHolder.imagePoints) ∧
      s.camHolder.imagePoints.length ≤ 21 ∧
      (s.calibrating ≠ 0 → s.camHolder.imagePoints ≠ []) := by
  have kept : ∀ (s : System μ Q) (e : Event ι μ) (t : System μ Q),
      step cv vision s e = some t → Invariant s → Invariant t :=
    fun s e t h inv => step_invariant documented h inv
  obtain ⟨views, few⟩ :=
    (run_lift_invariant kept (start_invariant mustInitUndistort flag) reached).given
  exact ⟨views, few, reaches_loaded reached⟩

end Runs

/-- A camera in front of a board. -/
def boardVision : Vision Unit Unit where
  findChessboardCorners _ boardSize :=
    some (true, List.replicate (boardSize.height.toNat * boardSize.width.toNat) ())
  cornerSubPix _ corners := corners

theorem boardVision_documented : Documented boardVision where
  found := by
    rintro image boardSize corners ⟨⟩
    exact List.length_replicate
  subPix := fun _ _ => rfl

def calibrator : OpenCV Unit Point3f Unit where
  calibrateCamera _ _ _ _ _ := ⟨some (), some (), [], []⟩
  initUndistortRectifyMap cameraMatrix distCoeffs _ _ _ _ := (cameraMatrix, distCoeffs)

/-- A session that ends with one view. -/
def oneView : List (Event Unit Unit) :=
  [.clickPushButton ⟨320, 240⟩ ⟨3, 4⟩ (), .frameUpdate () 3000000000, .accept]

theorem oneView_views : ∃ s : System Unit Unit,
    Reaches calibrator boardVision true 0 (.calibDialogOpen :: oneView) s ∧
      (∃ boardSize, Views boardSize s.camHolder.objectPoints s.camHolder.imagePoints) ∧
      s.camHolder.imagePoints.length ≤ 21 ∧
      (s.calibrating ≠ 0 → s.camHolder.imagePoints ≠ []) := by
  have reached : Reaches calibrator boardVision true 0 (.calibDialogOpen :: oneView)
    (_ : System Unit Unit) := rfl
  exact ⟨_, reached, calibration_views boardVision_documented reached⟩

/-! ### When pictures are undistorted -/

section Runs
variable {mustInitUndistort : Bool} {flag : Int} {events : List (Event ι μ)} {s : System μ Q}

/-- What an event says about the undistortion. -/
def readiness : Event ι μ → Option Bool
  | .calibDialogOpen => some false
  | .process => some true
  | _ => none

theorem step_ready {s t : System μ Q} {e : Event ι μ} (h : step cv vision s e = some t)
    (calibrates : ∀ objectPoints imagePoints size worker flag,
      (cv.calibrateCamera objectPoints imagePoints size worker flag).cameraMatrix ≠ none)
    (loaded : Loaded s) : t.camHolder.ready = (readiness e).getD s.camHolder.ready := by
  have accepts : ∀ (calib : CamCalibrate Q) (s : System μ Q),
      (onButtonBoxAccepted calib s).camHolder.ready = s.camHolder.ready := by
    intro calib s
    rw [onButtonBoxAccepted]
    split <;> rfl
  cases step_effect h with
  | opened closed => rfl
  | clicked outLabel boardSize cameraMatrix shown clickable => rfl
  | looked shown h =>
    rcases frameUpdate_cases h with ⟨-, rfl⟩ | ⟨-, calib', -, ⟨-, rfl⟩ | ⟨-, rfl⟩⟩
    · rfl
    · exact accepts calib' s
    · rfl
  | idle => rfl
  | accepted shown => exact accepts _ s
  | rejected shown => rfl
  | processed running =>
    have some_views : s.camHolder.imagePoints.isEmpty = false := by
      rw [Bool.eq_false_iff]
      exact fun empty => loaded running (List.isEmpty_iff.mp empty)
    have calibrated := calibrates s.camHolder.objectPoints s.camHolder.imagePoints
      s.camHolder.imageSize .construct s.camHolder.flag
    rw [ne_eq, ← Option.isNone_iff_eq_none] at calibrated
    simp only [CamSettingsHolder.process, some_views, Bool.false_eq_true, if_false]
    rw [if_neg calibrated]
    rfl
  | remapped image => exact (remap_points cv image _).2.2

/-- Pictures are undistorted exactly when a calibration has ended since the dialog
was last opened, whether it was started before or after. -/
theorem ready_iff (calibrates : ∀ objectPoints imagePoints size worker flag,
      (cv.calibrateCamera objectPoints imagePoints size worker flag).cameraMatrix ≠ none)
    (reached : Reaches cv vision mustInitUndistort flag events s) :
    s.camHolder.ready = true ↔ latest readiness events = some true := by
  induction events using List.reverseRecOn generalizing s with
  | nil =>
    cases reached
    exact ⟨fun ready => absurd ready Bool.false_ne_true, fun none_ready => by cases none_ready⟩
  | append_singleton events e ih =>
    obtain ⟨u, before, h⟩ := run_lift_concat reached
    rw [step_ready h calibrates (reaches_loaded before), latest_concat]
    cases said : readiness e with
    | none => exact ih before
    | some ready => simp

end Runs

/-- A second session is given up while the calibration of the first is running. -/
def givenUp : List (Event Unit Unit) :=
  .calibDialogOpen :: oneView ++ [.calibDialogOpen, .reject, .process]

theorem givenUp_ready : ∃ s : System Unit Unit, Reaches calibrator boardVision true 0 givenUp s ∧
    (s.camHolder.ready = true ↔ latest readiness givenUp = some true) := by
  have reached : Reaches calibrator boardVision true 0 givenUp (_ : System Unit Unit) := rfl
  exact ⟨_, reached, ready_iff (fun _ _ _ _ _ missing => by cases missing) reached⟩

/-! ### One opening of the dialog -/

/-- The time of the view that a step keeps. -/
def viewTimes (vision : Vision ι Q) (s : System μ Q) : Event ι μ → List Int
  | .frameUpdate image timeNow =>
    match s.dialog with
    | none => []
    | some calib =>
      if calib.started then
        match lookForBoard vision image timeNow calib with
        | none => []
        | some calib' => if calib.successes < calib'.successes then [timeNow] else []
      else []
  | _ => []

/-- The calibration that a step starts. -/
def begun (cv : OpenCV μ Point3f Q) (vision : Vision ι Q) (s : System μ Q) (e : Event ι μ) :
    List Unit :=
  if (step cv vision s e).any fun t => s.calibrating < t.calibrating then [()] else []

theorem lookForBoard_cases {image : ι} {timeNow : Int} {calib calib' : CamCalibrate Q}
    (h : lookForBoard vision image timeNow calib = some calib') :
    calib.timePoint + pauseForChangePosition < timeNow ∧
        calib'.successes = calib.successes + 1 ∧ calib'.timePoint = timeNow ∨
      calib'.successes = calib.successes ∧ calib'.timePoint = calib.timePoint := by
  rw [lookForBoard] at h
  split at h
  · cases h
  · split at h
    · rename_i kept
      cases h
      exact Or.inl ⟨kept.2, rfl, rfl⟩
    · cases h
      exact Or.inr ⟨rfl, rfl⟩

/-- The views kept so far, and what the dialog knows of them. -/
structure Apart (times : List Int) (s : System μ Q) : Prop where
  apart : times.Pairwise fun time later => time + pauseForChangePosition < later
  shown : ∀ calib, s.dialog = some calib → times.length = calib.successes ∧
    calib.successes ≤ 20 ∧ ∀ time ∈ times, time ≤ calib.timePoint
  closed : s.dialog = none → times.length ≤ 21

/-- What leaves the views and the time of the last one. -/
theorem Apart.congr {times : List Int} {s t : System μ Q} (apart : Apart times s)
    (same : t.dialog.map (fun calib => (calib.successes, calib.timePoint))
      = s.dialog.map fun calib => (calib.successes, calib.timePoint)) : Apart times t := by
  refine ⟨apart.apart, ?_, ?_⟩
  · intro calib shown
    rw [shown] at same
    obtain ⟨calib', shown', numbers⟩ := Option.map_eq_some_iff.mp same.symm
    obtain ⟨length, few, before⟩ := apart.shown calib' shown'
    rw [Prod.mk.injEq] at numbers
    rw [numbers.1] at length few
    rw [numbers.2] at before
    exact ⟨length, few, before⟩
  · intro closed
    rw [closed] at same
    exact apart.closed (Option.map_eq_none_iff.mp same.symm)

/-- Closing the dialog. -/
theorem Apart.close {times : List Int} {s t : System μ Q} {calib : CamCalibrate Q}
    (apart : Apart times s) (shown : s.dialog = some calib) (closed : t.dialog = none) :
    Apart times t := by
  obtain ⟨length, few, -⟩ := apart.shown calib shown
  refine ⟨apart.apart, ?_, fun _ => by omega⟩
  intro calib' shown'
  rw [closed] at shown'
  cases shown'

theorem frameUpdate_apart {times : List Int} {image : ι} {timeNow : Int}
    {calib : CamCalibrate Q} {s t : System μ Q} (apart : Apart times s)
    (shown : s.dialog = some calib) (h : frameUpdate vision image timeNow calib s = some t) :
    Apart (times ++ viewTimes vision s (.frameUpdate image timeNow : Event ι μ)) t := by
  obtain ⟨length, few, before⟩ := apart.shown calib shown
  rcases frameUpdate_cases h with ⟨unstarted, same⟩ | ⟨started, calib', looked, next⟩
  · have nothing : viewTimes vision s (.frameUpdate image timeNow : Event ι μ) = [] := by
      simp only [viewTimes, shown, unstarted, Bool.false_eq_true, if_false]
    rw [nothing, List.append_nil, same]
    exact apart
  · rcases lookForBoard_cases looked with ⟨paused, one_more, now⟩ | ⟨same, time⟩
    · have kept : viewTimes vision s (.frameUpdate image timeNow : Event ι μ) = [timeNow] := by
        simp [viewTimes, shown, looked, started, one_more]
      rw [kept]
      have spaced : (times ++ [timeNow]).Pairwise
          fun time later => time + pauseForChangePosition < later := by
        refine List.pairwise_append.mpr ⟨apart.apart, List.pairwise_singleton _ _, ?_⟩
        intro time mem later last
        rw [List.mem_singleton.mp last]
        have := before time mem
        omega
      have counted : (times ++ [timeNow]).length = calib'.successes := by
        rw [List.length_append, length, one_more]
        rfl
      rcases next with ⟨-, rfl⟩ | ⟨few', rfl⟩
      · refine ⟨spaced, ?_, fun _ => by omega⟩
        intro calib'' shown'
        rw [onButtonBoxAccepted_closed] at shown'
        cases shown'
      · refine ⟨spaced, ?_, fun closed => by cases closed⟩
        rintro calib'' ⟨⟩
        refine ⟨counted, few', ?_⟩
        intro time mem
        rw [now]
        rcases List.mem_append.mp mem with mem | mem
        · have := before time mem
          have pause : 0 < pauseForChangePosition := by decide
          omega
        · exact Int.le_of_eq (List.mem_singleton.mp mem)
    · have nothing : viewTimes vision s (.frameUpdate image timeNow : Event ι μ) = [] := by
        simp [viewTimes, shown, looked, same]
      rw [nothing, List.append_nil]
      rcases next with ⟨-, rfl⟩ | ⟨-, rfl⟩
      · exact apart.close shown (onButtonBoxAccepted_closed calib' s)
      · refine apart.congr ?_
        rw [shown, Option.map_some, Option.map_some, same, time]

theorem step_apart {times : List Int} {s t : System μ Q} {e : Event ι μ}
    (within : e ≠ .calibDialogOpen) (h : step cv vision s e = some t) (apart : Apart times s) :
    Apart (times ++ viewTimes vision s e) t := by
  cases step_effect h with
  | opened closed => exact absurd rfl within
  | clicked outLabel boardSize cameraMatrix shown clickable =>
    simp only [viewTimes, List.append_nil]
    refine apart.congr ?_
    rw [shown]
    rfl
  | looked shown h => exact frameUpdate_apart apart shown h
  | idle image timeNow closed =>
    have nothing : viewTimes vision s (.frameUpdate image timeNow : Event ι μ) = [] := by
      simp only [viewTimes, closed]
    rw [nothing, List.append_nil]
    exact apart
  | accepted shown =>
    simp only [viewTimes, List.append_nil]
    exact apart.close shown (onButtonBoxAccepted_closed _ s)
  | rejected shown =>
    simp only [viewTimes, List.append_nil]
    exact apart.close shown rfl
  | processed running =>
    simp only [viewTimes, List.append_nil]
    exact apart.congr rfl
  | remapped image =>
    simp only [viewTimes, List.append_nil]
    exact apart.congr rfl

/-- A calibration is started by closing the dialog only. -/
def BeginsOnce (starts : List Unit) (s : System μ Q) : Prop :=
  starts.length ≤ 1 ∧ (s.dialog.isSome = true → starts = [])

theorem begun_of_step {s t : System μ Q} {e : Event ι μ} (h : step cv vision s e = some t) :
    begun cv vision s e = if s.calibrating < t.calibrating then [()] else [] := by
  simp only [begun, h, Option.any_some, decide_eq_true_eq]

theorem BeginsOnce.idle {starts : List Unit} {s t : System μ Q} {e : Event ι μ}
    (h : step cv vision s e = some t) (once : BeginsOnce starts s)
    (same : t.calibrating ≤ s.calibrating)
    (stays : t.dialog.isSome = true → s.dialog.isSome = true) :
    BeginsOnce (starts ++ begun cv vision s e) t := by
  rw [begun_of_step h, if_neg (Nat.not_lt.mpr same), List.append_nil]
  exact ⟨once.1, fun shown => once.2 (stays shown)⟩

theorem BeginsOnce.close {starts : List Unit} {s t : System μ Q} {e : Event ι μ}
    {calib : CamCalibrate Q} (h : step cv vision s e = some t) (once : BeginsOnce starts s)
    (shown : s.dialog = some calib) (closed : t.dialog = none) :
    BeginsOnce (starts ++ begun cv vision s e) t := by
  have none_yet : starts = [] := once.2 (by rw [shown]; rfl)
  refine ⟨?_, fun shown' => ?_⟩
  · rw [none_yet, List.nil_append, begun_of_step h]
    split <;> decide
  · rw [closed] at shown'
    cases shown'

theorem step_beginsOnce {starts : List Unit} {s t : System μ Q} {e : Event ι μ}
    (within : e ≠ .calibDialogOpen) (h : step cv vision s e = some t)
    (once : BeginsOnce starts s) : BeginsOnce (starts ++ begun cv vision s e) t := by
  cases step_effect h with
  | opened closed => exact absurd rfl within
  | clicked outLabel boardSize cameraMatrix shown clickable =>
    exact once.idle h (Nat.le_refl _) fun _ => by rw [shown]; rfl
  | looked shown looks =>
    rcases frameUpdate_cases looks with ⟨-, same⟩ | ⟨-, calib', -, ⟨-, closes⟩ | ⟨-, goes_on⟩⟩
    · refine once.idle h ?_ fun _ => by rw [shown]; rfl
      rw [same]
    · refine once.close h shown ?_
      rw [closes, onButtonBoxAccepted_closed]
    · refine once.idle h ?_ fun _ => by rw [shown]; rfl
      rw [goes_on]
  | idle image timeNow closed => exact once.idle h (Nat.le_refl _) id
  | accepted shown => exact once.close h shown (onButtonBoxAccepted_closed _ s)
  | rejected shown => exact once.close h shown rfl
  | processed running => exact once.idle h (Nat.sub_le _ _) id
  | remapped image => exact once.idle h (Nat.le_refl _) id

/-- From the opening of the dialog to the next one, at most 21 views are kept, each
more than the pause after the ones before, and at most one calibration is started. -/
theorem one_opening {u t : System μ Q} {events : List (Event ι μ)}
    (within : ∀ e ∈ events, e ≠ .calibDialogOpen)
    (reached : run (lift (step cv vision)) (some (calibDialogOpen u)) events = some t) :
    (trace (lift (step cv vision)) (lifted (viewTimes vision)) (some (calibDialogOpen u))
        events).Pairwise (fun time later => time + pauseForChangePosition < later) ∧
      (trace (lift (step cv vision)) (lifted (viewTimes vision)) (some (calibDialogOpen u))
        events).length ≤ 21 ∧
      (trace (lift (step cv vision)) (lifted (begun cv vision)) (some (calibDialogOpen u))
        events).length ≤ 1 := by
  have apart_kept : ∀ (times : List Int) (s : System μ Q) (e : Event ι μ) (t : System μ Q),
      e ≠ .calibDialogOpen → step cv vision s e = some t → Apart times s →
        Apart (times ++ viewTimes vision s e) t :=
    fun times s e t within h apart => step_apart within h apart
  have once_kept : ∀ (starts : List Unit) (s : System μ Q) (e : Event ι μ) (t : System μ Q),
      e ≠ .calibDialogOpen → step cv vision s e = some t → BeginsOnce starts s →
        BeginsOnce (starts ++ begun cv vision s e) t :=
    fun starts s e t within h once => step_beginsOnce within h once
  have opened : Apart [] (calibDialogOpen u) := by
    refine ⟨.nil, ?_, fun _ => Nat.zero_le _⟩
    rintro calib ⟨⟩
    exact ⟨rfl, Nat.zero_le _, fun time mem => absurd mem List.not_mem_nil⟩
  have apart := trace_lift_invariant_of_mem apart_kept opened within reached
  have once := trace_lift_invariant_of_mem once_kept ⟨Nat.zero_le _, fun _ => rfl⟩ within reached
  refine ⟨apart.apart, ?_, once.1⟩
  cases shown : t.dialog with
  | none => exact apart.closed shown
  | some calib =>
    obtain ⟨length, few, -⟩ := apart.shown calib shown
    omega

theorem oneView_opening :
    (trace (lift (step calibrator boardVision)) (lifted (viewTimes boardVision))
        (some (calibDialogOpen (start true 0))) oneView).Pairwise
        (fun time later => time + pauseForChangePosition < later) ∧
      (trace (lift (step calibrator boardVision)) (lifted (viewTimes boardVision))
        (some (calibDialogOpen (start true 0))) oneView).length ≤ 21 ∧
      (trace (lift (step calibrator boardVision)) (lifted (begun calibrator boardVision))
        (some (calibDialogOpen (start true 0))) oneView).length ≤ 1 := by
  refine one_opening ?_ rfl
  intro e mem same
  rw [same] at mem
  simp [oneView] at mem

end Sound

end CalibrationViews
