import AmurCore.CamSettingsHolder

/-!
# Capturing and showing the video stream

`AmurCore::onSensorsUpdated`, `startCap` with the threads that it detaches,
`frameUpdate`, `resizeEvent` and the destructor, together with the picture
pointers of `Logic` and the settings of the camera. A step is one event of the
user interface thread or one operation of a capture thread; the threads
interleave in any order. An operation of a thread that is elsewhere does nothing.

A picture that `cv::VideoCapture` reads is never empty. `pipeline` is the text
that a robot's sensors carry when the slot reads them. The part of `frameUpdate`
that does not concern pictures is left out here, and so is the dialog of the
calibration: `drawChessboardCorners` in `CamCalibrate::getCalibInfo` paints on the
picture that is shared.
-/

namespace VideoCapture

open EventRuns CamSettingsHolder

section
variable (μ P Q : Type)

/-- Where the thread that `startCap` detached is. -/
inductive ThreadPc where
  | opening
  /-- At the test of `stop`. -/
  | checking
  | reading
  /-- At the lock, with the frame that it read. -/
  | storing (frame : μ)
  | ended
  deriving DecidableEq

/-- A `CaptureState` and the thread that was started with it. -/
structure Capture where
  pipeline : String
  stop : Bool
  latest : Mat μ
  pc : ThreadPc μ
  deriving DecidableEq

/-- What a picture of the window shows. An empty picture is `none`. -/
inductive Picture where
  /-- The image that the constructor reads. -/
  | noPicture
  | frame (image : μ)
  | remapped (call : RemapCall μ)
  deriving DecidableEq

/-- The pictures that `Logic` may point to: its own two, which stay empty, and
the one of the window. -/
inductive Pointer where
  | initialSrcMat
  | initialOutMat
  | undistortedMat
  deriving DecidableEq

structure Logic where
  srcMat : Pointer
  outMat : Pointer
  deriving DecidableEq

structure State where
  videoStreamPipeline : String
  /-- The captures started so far, with their threads. -/
  captures : List (Capture μ)
  captureState : Option Nat
  camHolder : CamSettingsHolder.State μ P Q
  sourceMat : Mat μ
  undistortedMat : Option (Picture μ)
  outputMat : Option (Picture μ)
  amurLogic : Logic
  /-- The pixmap of `OutLabel`. -/
  outLabel : Option (Picture μ)

inductive Event where
  | sensorsUpdated (pipeline : String)
  | frameUpdate
  | resizeEvent
  /-- The dialog and the worker of a calibration use the settings. -/
  | camera (e : CamSettingsHolder.Event μ P Q)
  /-- `~AmurCore`, as far as the capture goes. -/
  | destroyed
  | opened (k : Nat) (success : Bool)
  | checked (k : Nat)
  | read (k : Nat) (frame : Mat μ)
  | stored (k : Nat)

end

variable {μ P Q : Type}

/-! ### The capture threads -/

def Capture.start (pipeline : String) : Capture μ := ⟨pipeline, false, none, .opening⟩

def Capture.stopped (c : Capture μ) : Capture μ := { c with stop := true }

/-- `localCapture.open` returns. -/
def Capture.opened (success : Bool) (c : Capture μ) : Capture μ :=
  match c.pc with
  | .opening => { c with pc := if success then .checking else .ended }
  | _ => c

/-- The condition of the loop. -/
def Capture.checked (c : Capture μ) : Capture μ :=
  match c.pc with
  | .checking => { c with pc := if c.stop then .ended else .reading }
  | _ => c

/-- `localCapture.read` returns; without a frame the thread sleeps and goes on. -/
def Capture.read (frame : Mat μ) (c : Capture μ) : Capture μ :=
  match c.pc, frame with
  | .reading, some image => { c with pc := .storing image }
  | .reading, none => { c with pc := .checking }
  | _, _ => c

/-- The frame is copied to `latest` with the lock held. -/
def Capture.stored (c : Capture μ) : Capture μ :=
  match c.pc with
  | .storing image => { c with latest := some image, pc := .checking }
  | _ => c

/-! ### The user interface thread -/

/-- `if (captureState) captureState->stop.store(true);` -/
def stopCurrent (s : State μ P Q) : List (Capture μ) :=
  match s.captureState with
  | some k => s.captures.modify k Capture.stopped
  | none => s.captures

def startCap (s : State μ P Q) : State μ P Q :=
  if s.videoStreamPipeline = "" then s
  else
    { s with
      captures := stopCurrent s ++ [.start s.videoStreamPipeline]
      captureState := some s.captures.length }

def onSensorsUpdated (pipeline : String) (s : State μ P Q) : State μ P Q :=
  if pipeline = "" ∨ pipeline = s.videoStreamPipeline then s
  else startCap { s with videoStreamPipeline := pipeline }

/-- The frame that `frameUpdate` copies. -/
def latestFrame (s : State μ P Q) : Mat μ :=
  match s.captureState with
  | some k => s.captures[k]?.bind Capture.latest
  | none => none

/-- The settings after `undistortMat`, and the picture that it makes. -/
def undistortMat (cv : OpenCV μ P Q) (image : μ) (camHolder : CamSettingsHolder.State μ P Q) :
    CamSettingsHolder.State μ P Q × Option (Picture μ) :=
  if camHolder.ready then
    let (camHolder, call) := CamSettingsHolder.remap cv (some image) camHolder
    (camHolder, call.map .remapped)
  else (camHolder, some (.frame image))

/-- `Logic::process` makes the picture that is set the one to be got. -/
def process (l : Logic) : Logic := { l with outMat := l.srcMat }

/-- `Logic::getOutMat`: the window's own picture is read through the pointer. -/
def getOutMat (l : Logic) (undistortedMat : Option (Picture μ)) : Option (Picture μ) :=
  match l.outMat with
  | .undistortedMat => undistortedMat
  | .initialSrcMat | .initialOutMat => none

/-- `frameUpdate` for a frame that is not empty, up to `worker`. -/
def showFrame (cv : OpenCV μ P Q) (image : μ) (s : State μ P Q) : State μ P Q :=
  let (camHolder, undistorted) := undistortMat cv image s.camHolder
  let amurLogic := { s.amurLogic with srcMat := .undistortedMat }
  { s with
    camHolder := camHolder
    sourceMat := some image
    undistortedMat := undistorted
    amurLogic := amurLogic
    outputMat := getOutMat amurLogic undistorted
    outLabel := some (.frame image) }

def frameUpdate (cv : OpenCV μ P Q) (s : State μ P Q) : State μ P Q :=
  let s :=
    match latestFrame s with
    | some image => showFrame cv image s
    | none => s
  { s with amurLogic := process s.amurLogic }

def resizeEvent (s : State μ P Q) : State μ P Q := { s with outLabel := s.outputMat }

def destroyed (s : State μ P Q) : State μ P Q := { s with captures := stopCurrent s }

def step (cv : OpenCV μ P Q) (s : State μ P Q) : Event μ P Q → State μ P Q
  | .sensorsUpdated pipeline => onSensorsUpdated pipeline s
  | .frameUpdate => frameUpdate cv s
  | .resizeEvent => resizeEvent s
  | .camera e => { s with camHolder := CamSettingsHolder.step cv s.camHolder e }
  | .destroyed => destroyed s
  | .opened k success => { s with captures := s.captures.modify k (Capture.opened success) }
  | .checked k => { s with captures := s.captures.modify k Capture.checked }
  | .read k frame => { s with captures := s.captures.modify k (Capture.read frame) }
  | .stored k => { s with captures := s.captures.modify k Capture.stored }

/-- After `AmurCore::initialize`: `startCap` has found no pipeline. -/
def start (camHolder : CamSettingsHolder.State μ P Q) : State μ P Q where
  videoStreamPipeline := ""
  captures := []
  captureState := none
  camHolder := camHolder
  sourceMat := none
  undistortedMat := none
  outputMat := some .noPicture
  amurLogic := ⟨.initialSrcMat, .initialOutMat⟩
  outLabel := none

/-- The pipelines that robots announced, in the order in which the slot saw them. -/
def announced : Event μ P Q → Option String
  | .sensorsUpdated pipeline => if pipeline = "" then none else some pipeline
  | _ => none

/-! ### What a step does to the captures -/

/-- The operation of a capture thread that an event is. -/
def threadStep : Event μ P Q → Option (Nat × (Capture μ → Capture μ))
  | .opened k success => some (k, Capture.opened success)
  | .checked k => some (k, Capture.checked)
  | .read k frame => some (k, Capture.read frame)
  | .stored k => some (k, Capture.stored)
  | .sensorsUpdated _ | .frameUpdate | .resizeEvent | .camera _ | .destroyed => none

theorem opened_kept (success : Bool) (c : Capture μ) :
    (c.opened success).pipeline = c.pipeline ∧ (c.opened success).stop = c.stop := by
  unfold Capture.opened
  split <;> exact ⟨rfl, rfl⟩

theorem checked_kept (c : Capture μ) :
    c.checked.pipeline = c.pipeline ∧ c.checked.stop = c.stop := by
  unfold Capture.checked
  split <;> exact ⟨rfl, rfl⟩

theorem read_kept (frame : Mat μ) (c : Capture μ) :
    (c.read frame).pipeline = c.pipeline ∧ (c.read frame).stop = c.stop := by
  unfold Capture.read
  split <;> exact ⟨rfl, rfl⟩

theorem stored_kept (c : Capture μ) :
    c.stored.pipeline = c.pipeline ∧ c.stored.stop = c.stop := by
  unfold Capture.stored
  split <;> exact ⟨rfl, rfl⟩

/-- A thread changes neither its pipeline nor the flag that stops it. -/
theorem threadStep_kept {e : Event μ P Q} {k : Nat} {f : Capture μ → Capture μ}
    (h : threadStep e = some (k, f)) (c : Capture μ) :
    (f c).pipeline = c.pipeline ∧ (f c).stop = c.stop := by
  cases e with
  | opened k success => cases h; exact opened_kept success c
  | checked k => cases h; exact checked_kept c
  | read k frame => cases h; exact read_kept frame c
  | stored k => cases h; exact stored_kept c
  | _ => cases h

theorem frameUpdate_captures (cv : OpenCV μ P Q) (s : State μ P Q) :
    (frameUpdate cv s).videoStreamPipeline = s.videoStreamPipeline ∧
      (frameUpdate cv s).captures = s.captures ∧
      (frameUpdate cv s).captureState = s.captureState := by
  unfold frameUpdate
  cases latestFrame s with
  | none => exact ⟨rfl, rfl, rfl⟩
  | some image => exact ⟨rfl, rfl, rfl⟩

/-- The captures after a step: a new one for a new pipeline, the current one told
to stop, one that its thread has moved, or the same. -/
inductive Effect (cv : OpenCV μ P Q) (s : State μ P Q) (e : Event μ P Q) : Prop
  | restarted (pipeline : String) (event : e = .sensorsUpdated pipeline) (named : pipeline ≠ "")
      (new : pipeline ≠ s.videoStreamPipeline)
      (next : step cv s e = startCap { s with videoStreamPipeline := pipeline })
  | told (event : e = .destroyed) (next : step cv s e = destroyed s)
  | moved (k : Nat) (f : Capture μ → Capture μ) (thread : threadStep e = some (k, f))
      (next : step cv s e = { s with captures := s.captures.modify k f })
  | kept (quiet : ∀ pipeline, announced e = some pipeline → pipeline = s.videoStreamPipeline)
      (none_moved : threadStep e = none)
      (pipeline : (step cv s e).videoStreamPipeline = s.videoStreamPipeline)
      (captures : (step cv s e).captures = s.captures)
      (current : (step cv s e).captureState = s.captureState)

theorem step_effect (cv : OpenCV μ P Q) (s : State μ P Q) (e : Event μ P Q) :
    Effect cv s e := by
  have silent : ∀ {e : Event μ P Q}, announced e = none →
      ∀ pipeline, announced e = some pipeline → pipeline = s.videoStreamPipeline := by
    intro e nothing pipeline announcement
    rw [nothing] at announcement
    cases announcement
  cases e with
  | sensorsUpdated pipeline =>
    by_cases ignored : pipeline = "" ∨ pipeline = s.videoStreamPipeline
    · have same : step cv s (.sensorsUpdated pipeline) = s := if_pos ignored
      refine .kept ?_ rfl (by rw [same]) (by rw [same]) (by rw [same])
      intro announcedPipeline announcement
      rcases ignored with empty | known
      · simp [announced, empty] at announcement
      · by_cases empty : pipeline = ""
        · simp [announced, empty] at announcement
        · simp only [announced, if_neg empty, Option.some.injEq] at announcement
          exact announcement.symm.trans known
    · obtain ⟨named, new⟩ := not_or.mp ignored
      exact .restarted pipeline rfl named new (if_neg ignored)
  | frameUpdate =>
    obtain ⟨pipeline, captures, current⟩ := frameUpdate_captures cv s
    exact .kept (silent rfl) rfl pipeline captures current
  | resizeEvent => exact .kept (silent rfl) rfl rfl rfl rfl
  | camera e => exact .kept (silent rfl) rfl rfl rfl rfl
  | destroyed => exact .told rfl rfl
  | opened k success => exact .moved k _ rfl rfl
  | checked k => exact .moved k _ rfl rfl
  | read k frame => exact .moved k _ rfl rfl
  | stored k => exact .moved k _ rfl rfl

/-! ### What threads read and the window shows -/

/-- The capture, or one whose thread has yet to be started. -/
def captureAt (k : Nat) (s : State μ P Q) : Capture μ := s.captures[k]?.getD (.start "")

def Capture.isReading (c : Capture μ) : Bool :=
  match c.pc with
  | .reading => true
  | _ => false

/-- The frame that the thread has read and not yet stored. -/
def Capture.held (c : Capture μ) : List μ :=
  match c.pc with
  | .storing image => [image]
  | _ => []

/-- What `localCapture.read` of capture `k` returns. -/
def readResults (k : Nat) (s : State μ P Q) : Event μ P Q → List (Mat μ)
  | .read j frame => if j = k ∧ (captureAt k s).isReading then [frame] else []
  | _ => []

/-- What the thread of capture `k` does. -/
def operations (k : Nat) (s : State μ P Q) (e : Event μ P Q) : List (Event μ P Q) :=
  match e, (captureAt k s).pc with
  | .opened j _, .opening | .checked j, .checking | .read j _, .reading | .stored j, .storing _ =>
    if j = k then [e] else []
  | _, _ => []

def framesRead (k : Nat) (s : State μ P Q) (e : Event μ P Q) : List μ :=
  (readResults k s e).filterMap id

/-- The frame that `frameUpdate` shows, with the capture that it comes from. -/
def framesShown (s : State μ P Q) : Event μ P Q → List (Nat × μ)
  | .frameUpdate =>
    match s.captureState, latestFrame s with
    | some k, some image => [(k, image)]
    | _, _ => []
  | _ => []

theorem captureAt_absent {s : State μ P Q} {k : Nat} (absent : ¬k < s.captures.length) :
    captureAt k s = .start "" := by
  rw [captureAt, List.getElem?_eq_none (Nat.le_of_not_lt absent)]
  rfl

theorem latestFrame_eq {s : State μ P Q} {k : Nat} (current : s.captureState = some k) :
    latestFrame s = (captureAt k s).latest := by
  simp only [latestFrame, current, captureAt]
  cases s.captures[k]? <;> rfl

theorem length_stopCurrent (s : State μ P Q) : (stopCurrent s).length = s.captures.length := by
  unfold stopCurrent
  split
  · exact List.length_modify ..
  · rfl

/-- A step of a thread moves the capture of the thread. -/
theorem captureAt_moved {e : Event μ P Q} {j : Nat} {f : Capture μ → Capture μ}
    (thread : threadStep e = some (j, f)) (cv : OpenCV μ P Q) (s : State μ P Q) (k : Nat) :
    captureAt k (step cv s e)
      = if j = k ∧ k < s.captures.length then f (captureAt k s) else captureAt k s := by
  cases step_effect cv s e with
  | moved i g thread' next =>
    rw [thread] at thread'
    cases thread'
    rw [next, captureAt, captureAt, List.getElem?_modify]
    by_cases here : j = k
    · by_cases there : k < s.captures.length
      · rw [if_pos ⟨here, there⟩, List.getElem?_eq_getElem there]
        simp [here]
      · rw [if_neg fun both => there both.2, List.getElem?_eq_none (by omega)]
        rfl
    · rw [if_neg fun both => here both.1]
      simp [here]
  | restarted pipeline event named new next => rw [event] at thread; cases thread
  | told event next => rw [event] at thread; cases thread
  | kept quiet none_moved pipeline captures current => rw [none_moved] at thread; cases thread

theorem captureAt_stopCurrent (s : State μ P Q) (k : Nat) :
    ((stopCurrent s)[k]?.getD (.start "")).latest = (captureAt k s).latest ∧
      ((stopCurrent s)[k]?.getD (.start "")).pc = (captureAt k s).pc := by
  rw [stopCurrent, captureAt]
  cases s.captureState with
  | none => exact ⟨rfl, rfl⟩
  | some j =>
    rw [List.getElem?_modify]
    by_cases here : j = k
    · cases s.captures[k]? <;> simp [here, Capture.stopped]
    · cases s.captures[k]? <;> simp [here]

/-- Other steps leave what the thread has read and stored. -/
theorem captureAt_kept {e : Event μ P Q} (unmoved : threadStep e = none) (cv : OpenCV μ P Q)
    (s : State μ P Q) (k : Nat) :
    (captureAt k (step cv s e)).latest = (captureAt k s).latest ∧
      (captureAt k (step cv s e)).pc = (captureAt k s).pc := by
  cases step_effect cv s e with
  | moved j f thread next => rw [unmoved] at thread; cases thread
  | told event next =>
    rw [next]
    exact captureAt_stopCurrent s k
  | kept quiet none_moved pipeline captures current =>
    rw [captureAt, captures]
    exact ⟨rfl, rfl⟩
  | restarted pipeline event named new next =>
    obtain ⟨latest, pc⟩ := captureAt_stopCurrent s k
    rw [next, startCap, if_neg named, ← latest, ← pc, captureAt]
    -- a capture that is not there yet has read and stored nothing
    by_cases there : k < (stopCurrent s).length
    · exact List.getElem?_append_left there ▸ ⟨rfl, rfl⟩
    · rw [List.getElem?_eq_none (Nat.le_of_not_lt there)]
      by_cases new_one : k = (stopCurrent s).length
      · subst new_one
        have found : (stopCurrent s ++ [Capture.start pipeline])[(stopCurrent s).length]?
            = some (.start pipeline) := List.getElem?_concat_length
        exact found ▸ ⟨rfl, rfl⟩
      · have absent : (stopCurrent s ++ [Capture.start pipeline])[k]? = none := by
          refine List.getElem?_eq_none ?_
          rw [List.length_append, List.length_singleton]
          omega
        exact absent ▸ ⟨rfl, rfl⟩

end VideoCapture
