import Mathlib.Data.List.Induction
import AmurCore.MapGeometry
import AmurCore.MapRefresh

/-!
# What the refresh misses

The dialog compares a message with what it remembers of the last call that
passed its guards. Everything it remembers is a function of that one message,
so what it misses is a matter of two messages: a map whose cells stayed while
its resolution or its origin changed, and a pose that moved exactly onto the
integers that the last one was cut off to.
-/

namespace MapStaleness

open EventRuns MapMessages MapPainting MapRefresh MapGeometry

/-! ### Calls that pass the guards -/

/-- When the timer was started last: it runs from the construction on. -/
def timerOf (last : Option (Nat × GetMapResponse ℚ)) : Option Nat :=
  some ((last.map Prod.fst).getD 0)

/-- The time and the message of the last call that passed the guards. -/
def afterCall (last : Option (Nat × GetMapResponse ℚ)) : Event → Option (Nat × GetMapResponse ℚ)
  | .mapUpdated visible now response =>
    if passesGuards visible now (timerOf last) then some (now, response) else last
  | .widget _ => last

def lastPassed (events : List Event) : Option (Nat × GetMapResponse ℚ) :=
  run afterCall none events

/-- The message of a call, if it passes the guards. -/
def passed (before : List Event) : Event → Option (GetMapResponse ℚ)
  | .mapUpdated visible now response =>
    if passesGuards visible now (timerOf (lastPassed before)) then some response else none
  | .widget _ => none

theorem passed_eq_some {before : List Event} {e : Event} {response : GetMapResponse ℚ}
    (h : passed before e = some response) : ∃ visible now,
      e = .mapUpdated visible now response ∧
      passesGuards visible now (timerOf (lastPassed before)) = true := by
  cases e with
  | mapUpdated visible now response' =>
    rw [passed] at h
    split at h
    · rename_i passes
      cases h
      exact ⟨visible, now, rfl, passes⟩
    · cases h
  | widget e => cases h

theorem lastPassed_concat (before : List Event) (e : Event) :
    (lastPassed (before ++ [e])).map Prod.snd
      = (passed before e).or ((lastPassed before).map Prod.snd) := by
  rw [lastPassed, run_concat]
  change (afterCall (lastPassed before) e).map Prod.snd = _
  cases e with
  | mapUpdated visible now response =>
    simp only [afterCall, passed]
    split <;> rfl
  | widget e => rfl

/-! ### The conditions -/

/-- A map with positive width and height and as many cells as they say. -/
def ValidMap (map : OccupancyGrid ℚ) : Prop :=
  0 < map.width.toNat ∧ 0 < map.height.toNat ∧
  map.data.length = map.width.toNat * map.height.toNat

def SameCells (map map' : OccupancyGrid ℚ) : Prop :=
  map.width = map'.width ∧ map.height = map'.height ∧ map.data = map'.data

def SamePlace (map map' : OccupancyGrid ℚ) : Prop :=
  map.resolution = map'.resolution ∧ (originOf map).positionX = (originOf map').positionX ∧
  (originOf map).positionY = (originOf map').positionY

/-- A valid map is one whose sizes fit an `int`, and it is at the place of the
last one if it has the same cells. -/
def MapRefreshed (before : List Event) (e : Event) : Prop :=
  ∀ response, passed before e = some response → ValidMap (mapOf response) →
    (mapOf response).width.toNat < 2 ^ 31 ∧ (mapOf response).height.toNat < 2 ^ 31 ∧
    ∀ last, (lastPassed before).map Prod.snd = some last →
      SameCells (mapOf last) (mapOf response) → SamePlace (mapOf last) (mapOf response)

/-- The statics hide a pose: that of the last message, cut off, is this one. -/
def Hidden (last response : GetMapResponse ℚ) : Prop :=
  (MapWidget.truncate (robotPoseOf last).positionX : ℚ) = (robotPoseOf response).positionX ∧
  (MapWidget.truncate (robotPoseOf last).positionY : ℚ) = (robotPoseOf response).positionY ∧
  poseToQuaternion (robotPoseOf last) = poseToQuaternion (robotPoseOf response)

/-- The pose did not move onto the integers that the last one was cut off to. -/
def PoseRefreshed (before : List Event) (e : Event) : Prop :=
  ∀ response, passed before e = some response →
    ∀ last, (lastPassed before).map Prod.snd = some last → Hidden last response →
      (robotPoseOf last).positionX = (robotPoseOf response).positionX ∧
      (robotPoseOf last).positionY = (robotPoseOf response).positionY

section Run
variable (thousandths : ℚ → UInt64) (round : ℚ → ℤ) (toFloat : ℚ → ℚ) (enabled : Bool)
  (size : MapClicks.ImageSize) (originX originY : ℚ)

/-- The state after the events. -/
def reached (events : List Event) : State :=
  run (step thousandths round toFloat)
    (start enabled (MapWidget.construct size originX originY)) events

/-- The widget shows the image of the map, at its resolution and origin. -/
def ShowsMap (widget : MapWidget.State) (map : OccupancyGrid ℚ) : Prop :=
  Shows widget (cellsOf map) map.width.toNat map.height.toNat map.resolution
    (originOf map).positionX (originOf map).positionY

/-- After a call that passes the guards with a valid map the widget shows it. -/
def ShowsCurrentMap (before : List Event) (e : Event) : Prop :=
  ∀ response, passed before e = some response → ValidMap (mapOf response) →
    ShowsMap (reached thousandths round toFloat enabled size originX originY (before ++ [e])).widget
      (mapOf response)

/-- The position and the quaternion that a call of `setRobotPose` is given. -/
def givenPose : MapWidget.Event → Option (ℚ × ℚ × MapWidget.PoseQuaternion)
  | .setRobotPose posX posY quaternion => some (posX, posY, quaternion)
  | _ => none

/-- All calls on the widget along the events. -/
def widgetCalls (events : List Event) : List MapWidget.Event :=
  trace (step thousandths round toFloat) (calls thousandths)
    (start enabled (MapWidget.construct size originX originY)) events

/-- After a call that passes the guards the pose last given is the current one. -/
def GivesCurrentPose (before : List Event) (e : Event) : Prop :=
  ∀ response, passed before e = some response →
    let pose := robotPoseOf response
    latest givenPose
        (widgetCalls thousandths round toFloat enabled size originX originY (before ++ [e]))
      = some (pose.positionX, pose.positionY, poseToQuaternion pose)

end Run

/-! ### One call -/

def previousPoseOf (pose : Pose ℚ) : PreviousPose :=
  ⟨MapWidget.truncate pose.positionX, MapWidget.truncate pose.positionY, poseToQuaternion pose⟩

def poseChanged (response : GetMapResponse ℚ) (dialog : Dialog) : Bool :=
  (hasPoseChanged (robotPoseOf response) dialog.previousPose).1

def mapCalls (response : GetMapResponse ℚ) (dialog : Dialog) : List MapWidget.Event :=
  let map := mapOf response
  if hasMapChanged response dialog then
    [.setMapData (cellsOf map) map.width.toInt32.toInt map.height.toInt32.toInt map.resolution
      (originOf map).positionX (originOf map).positionY]
  else []

def poseCalls (response : GetMapResponse ℚ) (dialog : Dialog) : List MapWidget.Event :=
  let pose := robotPoseOf response
  if poseChanged response dialog then
    [.setRobotPose pose.positionX pose.positionY (poseToQuaternion pose)]
  else []

def zoneCalls (thousandths : ℚ → UInt64) (response : GetMapResponse ℚ) (dialog : Dialog) :
    List MapWidget.Event :=
  let zoneMap := response.zoneMap.getD .empty
  if buildZoneSignature thousandths zoneMap != dialog.previousZoneSignature then
    [.setZones (zoneMap.zones.map overlay)]
  else []

section Call
variable {thousandths : ℚ → UInt64} {visible : Bool} {now : Nat}
  {response : GetMapResponse ℚ} {dialog : Dialog}

theorem onMapUpdated_refused (refused : passesGuards visible now dialog.lastUpdateTimer = false) :
    onMapUpdated thousandths visible now (some response) dialog = (dialog, []) := by
  simp [onMapUpdated, refused]

theorem onMapUpdated_calls (passes : passesGuards visible now dialog.lastUpdateTimer = true) :
    (onMapUpdated thousandths visible now (some response) dialog).2
      = mapCalls response dialog ++ poseCalls response dialog ++
        zoneCalls thousandths response dialog := by
  rw [onMapUpdated, if_pos passes]
  rfl

theorem hasMapChanged_eq_false : hasMapChanged response dialog = false ↔
    dialog.previousWidth = (mapOf response).width.toInt32 ∧
    dialog.previousHeight = (mapOf response).height.toInt32 ∧
    dialog.previousData = cellsOf (mapOf response) := by
  simp only [hasMapChanged, Bool.or_eq_false_iff, bne_eq_false_iff_eq, and_assoc]
  constructor
  · rintro ⟨width, height, data⟩
    rw [width, height, data]
    exact ⟨rfl, rfl, rfl⟩
  · rintro ⟨width, height, data⟩
    rw [width, height, data]
    exact ⟨rfl, rfl, rfl⟩

/-- A call that passes the guards remembers its message, whatever it finds changed. -/
theorem onMapUpdated_remembers (passes : passesGuards visible now dialog.lastUpdateTimer = true) :
    let after := (onMapUpdated thousandths visible now (some response) dialog).1
    after.lastUpdateTimer = some now ∧
    after.previousPose = some (previousPoseOf (robotPoseOf response)) ∧
    after.previousData = cellsOf (mapOf response) ∧
    after.previousWidth = (mapOf response).width.toInt32 ∧
    after.previousHeight = (mapOf response).height.toInt32 := by
  have sameCheck (timer : Option Nat) (enabled : Bool) : hasMapChanged response
      { dialog with lastUpdateTimer := timer, navContainerEnabled := enabled }
        = hasMapChanged response dialog := rfl
  rw [onMapUpdated, if_pos passes]
  dsimp only
  rw [sameCheck]
  cases changed : hasMapChanged response dialog with
  | true => split <;> exact ⟨rfl, rfl, rfl, rfl, rfl⟩
  | false =>
    obtain ⟨width, height, data⟩ := hasMapChanged_eq_false.mp changed
    split <;> exact ⟨rfl, rfl, data, width, height⟩

end Call

/-! ### The widget under the calls -/

/-- The image that `setMapData` builds of a map, if it accepts it. -/
def imageOf (map : OccupancyGrid ℚ) : Option QImage :=
  if MapWidget.accepts (cellsOf map) map.width.toInt32.toInt map.height.toInt32.toInt then
    some (paint (cellsOf map) map.width.toInt32.toInt.toNat map.height.toInt32.toInt.toNat)
  else none

variable {thousandths : ℚ → UInt64} {round : ℚ → ℤ} {toFloat : ℚ → ℚ} {enabled : Bool}
  {size : MapClicks.ImageSize} {originX originY : ℚ}

theorem poseCalls_sameMap (response : GetMapResponse ℚ) (dialog : Dialog)
    (widget : MapWidget.State) :
    SameMap widget (run (MapWidget.step round toFloat) widget
      (poseCalls response dialog ++ zoneCalls thousandths response dialog)) := by
  dsimp only [poseCalls, zoneCalls]
  split <;> split <;> exact .refl _

/-- The widget is given the whole map. -/
def giveMap (map : OccupancyGrid ℚ) (widget : MapWidget.State) : MapWidget.State :=
  MapWidget.setMapData (cellsOf map) map.width.toInt32.toInt map.height.toInt32.toInt
    map.resolution (originOf map).positionX (originOf map).positionY widget

theorem giveMap_mapImage (map : OccupancyGrid ℚ) (widget : MapWidget.State) :
    (giveMap map widget).mapImage = imageOf map := by
  unfold giveMap imageOf
  cases accepted : MapWidget.accepts (cellsOf map) map.width.toInt32.toInt
      map.height.toInt32.toInt with
  | true => exact (setMapData_shows accepted _ _ _ widget).image
  | false => exact setMapData_refused accepted _ _ _ widget

section Step
variable {s : State} {visible : Bool} {now : Nat} {response : GetMapResponse ℚ}

/-- A call that finds the cells changed hands the whole map on. -/
theorem step_changed (passes : passesGuards visible now s.dialog.lastUpdateTimer = true)
    (changed : hasMapChanged response s.dialog = true) :
    SameMap (giveMap (mapOf response) s.widget)
      (step thousandths round toFloat s (.mapUpdated visible now response)).widget := by
  simp only [step, calls, onMapUpdated_calls passes, mapCalls, changed, if_true,
    List.singleton_append]
  exact poseCalls_sameMap response s.dialog _

theorem step_unchanged (passes : passesGuards visible now s.dialog.lastUpdateTimer = true)
    (same : hasMapChanged response s.dialog = false) :
    SameMap s.widget
      (step thousandths round toFloat s (.mapUpdated visible now response)).widget := by
  simp only [step, calls, onMapUpdated_calls passes, mapCalls, same, Bool.false_eq_true,
    if_false, List.nil_append]
  exact poseCalls_sameMap response s.dialog _

theorem step_refused (refused : passesGuards visible now s.dialog.lastUpdateTimer = false) :
    step thousandths round toFloat s (.mapUpdated visible now response) = s := by
  rw [step, calls, onMapUpdated_refused refused]
  rfl

theorem step_widget_sameMap (e : { e : MapWidget.Event // FromOperator e }) :
    SameMap s.widget (step thousandths round toFloat s (.widget e)).widget := by
  obtain ⟨e, operator⟩ := e
  refine (step_effect s.widget e ?_).sameMap
  rintro data width height resolution originX originY rfl
  exact operator

end Step

/-! ### What the dialog remembers -/

def lastMap (last : Option (Nat × GetMapResponse ℚ)) : OccupancyGrid ℚ :=
  mapOf ((last.map Prod.snd).getD .empty)

/-- The dialog remembers the last message that passed, and the widget has its image. -/
structure Remembers (last : Option (Nat × GetMapResponse ℚ)) (s : State) : Prop where
  timer : s.dialog.lastUpdateTimer = timerOf last
  pose : s.dialog.previousPose = last.map fun call => previousPoseOf (robotPoseOf call.2)
  data : s.dialog.previousData = cellsOf (lastMap last)
  width : s.dialog.previousWidth = (lastMap last).width.toInt32
  height : s.dialog.previousHeight = (lastMap last).height.toInt32
  image : s.widget.mapImage = imageOf (lastMap last)

theorem imageOf_congr {map map' : OccupancyGrid ℚ} (width : map.width.toInt32 = map'.width.toInt32)
    (height : map.height.toInt32 = map'.height.toInt32) (data : cellsOf map = cellsOf map') :
    imageOf map = imageOf map' := by
  rw [imageOf, imageOf, width, height, data]

theorem remembers_start (widget : MapWidget.State) (unseen : widget.mapImage = none) :
    Remembers none (start enabled widget) :=
  ⟨rfl, rfl, rfl, rfl, rfl, unseen⟩

theorem step_remembers {last : Option (Nat × GetMapResponse ℚ)} {s : State}
    (h : Remembers last s) (e : Event) :
    Remembers (afterCall last e) (step thousandths round toFloat s e) := by
  cases e with
  | widget e =>
    exact ⟨h.timer, h.pose, h.data, h.width, h.height, (step_widget_sameMap e).1.trans h.image⟩
  | mapUpdated visible now response =>
    cases passes : passesGuards visible now s.dialog.lastUpdateTimer with
    | false =>
      rw [step_refused passes, afterCall, ← h.timer, passes]
      exact h
    | true =>
      have remembered := @onMapUpdated_remembers thousandths visible now response s.dialog passes
      obtain ⟨timer, pose, data, width, height⟩ := remembered
      rw [afterCall, ← h.timer, if_pos passes]
      refine ⟨timer, pose, data, width, height, ?_⟩
      cases changed : hasMapChanged response s.dialog with
      | true =>
        rw [(step_changed passes changed).1]
        exact giveMap_mapImage _ _
      | false =>
        obtain ⟨sameWidth, sameHeight, sameData⟩ := hasMapChanged_eq_false.mp changed
        rw [(step_unchanged passes changed).1, h.image]
        exact imageOf_congr (h.width.symm.trans sameWidth) (h.height.symm.trans sameHeight)
          (h.data.symm.trans sameData)

theorem reached_concat (before : List Event) (e : Event) :
    reached thousandths round toFloat enabled size originX originY (before ++ [e])
      = step thousandths round toFloat
          (reached thousandths round toFloat enabled size originX originY before) e :=
  run_concat _ _ _ _

theorem reached_remembers (events : List Event) :
    Remembers (lastPassed events)
      (reached thousandths round toFloat enabled size originX originY events) := by
  induction events using List.reverseRecOn with
  | nil => exact remembers_start _ rfl
  | append_singleton events e ih =>
    rw [reached_concat, lastPassed, run_concat]
    exact step_remembers ih e

theorem passed_guards {before : List Event} {visible : Bool} {now : Nat}
    (passes : passesGuards visible now (timerOf (lastPassed before)) = true) :
    passesGuards visible now (reached thousandths round toFloat enabled size originX originY
      before).dialog.lastUpdateTimer = true := by
  rw [(reached_remembers before).timer]
  exact passes

theorem refused_of_unpassed {before : List Event} {visible : Bool} {now : Nat}
    {response : GetMapResponse ℚ}
    (unpassed : passed before (.mapUpdated visible now response) = none) :
    passesGuards visible now (reached thousandths round toFloat enabled size originX originY
      before).dialog.lastUpdateTimer = false := by
  rw [(reached_remembers before).timer]
  simpa [passed] using unpassed

/-- A call that the guards refuse changes nothing. -/
theorem reached_refused {before : List Event} {visible : Bool} {now : Nat}
    {response : GetMapResponse ℚ}
    (unpassed : passed before (.mapUpdated visible now response) = none) :
    reached thousandths round toFloat enabled size originX originY
        (before ++ [.mapUpdated visible now response])
      = reached thousandths round toFloat enabled size originX originY before := by
  rw [reached_concat, step_refused (refused_of_unpassed unpassed)]

/-! ### The map -/

theorem toInt32_of_lt {n : UInt32} (small : n.toNat < 2 ^ 31) : n.toInt32.toInt = n.toNat := by
  change n.toBitVec.toInt = _
  rw [BitVec.toInt_eq_toNat_cond]
  simp
  omega

theorem toInt32_neg {n : UInt32} (large : ¬ n.toNat < 2 ^ 31) : n.toInt32.toInt < 0 := by
  have bound := n.toNat_lt
  change n.toBitVec.toInt < _
  rw [BitVec.toInt_eq_toNat_cond]
  simp
  omega

theorem cellsOf_inj {map map' : OccupancyGrid ℚ} :
    cellsOf map = cellsOf map' ↔ map.data = map'.data := by
  have injective : Function.Injective UInt8.toInt8 := fun x y h => congrArg Int8.toUInt8 h
  exact (List.map_injective_iff.mpr injective).eq_iff

theorem sameCells_iff {map map' : OccupancyGrid ℚ} : SameCells map map' ↔
    map.width.toInt32 = map'.width.toInt32 ∧ map.height.toInt32 = map'.height.toInt32 ∧
    cellsOf map = cellsOf map' := by
  have injective {n n' : UInt32} : n.toInt32 = n'.toInt32 ↔ n = n' :=
    ⟨fun h => congrArg Int32.toUInt32 h, fun h => congrArg _ h⟩
  rw [SameCells, injective, injective, cellsOf_inj]

/-- The widget accepts a valid map whose sizes fit an `int`, and no other. -/
theorem accepts_valid {map : OccupancyGrid ℚ} (valid : ValidMap map) :
    MapWidget.accepts (cellsOf map) map.width.toInt32.toInt map.height.toInt32.toInt = true ↔
      map.width.toNat < 2 ^ 31 ∧ map.height.toNat < 2 ^ 31 := by
  obtain ⟨hw, hh, cells⟩ := valid
  rw [accepts_iff]
  constructor
  · rintro ⟨posWidth, posHeight, -⟩
    constructor
    · by_contra large
      exact absurd posWidth (not_lt.mpr (toInt32_neg large).le)
    · by_contra large
      exact absurd posHeight (not_lt.mpr (toInt32_neg large).le)
  · rintro ⟨smallWidth, smallHeight⟩
    rw [toInt32_of_lt smallWidth, toInt32_of_lt smallHeight, cellsOf, List.length_map, cells]
    exact ⟨by omega, by omega, by push_cast; rfl⟩

theorem unpassed_sameMap {before : List Event} {e : Event} (unpassed : passed before e = none) :
    SameMap (reached thousandths round toFloat enabled size originX originY before).widget
      (reached thousandths round toFloat enabled size originX originY (before ++ [e])).widget := by
  cases e with
  | widget e =>
    rw [reached_concat]
    exact step_widget_sameMap e
  | mapUpdated visible now response =>
    rw [reached_refused unpassed]
    exact .refl _

/-- While every map was shown, the widget still shows the last one that passed. -/
theorem shows_last {before : List Event} {last : GetMapResponse ℚ}
    (shown : Along (ShowsCurrentMap thousandths round toFloat enabled size originX originY) before)
    (seen : (lastPassed before).map Prod.snd = some last) (valid : ValidMap (mapOf last)) :
    ShowsMap (reached thousandths round toFloat enabled size originX originY before).widget
      (mapOf last) := by
  induction before using List.reverseRecOn with
  | nil => cases seen
  | append_singleton before e ih =>
    obtain ⟨earlier, current⟩ := along_concat.mp shown
    rw [lastPassed_concat] at seen
    cases pass : passed before e with
    | some response =>
      rw [pass, Option.some_or] at seen
      cases seen
      exact current last pass valid
    | none =>
      rw [pass, Option.none_or] at seen
      exact (ih earlier seen).of_sameMap (unpassed_sameMap pass)

theorem giveMap_shows_iff {map : OccupancyGrid ℚ} (valid : ValidMap map)
    (widget : MapWidget.State) :
    ShowsMap (giveMap map widget) map ↔
      map.width.toNat < 2 ^ 31 ∧ map.height.toNat < 2 ^ 31 := by
  rw [← accepts_valid valid]
  constructor
  · intro shows
    by_contra refused
    have image : (giveMap map widget).mapImage = none :=
      setMapData_refused (Bool.eq_false_iff.mpr refused) _ _ _ widget
    rw [shows.image] at image
    cases image
  · intro accepted
    obtain ⟨smallWidth, smallHeight⟩ := (accepts_valid valid).mp accepted
    rw [ShowsMap, ← toInt32_of_lt smallWidth, ← toInt32_of_lt smallHeight]
    exact setMapData_shows accepted _ _ _ widget

theorem showsMap_congr {widget widget' : MapWidget.State} (same : SameMap widget widget')
    (map : OccupancyGrid ℚ) : ShowsMap widget' map ↔ ShowsMap widget map := by
  refine ⟨fun h => h.of_sameMap ?_, fun h => h.of_sameMap same⟩
  exact ⟨same.1.symm, same.2.1.symm, same.2.2.1.symm, same.2.2.2.symm⟩

/-- The image that stays while the cells do is there only if the sizes fit. -/
theorem fits_of_image {map : OccupancyGrid ℚ} (valid : ValidMap map)
    (image : (imageOf map).isSome = true) :
    map.width.toNat < 2 ^ 31 ∧ map.height.toNat < 2 ^ 31 := by
  rw [← accepts_valid valid]
  by_contra refused
  rw [imageOf, if_neg refused] at image
  cases image

/-- Beside a map that is shown, one with the same cells is shown if it is at the
same place. -/
theorem showsMap_sameCells {widget : MapWidget.State} {last map : OccupancyGrid ℚ}
    (shows : ShowsMap widget last) (same : SameCells last map) :
    ShowsMap widget map ↔ SamePlace last map := by
  obtain ⟨width, height, data⟩ := same
  constructor
  · intro h
    exact ⟨shows.resolution.symm.trans h.resolution, shows.originX.symm.trans h.originX,
      shows.originY.symm.trans h.originY⟩
  · rintro ⟨resolution, x, y⟩
    refine ⟨?_, shows.resolution.trans resolution, shows.originX.trans x, shows.originY.trans y⟩
    rw [shows.image, width, height, cellsOf_inj.mpr data]

/-- Before the first call the dialog remembers a map without cells. -/
theorem not_sameCells_initial {map : OccupancyGrid ℚ} (valid : ValidMap map) :
    ¬SameCells (lastMap none) map := by
  intro same
  have empty : 0 = map.width := same.1
  have wide := valid.1
  rw [← empty] at wide
  cases wide

theorem lastMap_seen {last : Option (Nat × GetMapResponse ℚ)} {response : GetMapResponse ℚ}
    (seen : last.map Prod.snd = some response) : lastMap last = mapOf response := by
  rw [lastMap, seen]
  rfl

/-- A map that is shown and remembered has sizes that fit. -/
theorem Remembers.fits {last : Option (Nat × GetMapResponse ℚ)} {s : State}
    (remembers : Remembers last s) (valid : ValidMap (lastMap last))
    (shows : ShowsMap s.widget (lastMap last)) :
    (lastMap last).width.toNat < 2 ^ 31 ∧ (lastMap last).height.toNat < 2 ^ 31 := by
  refine fits_of_image valid ?_
  rw [← remembers.image, shows.image]
  rfl

/-- Where the cells stayed the widget keeps the last map, which is the current one
if it is at the same place. -/
theorem kept_shows_iff {before : List Event} {response : GetMapResponse ℚ}
    (shown : Along (ShowsCurrentMap thousandths round toFloat enabled size originX originY) before)
    (valid : ValidMap (mapOf response))
    (same : SameCells (lastMap (lastPassed before)) (mapOf response)) :
    ShowsMap (reached thousandths round toFloat enabled size originX originY before).widget
        (mapOf response) ↔
      (mapOf response).width.toNat < 2 ^ 31 ∧ (mapOf response).height.toNat < 2 ^ 31 ∧
      ∀ last, (lastPassed before).map Prod.snd = some last →
        SameCells (mapOf last) (mapOf response) → SamePlace (mapOf last) (mapOf response) := by
  cases seen : (lastPassed before).map Prod.snd with
  | none =>
    have unseen : lastPassed before = none := Option.map_eq_none_iff.mp seen
    rw [unseen] at same
    exact absurd same (not_sameCells_initial valid)
  | some last =>
    have ofLast := lastMap_seen seen
    have validLast : ValidMap (lastMap (lastPassed before)) := by
      rw [ValidMap, same.1, same.2.1, same.2.2]
      exact valid
    have shows := shows_last shown seen (ofLast ▸ validLast)
    rw [← ofLast] at shows
    have fits := (reached_remembers before).fits validLast shows
    rw [same.1, same.2.1] at fits
    rw [showsMap_sameCells shows same]
    constructor
    · intro place
      refine ⟨fits.1, fits.2, fun last' seen' _ => ?_⟩
      cases seen'
      exact ofLast ▸ place
    · intro refreshed
      rw [ofLast] at same ⊢
      exact refreshed.2.2 last rfl same

/-- One event of a run that has shown every map so far. -/
theorem shows_current_iff {before : List Event}
    (shown : Along (ShowsCurrentMap thousandths round toFloat enabled size originX originY) before)
    (e : Event) :
    ShowsCurrentMap thousandths round toFloat enabled size originX originY before e ↔
      MapRefreshed before e := by
  refine forall_congr' fun response => imp_congr_right fun pass => imp_congr_right fun valid => ?_
  obtain ⟨visible, now, rfl, passes⟩ := passed_eq_some pass
  have remembers : Remembers (lastPassed before)
      (reached thousandths round toFloat enabled size originX originY before) :=
    reached_remembers before
  have unchanged_iff : hasMapChanged response
      (reached thousandths round toFloat enabled size originX originY before).dialog = false ↔
        SameCells (lastMap (lastPassed before)) (mapOf response) := by
    rw [hasMapChanged_eq_false, sameCells_iff, remembers.width, remembers.height, remembers.data]
  rw [reached_concat]
  cases changed : hasMapChanged response
      (reached thousandths round toFloat enabled size originX originY before).dialog with
  | true =>
    rw [showsMap_congr (step_changed (passed_guards passes) changed), giveMap_shows_iff valid]
    constructor
    · rintro ⟨smallWidth, smallHeight⟩
      refine ⟨smallWidth, smallHeight, fun last seen same => ?_⟩
      have unchanged := unchanged_iff.mpr ((lastMap_seen seen).symm ▸ same)
      rw [changed] at unchanged
      cases unchanged
    · exact fun h => ⟨h.1, h.2.1⟩
  | false =>
    rw [showsMap_congr (step_unchanged (passed_guards passes) changed)]
    exact kept_shows_iff shown valid (unchanged_iff.mp changed)

/-- Exactly when every call leaves the widget with the current map. -/
theorem map_current_iff (events : List Event) :
    Along (ShowsCurrentMap thousandths round toFloat enabled size originX originY) events ↔
      Along MapRefreshed events :=
  along_iff_along (fun _ e shown => shows_current_iff shown e) events

/-- A message with a map of one cell. -/
def oneCellAt (resolution : ℚ) : GetMapResponse ℚ :=
  { GetMapResponse.empty with map := some ⟨1, 1, resolution, [0], none, "map"⟩ }

/-- The widget keeps the resolution of a map whose cells stay. -/
theorem rescaled_map_missed :
    ¬ Along (ShowsCurrentMap thousandthsOfDouble roundHalfUp id true ⟨1, 1⟩ 0 0)
      [.mapUpdated true 100 (oneCellAt 1), .mapUpdated true 300 (oneCellAt 2)] := by
  intro shown
  have shows := shown [.mapUpdated true 100 (oneCellAt 1)] (.mapUpdated true 300 (oneCellAt 2)) []
    rfl (oneCellAt 2) (by decide) ⟨by decide, by decide, by decide⟩
  have resolution := shows.resolution
  revert resolution
  decide +kernel

/-! ### The pose -/

theorem truncate_intCast (n : ℤ) : MapWidget.truncate n = n := by
  simp [MapWidget.truncate]

/-- The static copy of a coordinate starts different from it. -/
theorem truncate_add_one_ne (q : ℚ) : (MapWidget.truncate (q + 1) : ℚ) ≠ q := by
  intro same
  have whole : MapWidget.truncate (q + 1) = MapWidget.truncate (q + 1) + 1 := by
    calc MapWidget.truncate (q + 1)
        = MapWidget.truncate ((MapWidget.truncate (q + 1) + 1 : ℤ) : ℚ) := by
          congr 1
          push_cast
          rw [same]
      _ = MapWidget.truncate (q + 1) + 1 := truncate_intCast _
  omega

theorem poseChanged_eq_false {response : GetMapResponse ℚ} {dialog : Dialog} :
    poseChanged response dialog = false ↔ ∃ prev, dialog.previousPose = some prev ∧
      (prev.prevPoseX : ℚ) = (robotPoseOf response).positionX ∧
      (prev.prevPoseY : ℚ) = (robotPoseOf response).positionY ∧
      prev.prevQ = poseToQuaternion (robotPoseOf response) := by
  simp only [poseChanged, hasPoseChanged, Bool.or_eq_false_iff, bne_eq_false_iff_eq, and_assoc]
  cases dialog.previousPose with
  | none =>
    constructor
    · intro h
      exact absurd h.1 (truncate_add_one_ne _)
    · rintro ⟨prev, seen, -⟩
      cases seen
  | some prev => simp

theorem latest_calls (thousandths : ℚ → UInt64) (response : GetMapResponse ℚ) (dialog : Dialog) :
    latest givenPose
        (mapCalls response dialog ++ poseCalls response dialog ++
          zoneCalls thousandths response dialog)
      = if poseChanged response dialog then
          some ((robotPoseOf response).positionX, (robotPoseOf response).positionY,
            poseToQuaternion (robotPoseOf response))
        else none := by
  have maps : latest givenPose (mapCalls response dialog) = none := by
    dsimp only [mapCalls]
    split <;> rfl
  have zones : latest givenPose (zoneCalls thousandths response dialog) = none := by
    dsimp only [zoneCalls]
    split <;> rfl
  rw [latest_append, latest_append, maps, zones, Option.or_none, Option.none_or]
  dsimp only [poseCalls]
  split <;> rfl

theorem widgetCalls_concat (before : List Event) (e : Event) :
    widgetCalls thousandths round toFloat enabled size originX originY (before ++ [e])
      = widgetCalls thousandths round toFloat enabled size originX originY before ++
        calls thousandths
          (reached thousandths round toFloat enabled size originX originY before) e :=
  trace_concat _ _ _ _ _

theorem latest_unpassed {before : List Event} {e : Event} (unpassed : passed before e = none) :
    latest givenPose
        (widgetCalls thousandths round toFloat enabled size originX originY (before ++ [e]))
      = latest givenPose
          (widgetCalls thousandths round toFloat enabled size originX originY before) := by
  rw [widgetCalls_concat]
  cases e with
  | widget e =>
    obtain ⟨e, operator⟩ := e
    have none_given : givenPose e = none := by
      cases e <;> first | rfl | exact operator.elim
    simp [calls, none_given]
  | mapUpdated visible now response =>
    rw [calls, onMapUpdated_refused (refused_of_unpassed unpassed), List.append_nil]

/-- While every pose was given, the last one given is that of the last message. -/
theorem gives_last {before : List Event} {last : GetMapResponse ℚ}
    (given : Along (GivesCurrentPose thousandths round toFloat enabled size originX originY) before)
    (seen : (lastPassed before).map Prod.snd = some last) :
    latest givenPose (widgetCalls thousandths round toFloat enabled size originX originY before)
      = some ((robotPoseOf last).positionX, (robotPoseOf last).positionY,
          poseToQuaternion (robotPoseOf last)) := by
  induction before using List.reverseRecOn with
  | nil => cases seen
  | append_singleton before e ih =>
    obtain ⟨earlier, current⟩ := along_concat.mp given
    rw [lastPassed_concat] at seen
    cases pass : passed before e with
    | some response =>
      rw [pass, Option.some_or] at seen
      cases seen
      exact current last pass
    | none =>
      rw [pass, Option.none_or] at seen
      rw [latest_unpassed pass]
      exact ih earlier seen

theorem poseChanged_eq_false_iff {last : Option (Nat × GetMapResponse ℚ)} {s : State}
    (remembers : Remembers last s) (response : GetMapResponse ℚ) :
    poseChanged response s.dialog = false ↔
      ∃ seen, last.map Prod.snd = some seen ∧ Hidden seen response := by
  rw [poseChanged_eq_false, remembers.pose]
  cases last with
  | none => simp
  | some call => simp [previousPoseOf, Hidden]

theorem gives_current_iff {before : List Event}
    (given : Along (GivesCurrentPose thousandths round toFloat enabled size originX originY) before)
    (e : Event) :
    GivesCurrentPose thousandths round toFloat enabled size originX originY before e ↔
      PoseRefreshed before e := by
  refine forall_congr' fun response => imp_congr_right fun pass => ?_
  obtain ⟨visible, now, rfl, passes⟩ := passed_eq_some pass
  have remembers : Remembers (lastPassed before)
      (reached thousandths round toFloat enabled size originX originY before) :=
    reached_remembers before
  have latestGiven := latest_calls thousandths response
    (reached thousandths round toFloat enabled size originX originY before).dialog
  dsimp only
  rw [widgetCalls_concat, latest_append, calls, onMapUpdated_calls (passed_guards passes),
    latestGiven]
  cases changed : poseChanged response
      (reached thousandths round toFloat enabled size originX originY before).dialog with
  | true =>
    refine iff_of_true rfl fun last seen hidden => ?_
    have unchanged := (poseChanged_eq_false_iff remembers response).mpr ⟨last, seen, hidden⟩
    rw [changed] at unchanged
    cases unchanged
  | false =>
    obtain ⟨last, seen, hidden⟩ := (poseChanged_eq_false_iff remembers response).mp changed
    rw [gives_last given seen, if_neg Bool.false_ne_true, Option.none_or, Option.some.injEq,
      Prod.mk.injEq, Prod.mk.injEq]
    constructor
    · rintro ⟨sameX, sameY, -⟩ last' seen' -
      cases seen.symm.trans seen'
      exact ⟨sameX, sameY⟩
    · intro stayed
      obtain ⟨sameX, sameY⟩ := stayed last seen hidden
      exact ⟨sameX, sameY, hidden.2.2⟩

/-- Exactly when the widget was always given the current pose. -/
theorem pose_current_iff (events : List Event) :
    Along (GivesCurrentPose thousandths round toFloat enabled size originX originY) events ↔
      Along PoseRefreshed events :=
  along_iff_along (fun _ e given => gives_current_iff given e) events

/-- A message with the robot somewhere on the first axis. -/
def robotAt (positionX : ℚ) : GetMapResponse ℚ :=
  { GetMapResponse.empty with robotPose := some ⟨positionX, 0, 0, 0, 0, 0, 1⟩ }

/-- A robot that steps back from 3/2 to 1 stays drawn at 3/2. -/
theorem step_back_missed :
    ¬ Along (GivesCurrentPose thousandthsOfDouble roundHalfUp id true ⟨1, 1⟩ 0 0)
      [.mapUpdated true 100 (robotAt (3 / 2)), .mapUpdated true 300 (robotAt 1)] := by
  intro given
  have current := given [.mapUpdated true 100 (robotAt (3 / 2))]
    (.mapUpdated true 300 (robotAt 1)) [] rfl (robotAt 1) (by decide)
  revert current
  decide +kernel

end MapStaleness
