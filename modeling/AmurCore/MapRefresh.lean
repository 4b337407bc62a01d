import Mathlib.Data.Int.Log
import AmurCore.MapMessages
import AmurCore.MapWidget

/-!
# The map refresh of the dialog

`NavDialog::onMapUpdated` on the shared `GetMapResponse`. It remembers what it
last handed to the widget and hands on only what has changed since. The calls
that it makes on the widget are the events of the widget; between them the
operator may do anything else to it. `now` is the clock behind
`lastUpdateTimer`, in milliseconds since the dialog was constructed.

The signature of the zones takes coordinates to thousandths by a product of doubles.
How these are rounded is a parameter, `thousandths`.
-/

namespace MapRefresh

open EventRuns NavCommands MapMessages MapPainting

/-! ### Reading the message -/

/-- An unset message field reads as the default instance. -/
def mapOf (response : GetMapResponse ℚ) : OccupancyGrid ℚ :=
  response.map.getD ⟨0, 0, 0, [], none, ""⟩

def robotPoseOf (response : GetMapResponse ℚ) : Pose ℚ := response.robotPose.getD .empty

def originOf (map : OccupancyGrid ℚ) : Pose ℚ := map.origin.getD .empty

def colorOf (zone : Zone ℚ) : ColorRGB := zone.color.getD ⟨0, 0, 0⟩

/-- The cells as `int8_t`. -/
def cellsOf (map : OccupancyGrid ℚ) : List Int8 := map.data.map UInt8.toInt8

def poseToQuaternion (pose : Pose ℚ) : MapWidget.PoseQuaternion :=
  ⟨pose.orientationX, pose.orientationY, pose.orientationZ, pose.orientationW⟩

/-! ### Zones -/

def hashCombine (seed value : UInt64) : UInt64 :=
  seed ^^^ (value + 0x9e3779b97f4a7c15 + seed <<< (6 : UInt64) + seed >>> (2 : UInt64))

/-- `std::llround`: to the nearest integer, halves away from zero. -/
def llround (q : ℚ) : ℤ := if 0 ≤ q then ⌊q + 1 / 2⌋ else ⌈q - 1 / 2⌉

/-- A number rounded to the 53 bits of a double, ties to even; the exponent is not limited. -/
def nearestDouble (q : ℚ) : ℚ :=
  let unit : ℚ := 2 ^ (Int.log 2 |q| - 52)
  let down := ⌊q / unit⌋
  let rest := q / unit - down
  (if rest > 1 / 2 ∨ (rest = 1 / 2 ∧ down % 2 = 1) then down + 1 else down) * unit

/-- `std::llround(x * 1000.0)` as 64 bits. -/
def thousandthsOfDouble (x : ℚ) : UInt64 := UInt64.ofInt (llround (nearestDouble (x * 1000)))

/-- The doubles nearest to 0.0045 and to 0.005 are five thousandths, although the first
is below four and a half. -/
example :
    [5188146770730811 / 2 ^ 60, 5764607523034235 / 2 ^ 60].map thousandthsOfDouble = [5, 5] ∧
      llround (5188146770730811 / 2 ^ 60 * 1000) = 4 := by
  decide +kernel

section Signature
variable (thousandths : ℚ → UInt64)

def hashPoint (hash : UInt64) (pt : Point2D ℚ) : UInt64 :=
  hashCombine (hashCombine hash (thousandths pt.x)) (thousandths pt.y)

def hashZone (hash : UInt64) (zone : Zone ℚ) : UInt64 :=
  let hash := hashCombine hash zone.id
  let hash := hashCombine hash zone.typeId.toUInt64
  let hash := hashCombine hash (colorOf zone).r.toUInt64
  let hash := hashCombine hash (colorOf zone).g.toUInt64
  let hash := hashCombine hash (colorOf zone).b.toUInt64
  let hash := hashCombine hash (UInt64.ofNat zone.chainCode.length)
  zone.chainCode.foldl (hashPoint thousandths) hash

def buildZoneSignature (zoneMap : ZoneMap ℚ) : UInt64 :=
  zoneMap.zones.foldl (hashZone thousandths) (UInt64.ofNat zoneMap.zones.length)

end Signature

def overlay (zone : Zone ℚ) : MapWidget.ZoneOverlay where
  id := zone.id.toUInt32
  typeId := zone.typeId
  name := zone.name
  color := .ofComponents (colorOf zone).r.toInt32.toInt (colorOf zone).g.toInt32.toInt
    (colorOf zone).b.toInt32.toInt
  contour := zone.chainCode.map fun pt => ⟨pt.x, pt.y⟩

/-! ### The dialog -/

/-- The statics of `hasPoseChanged` after a call of it. -/
structure PreviousPose where
  prevPoseX : ℤ
  prevPoseY : ℤ
  prevQ : MapWidget.PoseQuaternion
  deriving DecidableEq

structure Dialog where
  navContainerEnabled : Bool
  previousData : List Int8
  previousWidth : Int32
  previousHeight : Int32
  previousZoneSignature : UInt64
  /-- When `lastUpdateTimer` was started, once it is valid. -/
  lastUpdateTimer : Option Nat
  previousPose : Option PreviousPose

/-- The constructor ends with a start of the timer. -/
def Dialog.construct (navContainerEnabled : Bool) : Dialog :=
  ⟨navContainerEnabled, [], 0, 0, 0, some 0, none⟩

def hasMapChanged (response : GetMapResponse ℚ) (dialog : Dialog) : Bool :=
  (mapOf response).width != dialog.previousWidth.toUInt32 ||
  (mapOf response).height != dialog.previousHeight.toUInt32 ||
  cellsOf (mapOf response) != dialog.previousData

/-- What the statics are initialised with at the first call. -/
def initialPose (pose : Pose ℚ) : PreviousPose :=
  ⟨MapWidget.truncate (pose.positionX + 1), MapWidget.truncate (pose.positionY + 1), ⟨0, 0, 0, 0⟩⟩

def hasPoseChanged (pose : Pose ℚ) (previous : Option PreviousPose) : Bool × PreviousPose :=
  let prev := previous.getD (initialPose pose)
  (prev.prevPoseX != pose.positionX || prev.prevPoseY != pose.positionY ||
    prev.prevQ != poseToQuaternion pose,
    ⟨MapWidget.truncate pose.positionX, MapWidget.truncate pose.positionY, poseToQuaternion pose⟩)

/-- The guards at the top of `onMapUpdated`. -/
def passesGuards (visible : Bool) (now : Nat) (lastUpdateTimer : Option Nat) : Bool :=
  visible && !lastUpdateTimer.any fun restarted => now - restarted < 100

/-- The calls that it makes on the widget beside the dialog's own change. -/
def onMapUpdated (thousandths : ℚ → UInt64) (visible : Bool) (now : Nat)
    (mapPtr : Option (GetMapResponse ℚ)) (dialog : Dialog) : Dialog × List MapWidget.Event :=
  if passesGuards visible now dialog.lastUpdateTimer then
    let dialog := { dialog with lastUpdateTimer := some now }
    match mapPtr with
    | none => ({ dialog with navContainerEnabled := false }, [])
    | some response =>
      let map := mapOf response
      let dialog := { dialog with
        navContainerEnabled := dialog.navContainerEnabled || !map.data.isEmpty }
      let mapChanged := hasMapChanged response dialog
      let pose := robotPoseOf response
      let (poseChanged, previousPose) := hasPoseChanged pose dialog.previousPose
      let dialog := { dialog with previousPose := some previousPose }
      let zoneMap := response.zoneMap.getD .empty
      let zonesChanged := buildZoneSignature thousandths zoneMap != dialog.previousZoneSignature
      let dialog :=
        if mapChanged then
          { dialog with
            previousData := cellsOf map
            previousWidth := map.width.toInt32
            previousHeight := map.height.toInt32 }
        else dialog
      let dialog :=
        if zonesChanged then
          { dialog with previousZoneSignature := buildZoneSignature thousandths zoneMap }
        else dialog
      (dialog,
        (if mapChanged then
          [.setMapData (cellsOf map) map.width.toInt32.toInt map.height.toInt32.toInt
            map.resolution (originOf map).positionX (originOf map).positionY]
        else []) ++
        (if poseChanged then
          [.setRobotPose pose.positionX pose.positionY (poseToQuaternion pose)]
        else []) ++
        (if zonesChanged then [.setZones (zoneMap.zones.map overlay)] else []))
  else (dialog, [])

/-! ### The dialog and its widget -/

/-- Events that the operator or the list of goals brings to the widget. -/
def FromOperator : MapWidget.Event → Prop
  | .setMapData .. | .setRobotPose .. | .setZones .. => False
  | _ => True

inductive Event where
  | mapUpdated (visible : Bool) (now : Nat) (response : GetMapResponse ℚ)
  | widget (e : { e : MapWidget.Event // FromOperator e })

structure State where
  dialog : Dialog
  widget : MapWidget.State

variable (thousandths : ℚ → UInt64)

/-- The calls on the widget at an event. -/
def calls (s : State) : Event → List MapWidget.Event
  | .mapUpdated visible now response =>
    (onMapUpdated thousandths visible now (some response) s.dialog).2
  | .widget e => [e.1]

variable (round : ℚ → ℤ) (toFloat : ℚ → ℚ)

def step (s : State) (e : Event) : State :=
  let widget := run (MapWidget.step round toFloat) s.widget (calls thousandths s e)
  match e with
  | .mapUpdated visible now response =>
    ⟨(onMapUpdated thousandths visible now (some response) s.dialog).1, widget⟩
  | .widget _ => ⟨s.dialog, widget⟩

def start (navContainerEnabled : Bool) (widget : MapWidget.State) : State :=
  ⟨.construct navContainerEnabled, widget⟩

end MapRefresh
