import Mathlib.Algebra.Ring.Int.Defs
import AmurCore.EventRuns
import AmurCore.MapMessages

/-!
# The three map streams

`grpcServer::MapStream`, `PoseStream` and `ZoneStream` process the messages of
any number of connections, one at a time under `muMap`, into one shared
`GetMapResponse`, whose pointer is set before the server starts. A handler keeps
nothing from one message to the next, so a run is the list of the messages in
the order in which they were processed.
-/

namespace MapStreams

open EventRuns MapMessages

variable {α : Type} [Zero α]

/-- A message that one of the handlers has read. -/
inductive Message (α : Type) where
  | mapStream (response : GetMapResponse α)
  | poseStream (state : PoseState α)
  | zoneStream (state : ZoneState α)

/-- What the handler does to the shared message. -/
def process (map : GetMapResponse α) : Message α → GetMapResponse α
  | .mapStream response => response
  -- an absent sub-message is read as its default and stored as present
  | .poseStream state => { map with robotPose := some (state.pose.getD .empty) }
  | .zoneStream state => { map with zoneMap := some (state.zoneMap.getD .empty) }

def carriedPose : Message α → Option (Pose α)
  | .mapStream response => response.robotPose
  | .poseStream state => state.pose
  | .zoneStream _ => none

def carriedZones : Message α → Option (ZoneMap α)
  | .mapStream response => response.zoneMap
  | .poseStream _ => none
  | .zoneStream state => state.zoneMap

/-- The shared message after the messages of a run. -/
def sharedMap (messages : List (Message α)) : GetMapResponse α := run process .empty messages

/-- The shared message holds the last pose and the last zones that any message
carried. -/
def HoldsLatest (messages : List (Message α)) : Prop :=
  (sharedMap messages).robotPose = latest carriedPose messages ∧
    (sharedMap messages).zoneMap = latest carriedZones messages

/-- What the message lacks of the pose or the zones is, in the shared message,
already as the handler will leave it: unset for a `GetMapResponse`, set to the
default for a `PoseState` or `ZoneState`. -/
def Harmless (map : GetMapResponse α) : Message α → Prop
  | .mapStream response =>
    (response.robotPose = none → map.robotPose = none) ∧
      (response.zoneMap = none → map.zoneMap = none)
  | .poseStream state => state.pose = none → map.robotPose = some .empty
  | .zoneStream state => state.zoneMap = none → map.zoneMap = some .empty

/-- A component replaced by what the message has. -/
theorem replaced_iff {V : Type} (carried held : Option V) :
    carried = carried.or held ↔ (carried = none → held = none) := by
  cases carried with
  | none => simp [eq_comm]
  | some v => simp

/-- A component replaced by what the message has or reads as. -/
theorem defaulted_iff {V : Type} (carried held : Option V) (default : V) :
    some (carried.getD default) = carried.or held ↔
      (carried = none → held = some default) := by
  cases carried with
  | none => simp [eq_comm]
  | some v => simp

theorem process_harmless_iff (map : GetMapResponse α) (message : Message α) :
    (process map message).robotPose = (carriedPose message).or map.robotPose ∧
        (process map message).zoneMap = (carriedZones message).or map.zoneMap ↔
      Harmless map message := by
  cases message with
  | mapStream response => exact and_congr (replaced_iff _ _) (replaced_iff _ _)
  | poseStream state => exact (and_iff_left rfl).trans (defaulted_iff _ _ _)
  | zoneStream state => exact (and_iff_right rfl).trans (defaulted_iff _ _ _)

/-- The streams leave each other's components alone throughout a run exactly
when every message that lacks a component finds it as it will leave it. -/
theorem holds_latest_iff (messages : List (Message α)) :
    Throughout HoldsLatest messages ↔
      Along (fun before message => Harmless (sharedMap before) message) messages := by
  refine throughout_iff_along ⟨rfl, rfl⟩ ?_ messages
  intro before message throughout
  obtain ⟨pose, zones⟩ := throughout before [] (List.append_nil before).symm
  rw [← process_harmless_iff, HoldsLatest, latest_concat, latest_concat, ← pose, ← zones]
  simp only [sharedMap, run_concat]

/-- A map message without a pose erases the pose that the robot has streamed. -/
theorem map_erases_pose : ¬∀ messages : List (Message Int), HoldsLatest messages := by
  intro claimed
  have held := (claimed [.poseStream ⟨some ⟨1, 2, 0, 0, 0, 0, 1⟩⟩, .mapStream .empty]).1
  cases held

end MapStreams
