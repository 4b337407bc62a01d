import Mathlib.Algebra.Notation.Defs

/-!
# The map messages

`map.proto` as proto3 reads it. A coordinate, a resolution or an angle has an
arbitrary type `α`; the handlers of the server only copy it.
-/

namespace MapMessages

structure Pose (α : Type) where
  positionX : α
  positionY : α
  positionZ : α
  orientationX : α
  orientationY : α
  orientationZ : α
  orientationW : α
  deriving DecidableEq

def Pose.empty {α : Type} [Zero α] : Pose α := ⟨0, 0, 0, 0, 0, 0, 0⟩

structure PoseState (α : Type) where
  pose : Option (Pose α)
  deriving DecidableEq

structure OccupancyGrid (α : Type) where
  width : UInt32
  height : UInt32
  resolution : α
  data : List UInt8
  origin : Option (Pose α)
  frameId : String
  deriving DecidableEq

structure Point2D (α : Type) where
  x : α
  y : α
  deriving DecidableEq

structure ColorRGB where
  r : UInt32
  g : UInt32
  b : UInt32
  deriving DecidableEq

structure ZonePassage (α : Type) where
  toId : UInt64
  chainCode : List (Point2D α)
  deriving DecidableEq

structure Zone (α : Type) where
  id : UInt64
  typeId : UInt32
  name : String
  type : String
  centroid : Option (Point2D α)
  color : Option ColorRGB
  chainCode : List (Point2D α)
  passages : List (ZonePassage α)
  deriving DecidableEq

structure ZoneMap (α : Type) where
  zones : List (Zone α)
  deriving DecidableEq

def ZoneMap.empty {α : Type} : ZoneMap α := ⟨[]⟩

structure ZoneState (α : Type) where
  zoneMap : Option (ZoneMap α)
  deriving DecidableEq

structure GetMapResponse (α : Type) where
  map : Option (OccupancyGrid α)
  robotPose : Option (Pose α)
  zoneMap : Option (ZoneMap α)
  mapSeq : UInt64
  zoneSeq : UInt64
  deriving DecidableEq

def GetMapResponse.empty {α : Type} : GetMapResponse α := ⟨none, none, none, 0, 0⟩

end MapMessages
