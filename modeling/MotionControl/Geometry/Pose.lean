import MotionControl.Geometry.Quat

/-!
# Poses and spatial vectors

A pose says where the end effector is and how it is turned, in the base frame.
A spatial vector pairs a linear with an angular part: a motion error, a twist, a
wrench or a joint command, according to its use.
-/

namespace MotionControl

/-- Position and orientation of the end effector in the base frame. -/
@[ext]
structure Pose (α : Type) where
  position : Vec3 α
  rotation : Quat α
  deriving DecidableEq

/-- A linear part followed by an angular part. -/
@[ext]
structure SpatialVector (α : Type) where
  linear : Vec3 α
  angular : Vec3 α
  deriving DecidableEq

variable {α : Type} [Scalar α]

namespace Pose

def identity : Pose α :=
  ⟨0, 1⟩

end Pose

namespace SpatialVector

instance : Zero (SpatialVector α) where
  zero := ⟨0, 0⟩

instance : Add (SpatialVector α) where
  add a b := ⟨a.linear + b.linear, a.angular + b.angular⟩

instance : Sub (SpatialVector α) where
  sub a b := ⟨a.linear - b.linear, a.angular - b.angular⟩

instance : Neg (SpatialVector α) where
  neg a := ⟨-a.linear, -a.angular⟩

def scale (v : SpatialVector α) (k : α) : SpatialVector α :=
  ⟨v.linear.scale k, v.angular.scale k⟩

/-- The six components, the linear part first. -/
def toList {α : Type} (v : SpatialVector α) : List α :=
  v.linear.toList ++ v.angular.toList

def isFinite (v : SpatialVector α) : Bool :=
  v.linear.isFinite && v.angular.isFinite

end SpatialVector
end MotionControl
