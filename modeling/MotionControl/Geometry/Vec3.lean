import MotionControl.Scalar

/-!
# Vectors

Three components in the base frame.  Norms are the plain square root of the sum
of squares, so over doubles they overflow and underflow; only the functions
that say so scale by the largest component first.
-/

namespace MotionControl

open Scalar

@[ext]
structure Vec3 (α : Type) where
  x : α
  y : α
  z : α
  deriving DecidableEq

namespace Vec3

variable {α : Type} [Scalar α]

instance : Zero (Vec3 α) where
  zero := ⟨0, 0, 0⟩

instance : Add (Vec3 α) where
  add a b := ⟨a.x + b.x, a.y + b.y, a.z + b.z⟩

instance : Sub (Vec3 α) where
  sub a b := ⟨a.x - b.x, a.y - b.y, a.z - b.z⟩

instance : Neg (Vec3 α) where
  neg a := ⟨-a.x, -a.y, -a.z⟩

def scale (v : Vec3 α) (k : α) : Vec3 α :=
  ⟨v.x * k, v.y * k, v.z * k⟩

def toList {α : Type} (v : Vec3 α) : List α :=
  [v.x, v.y, v.z]

def unscale (v : Vec3 α) (k : α) : Vec3 α :=
  ⟨v.x / k, v.y / k, v.z / k⟩

def normSq (v : Vec3 α) : α :=
  v.x * v.x + v.y * v.y + v.z * v.z

def norm (v : Vec3 α) : α :=
  sqrt v.normSq

def maxMagnitude (v : Vec3 α) : α :=
  largerMagnitude (largerMagnitude (abs v.x) v.y) v.z

def isFinite (v : Vec3 α) : Bool :=
  Scalar.isFinite v.x && Scalar.isFinite v.y && Scalar.isFinite v.z

/-- Unit direction and length of a vector; nothing if the sum of squares is not
positive, as for the zero vector. -/
def direction? (v : Vec3 α) : Option (Vec3 α × α) :=
  if 0 < v.normSq then some (v.unscale v.norm, v.norm) else none

end Vec3
end MotionControl
