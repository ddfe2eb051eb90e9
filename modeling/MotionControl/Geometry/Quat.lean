import MotionControl.Geometry.Vec3

/-!
# Rotations as quaternions

A rotation is stored as four numbers, meant to have unit length.  The type does
not promise it: a stored quaternion is taken as it is, products are not
normalised on their own, and the inverse is the conjugate.  `ofComponents?` is
the gate for values from outside, and `renormalize` restores unit length after
an integration step.

A quaternion and its negation are the same rotation.  `axis?` and `angle`
always describe the short way round, so the angle lies between zero and a half
turn.
-/

namespace MotionControl

open Scalar

/-- A quaternion with vector part `x, y, z` and scalar part `w`. -/
@[ext]
structure Quat (α : Type) where
  x : α
  y : α
  z : α
  w : α
  deriving DecidableEq

namespace Quat

variable {α : Type} [Scalar α]

def identity : Quat α :=
  ⟨0, 0, 0, 1⟩

instance : One (Quat α) where
  one := identity

/-- `a * b` turns by `b` first and by `a` afterwards. -/
instance : Mul (Quat α) where
  mul a b :=
    { x := a.w * b.x + a.x * b.w + a.y * b.z - a.z * b.y
      y := a.w * b.y - a.x * b.z + a.y * b.w + a.z * b.x
      z := a.w * b.z + a.x * b.y - a.y * b.x + a.z * b.w
      w := a.w * b.w - a.x * b.x - a.y * b.y - a.z * b.z }

/-- The conjugate, which undoes a unit quaternion. -/
def conjugate (q : Quat α) : Quat α :=
  ⟨-q.x, -q.y, -q.z, q.w⟩

def vector (q : Quat α) : Vec3 α :=
  ⟨q.x, q.y, q.z⟩

/-- The components in order, the scalar part last. -/
def toList {α : Type} (q : Quat α) : List α :=
  [q.x, q.y, q.z, q.w]

def unscale (q : Quat α) (k : α) : Quat α :=
  ⟨q.x / k, q.y / k, q.z / k, q.w / k⟩

def normSq (q : Quat α) : α :=
  (q.x * q.x + q.z * q.z) + (q.y * q.y + q.w * q.w)

def norm (q : Quat α) : α :=
  sqrt q.normSq

def maxMagnitude (q : Quat α) : α :=
  largerMagnitude q.vector.maxMagnitude q.w

def isFinite (q : Quat α) : Bool :=
  q.vector.isFinite && Scalar.isFinite q.w

/-- Divide by the length; the zero quaternion has no unit multiple and leaves
the numbers. -/
def renormalize (q : Quat α) : Quat α :=
  q.unscale q.norm

/-- Smallest length that is accepted for normalisation. -/
def minNorm : α :=
  ratio 1 1000000000

/-- The unit quaternion that is a positive multiple of the given components.
Components that are not finite, or shorter than `minNorm`, have none.  The
components are scaled by the largest one first, so that large finite values
keep their direction. -/
def ofComponents? (q : Quat α) : Option (Quat α) :=
  let size := q.maxMagnitude
  if !q.isFinite then none
  else if size ≤ 0 then none
  else
    let scaled := q.unscale size
    let length := scaled.norm
    if length * size < minNorm then none else some (scaled.unscale length)

/-- Axis of the rotation on the short way round; the identity has none. -/
def axis? (q : Quat α) : Option (Vec3 α) :=
  let v := if q.w < 0 then -q.vector else q.vector
  v.direction?.map Prod.fst

/-- Angle of the rotation on the short way round, between zero and a half turn. -/
def angle (q : Quat α) : α :=
  atan2 q.vector.norm (abs q.w) * ((2 : Nat) : α)

/-- The rotation as axis times angle; the identity gives zero. -/
def rotationVector (q : Quat α) : Vec3 α :=
  match q.axis? with
  | some axis => axis.scale q.angle
  | none => 0

/-- The rotation whose axis is the direction of `v` and whose angle is its
length.  A length that cannot be told from zero gives the identity. -/
def ofRotationVector (v : Vec3 α) : Quat α :=
  let half := v.unscale ((2 : Nat) : α)
  let lengthSq := half.normSq
  if lengthSq ≤ epsilon * epsilon then identity
  else
    let length := sqrt lengthSq
    let u := half.scale (sin length / length)
    ⟨u.x, u.y, u.z, cos length⟩

/-- The rotation that turns by `roll` about x, then by `pitch` about y, then by
`yaw` about z, all three fixed axes of the base frame. -/
def ofRollPitchYaw (roll pitch yaw : α) : Quat α :=
  let half (a : α) : α := a / ((2 : Nat) : α)
  let sr := sin (half roll)
  let cr := cos (half roll)
  let sp := sin (half pitch)
  let cp := cos (half pitch)
  let sy := sin (half yaw)
  let cy := cos (half yaw)
  { x := sr * cp * cy - cr * sp * sy
    y := cr * sp * cy + sr * cp * sy
    z := cr * cp * sy - sr * sp * cy
    w := cr * cp * cy + sr * sp * sy }

end Quat
end MotionControl
