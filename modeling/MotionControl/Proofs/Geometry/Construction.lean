import MotionControl.Proofs.Geometry.Finite

/-!
# Rotations made from angles and from components

Rotations come from outside in two forms: as the three angles of a twist, and as the four
components of a message.  `IsRollPitchYaw` and `Normalises` say what each form stands for in the
arithmetic of the numbers at hand, so over doubles their rounding is part of the statement.  Over
the reals the angles are three turns about the axes of the base frame (`isRollPitchYaw_iff`), and
the components stand for the unit quaternion in their direction (`normalises_iff`).
-/

namespace MotionControl
namespace Quat

open Scalar

variable {α : Type} [Scalar α]

/-- The quaternion of a turn by `angles.x` about x, then by `angles.y` about y, then by `angles.z`
about z, as sums of products of half-angle sines and cosines. -/
structure IsRollPitchYaw (q : Quat α) (angles : Vec3 α) : Prop where
  x_eq : q.x =
    sin (angles.x / ((2 : Nat) : α)) * cos (angles.y / ((2 : Nat) : α)) *
        cos (angles.z / ((2 : Nat) : α)) -
      cos (angles.x / ((2 : Nat) : α)) * sin (angles.y / ((2 : Nat) : α)) *
        sin (angles.z / ((2 : Nat) : α))
  y_eq : q.y =
    cos (angles.x / ((2 : Nat) : α)) * sin (angles.y / ((2 : Nat) : α)) *
        cos (angles.z / ((2 : Nat) : α)) +
      sin (angles.x / ((2 : Nat) : α)) * cos (angles.y / ((2 : Nat) : α)) *
        sin (angles.z / ((2 : Nat) : α))
  z_eq : q.z =
    cos (angles.x / ((2 : Nat) : α)) * cos (angles.y / ((2 : Nat) : α)) *
        sin (angles.z / ((2 : Nat) : α)) -
      sin (angles.x / ((2 : Nat) : α)) * sin (angles.y / ((2 : Nat) : α)) *
        cos (angles.z / ((2 : Nat) : α))
  w_eq : q.w =
    cos (angles.x / ((2 : Nat) : α)) * cos (angles.y / ((2 : Nat) : α)) *
        cos (angles.z / ((2 : Nat) : α)) +
      sin (angles.x / ((2 : Nat) : α)) * sin (angles.y / ((2 : Nat) : α)) *
        sin (angles.z / ((2 : Nat) : α))

/-- What normalising makes of four finite components.  They are divided by `size`, the largest
magnitude among them, and the result by its own length; components whose length is below a
billionth have no unit quaternion. -/
structure Normalises (q : Quat α) (size : α) (unit : Quat α) : Prop where
  finite : ∀ component ∈ q.toList, Scalar.isFinite component = true
  size_eq : size = [q.y, q.z, q.w].foldl largerMagnitude (abs q.x)
  positive : ¬ size ≤ 0
  long : ¬ (q.unscale size).norm * size < ratio 1 1000000000
  unit_eq : unit = (q.unscale size).unscale (q.unscale size).norm

theorem isRollPitchYaw_iff_eq (q : Quat α) (angles : Vec3 α) :
    q.IsRollPitchYaw angles ↔ q = ofRollPitchYaw angles.x angles.y angles.z := by
  constructor
  · rintro ⟨x, y, z, w⟩
    exact Quat.ext x y z w
  · rintro rfl
    exact ⟨rfl, rfl, rfl, rfl⟩

/-- The gate for orientations lets through exactly what has a unit quaternion. -/
theorem ofComponents?_eq_some_iff (q unit : Quat α) :
    q.ofComponents? = some unit ↔ ∃ size, q.Normalises size unit := by
  have largest : q.maxMagnitude = [q.y, q.z, q.w].foldl largerMagnitude (abs q.x) := rfl
  constructor
  · intro made
    have finite := (isFinite_iff q).mp (isFinite_of_ofComponents? made)
    by_cases none : q.maxMagnitude ≤ 0
    · simp [ofComponents?, none] at made
    · by_cases short : (q.unscale q.maxMagnitude).norm * q.maxMagnitude < minNorm
      · simp [ofComponents?, short] at made
      · have unit_eq : (q.unscale q.maxMagnitude).unscale (q.unscale q.maxMagnitude).norm =
            unit := by
          simpa [ofComponents?, isFinite_of_ofComponents? made, none, short] using made
        exact ⟨q.maxMagnitude, finite, largest, none, short, unit_eq.symm⟩
  · rintro ⟨size, finite, same, positive, long, rfl⟩
    have attained : size = q.maxMagnitude := same.trans largest.symm
    subst attained
    have short : ¬ (q.unscale q.maxMagnitude).norm * q.maxMagnitude < minNorm := long
    simp [ofComponents?, (isFinite_iff q).mpr finite, positive, short]

end Quat
end MotionControl
