import Mathlib.Tactic.Common
import MotionControl.Geometry.Pose

/-!
# Finite vectors

A vector counts as finite when each of its components does, so a statement on
vectors from outside is one on the list of their numbers.
-/

namespace MotionControl

variable {α : Type} [Scalar α]

theorem Vec3.forall_iff {β : Type} (p : β → Prop) (v : Vec3 β) :
    (∀ component ∈ v.toList, p component) ↔ p v.x ∧ p v.y ∧ p v.z := by
  simp only [toList, List.forall_mem_cons, List.not_mem_nil, false_implies, implies_true, and_true]

theorem Quat.forall_iff {β : Type} (p : β → Prop) (q : Quat β) :
    (∀ component ∈ q.toList, p component) ↔ p q.x ∧ p q.y ∧ p q.z ∧ p q.w := by
  simp only [toList, List.forall_mem_cons, List.not_mem_nil, false_implies, implies_true, and_true]

theorem SpatialVector.forall_iff {β : Type} (p : β → Prop) (v : SpatialVector β) :
    (∀ component ∈ v.toList, p component) ↔
      (∀ component ∈ v.linear.toList, p component) ∧
        ∀ component ∈ v.angular.toList, p component := by
  rw [toList, List.forall_mem_append]

theorem Vec3.isFinite_iff (v : Vec3 α) :
    v.isFinite = true ↔ ∀ component ∈ v.toList, Scalar.isFinite component = true := by
  rw [forall_iff, isFinite, Bool.and_eq_true, Bool.and_eq_true, and_assoc]

theorem Quat.isFinite_iff (q : Quat α) :
    q.isFinite = true ↔ ∀ component ∈ q.toList, Scalar.isFinite component = true := by
  rw [forall_iff, isFinite, Bool.and_eq_true, Vec3.isFinite_iff, Vec3.forall_iff, and_assoc,
    and_assoc]
  rfl

/-- An orientation is normalised only if it is finite. -/
theorem Quat.isFinite_of_ofComponents? {q r : Quat α} (made : q.ofComponents? = some r) :
    q.isFinite = true := by
  cases finite : q.isFinite with
  | true => rfl
  | false => simp [ofComponents?, finite] at made

theorem SpatialVector.isFinite_iff (v : SpatialVector α) :
    v.isFinite = true ↔ ∀ component ∈ v.toList, Scalar.isFinite component = true := by
  rw [forall_iff, isFinite, Bool.and_eq_true, Vec3.isFinite_iff, Vec3.isFinite_iff]

end MotionControl
