import MotionControl.Proofs.Scalar.Real

/-!
# Exact numbers

Claims about exact arithmetic still speak of values that are not numbers: a
ceiling may be infinite or undefined, and a message may carry anything.  `Exact`
adds the two infinities and "not a number" to the reals.  Arithmetic on reals is
exact; the other values propagate as they do in machine arithmetic, and a
division by zero leaves the reals.  Zero has no sign.

`real` embeds the reals, and the lemmas below say that it commutes with every
operation of the control law.  No computation on finite values is therefore ever
carried out twice.
-/

namespace MotionControl

/-- A real number, an infinity, or "not a number". -/
inductive Exact where
  | nan
  | infinite (negative : Bool)
  | real (value : ℝ)

namespace Exact

/-- The infinity with the sign of a real that is not zero. -/
noncomputable def infinityOf (x : ℝ) : Exact :=
  .infinite (decide (x < 0))

def neg : Exact → Exact
  | nan => nan
  | infinite negative => infinite (!negative)
  | real x => real (-x)

def add : Exact → Exact → Exact
  | nan, _ | _, nan => nan
  | infinite a, infinite b => if a = b then infinite a else nan
  | infinite a, real _ | real _, infinite a => infinite a
  | real x, real y => real (x + y)

noncomputable def mul : Exact → Exact → Exact
  | nan, _ | _, nan => nan
  | infinite a, infinite b => infinite (a != b)
  | infinite a, real x | real x, infinite a =>
    if x = 0 then nan else infinite (a != decide (x < 0))
  | real x, real y => real (x * y)

noncomputable def div : Exact → Exact → Exact
  | nan, _ | _, nan | infinite _, infinite _ => nan
  | infinite a, real y => infinite (a != decide (y < 0))
  | real _, infinite _ => real 0
  | real x, real y => if y = 0 then (if x = 0 then nan else infinityOf x) else real (x / y)

/-- The order of the numbers; "not a number" is related to nothing. -/
def le : Exact → Exact → Prop
  | nan, _ | _, nan => False
  | infinite true, _ | _, infinite false => True
  | real x, real y => x ≤ y
  | infinite false, _ | _, infinite true => False

/-- The strict order of the numbers. -/
def lt (a b : Exact) : Prop :=
  le a b ∧ ¬ le b a

noncomputable def sqrt : Exact → Exact
  | nan | infinite true => nan
  | infinite false => infinite false
  | real x => if x < 0 then nan else real (Real.sqrt x)

/-- A function of an angle, which infinity is not. -/
def ofAngle (f : ℝ → ℝ) : Exact → Exact
  | nan | infinite _ => nan
  | real x => real (f x)

/-- The direction in which an infinite coordinate outweighs a real one. -/
def weight : Exact → ℝ
  | nan | real _ => 0
  | infinite negative => if negative then -1 else 1

noncomputable def atan2 : Exact → Exact → Exact
  | nan, _ | _, nan => nan
  | real y, real x => real (Complex.arg ⟨x, y⟩)
  | y, x => real (Complex.arg ⟨x.weight, y.weight⟩)

open Classical in
noncomputable instance scalarExact : Scalar Exact where
  zero := real 0
  one := real 1
  add := add
  sub := fun a b => add a (neg b)
  mul := mul
  div := div
  neg := neg
  natCast := fun n => real n
  lt := lt
  le := le
  decLt := fun _ _ => inferInstance
  decLe := fun _ _ => inferInstance
  abs := fun
    | nan => nan
    | infinite _ => infinite false
    | real x => real |x|
  sqrt := sqrt
  sin := ofAngle Real.sin
  cos := ofAngle Real.cos
  atan2 := atan2
  epsilon := real 0
  isFinite := fun
    | nan | infinite _ => false
    | real _ => true
  isNaN := fun
    | nan => true
    | infinite _ | real _ => false
  nearestMultiple := fun
    | nan, _ | infinite _, _ => none
    | real x, n => some (nearestInt (x * n))

/-! ## Reals among the exact numbers -/

@[simp] theorem real_add (x y : ℝ) : real x + real y = real (x + y) := rfl

@[simp] theorem real_neg (x : ℝ) : -real x = real (-x) := rfl

@[simp] theorem real_sub (x y : ℝ) : real x - real y = real (x - y) :=
  congrArg real (sub_eq_add_neg x y).symm

@[simp] theorem real_mul (x y : ℝ) : real x * real y = real (x * y) := rfl

@[simp] theorem zero_eq : (0 : Exact) = real 0 := rfl

@[simp] theorem one_eq : (1 : Exact) = real 1 := rfl

theorem real_div {y : ℝ} (x : ℝ) (nonzero : y ≠ 0) : real x / real y = real (x / y) :=
  if_neg nonzero

@[simp] theorem real_le {x y : ℝ} : real x ≤ real y ↔ x ≤ y := Iff.rfl

@[simp] theorem real_lt {x y : ℝ} : real x < real y ↔ x < y := by
  constructor
  · intro ordered
    exact lt_of_not_ge ordered.2
  · intro ordered
    exact ⟨ordered.le, not_le.mpr ordered⟩

theorem real_le_of_le {x y : ℝ} {a : Exact} (ordered : x ≤ y) (below : real y ≤ a) :
    real x ≤ a := by
  cases a with
  | nan => exact below.elim
  | infinite negative => cases negative with
    | true => exact below.elim
    | false => exact trivial
  | real bound => exact real_le.mpr (ordered.trans (real_le.mp below))

@[simp] theorem abs_real (x : ℝ) : Scalar.abs (real x) = real |x| := rfl

theorem sqrt_real {x : ℝ} (nonneg : 0 ≤ x) : Scalar.sqrt (real x) = real (Real.sqrt x) :=
  if_neg (not_lt.mpr nonneg)

@[simp] theorem sin_real (x : ℝ) : Scalar.sin (real x) = real (Real.sin x) := rfl

@[simp] theorem cos_real (x : ℝ) : Scalar.cos (real x) = real (Real.cos x) := rfl

@[simp] theorem atan2_real (y x : ℝ) :
    Scalar.atan2 (real y) (real x) = real (Scalar.atan2 y x) := rfl

@[simp] theorem isFinite_real (x : ℝ) : Scalar.isFinite (real x) = true := rfl

theorem exists_real {a : Exact} (finite : Scalar.isFinite a = true) : ∃ x, a = real x := by
  cases a with
  | nan => cases finite
  | infinite negative => cases finite
  | real x => exact ⟨x, rfl⟩

@[simp] theorem natCast_eq (n : ℕ) : (n : Exact) = real n := rfl

@[simp] theorem epsilon_eq : (Scalar.epsilon : Exact) = real 0 := rfl

@[simp] theorem largerMagnitude_real (x y : ℝ) :
    Scalar.largerMagnitude (real x) (real y) = real (max x |y|) := by
  rw [← Scalar.largerMagnitude_real]
  simp only [Scalar.largerMagnitude, abs_real, real_le, Scalar.abs_real]
  split_ifs <;> rfl

end Exact
end MotionControl
