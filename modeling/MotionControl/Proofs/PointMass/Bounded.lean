import MotionControl.Proofs.MotionError.Size
import MotionControl.Proofs.PointMass.Coherence

/-!
# A point mass that does not overflow

With the standard spring and damper, steps of less than a fifth of a second take energy
out of the motion: a velocity of `2 ^ 32` times the error that acts on it falls by more
than all rounding errors of the step together, so that bound is kept by any number of
steps.  A position has no such damping, but once it is large enough a step is too short to
change its last digit, and it stays where it is.  A rotation is renormalised in every
step, which the length of an angular velocity beyond `2 ^ 512` would not survive.
-/

namespace MotionControl

open Rounded

variable {α : Type} [Scalar α] [Rounded α]

/-! ## Seconds -/

/-- The length of a step under a fifth of a second is zero or at least a nanosecond, up
to its rounding. -/
theorem Duration.seconds_bounds {period : Duration} (short : period.nanoseconds < 200000000) :
    Scalar.isFinite (period.seconds : α) = true ∧
      (value (period.seconds : α) = 0 ∨ 9 / 10 ^ 10 ≤ value (period.seconds : α)) ∧
      value (period.seconds : α) ≤ 1 / 5 - 9 / 10 ^ 10 := by
  have none : period.nanoseconds / perSecond = 0 := Nat.div_eq_of_lt (by rw [perSecond]; omega)
  have rest : period.nanoseconds % perSecond = period.nanoseconds :=
    Nat.mod_eq_of_lt (by rw [perSecond]; omega)
  have zero := @Rounded.natCast α _ _ 0 (by norm_num)
  have count := @Rounded.natCast α _ _ period.nanoseconds (by omega)
  have second := @Rounded.natCast α _ _ perSecond (by norm_num [perSecond])
  have size : value ((perSecond : ℕ) : α) = 10 ^ 9 := by
    rw [second.2, perSecond]
    norm_num
  have bound : (period.nanoseconds : ℝ) ≤ 199999999 := by exact_mod_cast (by omega)
  have nonneg : (0 : ℝ) ≤ period.nanoseconds := Nat.cast_nonneg _
  have quotient := Rounded.div _ _ count.1 second.1 (by rw [size]; norm_num)
  rw [count.2, size] at quotient
  have part := near_of_approximates (n := -2) quotient (by norm_num) (by norm_num) (by
    rw [abs_of_nonneg (by positivity)]
    norm_num
    linarith)
  have small : |value ((period.nanoseconds : α) / ((perSecond : ℕ) : α))| ≤ 2 ^ (1023 : ℤ) := by
    have close := (Near.within (n := 0) part (by
      rw [abs_of_nonneg (by positivity)]
      norm_num
      linarith)).le
    exact close.trans (zpow_le_zpow_right₀ one_le_two (by norm_num))
  -- adding zero whole seconds does not round again
  have sum := Rounded.add _ _ zero.1 part.isFinite
  rw [zero.2, Nat.cast_zero, zero_add] at sum
  have whole := eq_of_approximates sum (Rounded.representable _) small
  have seconds : (period.seconds : α) =
      ((0 : ℕ) : α) + (period.nanoseconds : α) / ((perSecond : ℕ) : α) := by
    rw [Duration.seconds, none, rest, Scalar.ratio]
  rw [seconds, whole.2]
  refine ⟨whole.1, ?_, ?_⟩
  · by_cases still : period.nanoseconds = 0
    · left
      rw [still, Nat.cast_zero, zero_div] at quotient
      rw [still]
      exact (quotient.isNearest (by rw [← still]; exact part.isFinite)).eq .zero
    · right
      have one : (1 : ℝ) ≤ period.nanoseconds := by exact_mod_cast Nat.pos_of_ne_zero still
      have close := (abs_le.mp part.close).1
      norm_num at close ⊢
      linarith
  · have close := (abs_le.mp part.close).2
    norm_num at close ⊢
    linarith

/-! ## One component -/

/-- Damping takes more out of the largest velocity than the largest error puts in. -/
theorem damped_le {e v h E : ℝ} (error : |e| ≤ E) (velocity : |v| ≤ 2 ^ 32 * E)
    (long : 9 / 10 ^ 10 ≤ h) (short : h ≤ 1 / 5 - 9 / 10 ^ 10) :
    |v + (e * 25 - v * 10) * h| ≤ 2 ^ 32 * E - 30 * E := by
  have positive : 0 ≤ E := (abs_nonneg e).trans error
  have split : v + (e * 25 - v * 10) * h = v * (1 - 10 * h) + e * (25 * h) := by ring
  have kept : |v * (1 - 10 * h)| ≤ 2 ^ 32 * E * |1 - 10 * h| := by
    rw [abs_mul]
    exact mul_le_mul_of_nonneg_right velocity (abs_nonneg _)
  have added : |e * (25 * h)| ≤ E * (25 * h) := by
    rw [abs_mul, abs_of_nonneg (by linarith : 0 ≤ 25 * h)]
    exact mul_le_mul_of_nonneg_right error (by linarith)
  have least := mul_le_mul_of_nonneg_left long positive
  have most := mul_le_mul_of_nonneg_left short positive
  rw [split]
  refine (abs_add_le _ _).trans ((add_le_add kept added).trans ?_)
  rcases le_total 0 (1 - 10 * h) with gentle | steep
  · rw [abs_of_nonneg gentle]
    linarith
  · rw [abs_of_nonpos steep]
    linarith

/-- Powers of two from `2 ^ n` on are multiples of `E`. -/
structure IsScale (n : ℤ) (E : ℝ) : Prop where
  positive : 0 < E
  above : ∀ k : ℕ, (2 : ℝ) ^ (n + k) = 2 ^ k * E
  below : ∀ k : ℤ, k ≤ n → (2 : ℝ) ^ k ≤ E

theorem exists_isScale (n : ℤ) : ∃ E, IsScale n E := by
  refine ⟨2 ^ n, by positivity, fun k => ?_, fun k le => zpow_le_zpow_right₀ one_le_two le⟩
  rw [zpow_add₀ two_ne_zero, zpow_natCast, mul_comm]

section Component

variable {n : ℤ} {E : ℝ} {error velocity dt : α}

/-- Spring and damper add an error of at most `E` each, which is far below the slack of
`damped_le`. -/
theorem force_near (scale : IsScale n E) (high : n ≤ 930) (low : -900 ≤ n)
    (pull : Within n error) (motion : Within (n + 32) velocity) :
    Near (value error * 25 - value velocity * 10) (3 * E)
        ((error * ((25 : ℕ) : α) - velocity * ((10 : ℕ) : α)) / 1) ∧
      |value error| ≤ E ∧ |value velocity| ≤ 2 ^ 32 * E ∧
        |value error * 25 - value velocity * 10| ≤ (25 + 10 * 2 ^ 32) * E := by
  have stiffness := @Rounded.natCast α _ _ 25 (by norm_num)
  have damping := @Rounded.natCast α _ _ 10 (by norm_num)
  have positive := scale.positive
  have e : |value error| ≤ E := pull.le.trans (scale.below n le_rfl)
  have v : |value velocity| ≤ 2 ^ 32 * E := motion.le.trans_eq (scale.above 32)
  have spring : Near (value error * 25) E (error * ((25 : ℕ) : α)) := by
    have product := (Near.refl pull.isFinite).mul (n := n + (5 : ℕ)) stiffness.1 (by
      rw [stiffness.2, scale.above, abs_mul]
      norm_num
      linarith) (by omega) (by omega)
    rw [stiffness.2] at product
    exact product.mono (by rw [zero_mul, zero_add]; exact scale.below _ (by omega))
  have damper : Near (value velocity * 10) E (velocity * ((10 : ℕ) : α)) := by
    have product := (Near.refl motion.isFinite).mul (n := n + (36 : ℕ)) damping.1 (by
      rw [damping.2, scale.above, abs_mul]
      norm_num at v ⊢
      linarith) (by omega) (by omega)
    rw [damping.2] at product
    exact product.mono (by rw [zero_mul, zero_add]; exact scale.below _ (by omega))
  have size : |value error * 25 - value velocity * 10| ≤ (25 + 10 * 2 ^ 32) * E := by
    refine (abs_sub _ _).trans ?_
    rw [abs_mul, abs_mul]
    norm_num at v ⊢
    linarith
  have room : |value error * 25 - value velocity * 10| + 3 * E ≤ 2 ^ (n + (37 : ℕ)) := by
    rw [scale.above]
    norm_num at size ⊢
    linarith
  have difference := spring.sub damper (n := n + (37 : ℕ)) (by linarith) (by omega) (by omega)
  have force := difference.mono (by linarith [scale.below (n + (37 : ℕ) - 54) (by omega)] :
    _ ≤ 3 * E)
  exact ⟨force.unscaled room (by omega), e, v, size⟩

/-- One component of a velocity, with a component of the error that acts on it. -/
theorem push_within (pull : Within n error) (motion : Within (n + 32) velocity) (low : -900 ≤ n)
    (high : n ≤ 930) (finite : Scalar.isFinite dt = true)
    (still : value dt = 0 ∨ 9 / 10 ^ 10 ≤ value dt) (short : value dt ≤ 1 / 5 - 9 / 10 ^ 10) :
    Within (n + 32) (velocity +
      (error * ((25 : ℕ) : α) - velocity * ((10 : ℕ) : α)) / 1 * dt) := by
  obtain ⟨E, scale⟩ := exists_isScale n
  have positive := scale.positive
  rcases force_near scale high low pull motion with ⟨acceleration, e, v, size⟩
  rcases still with zero | long
  · have product := Rounded.mul _ _ acceleration.isFinite finite
    rw [zero, mul_zero] at product
    have none := eq_of_approximates product .zero (by rw [abs_zero]; positivity)
    exact motion.add_zero (by omega) none.1 none.2
  · have time : |value dt| ≤ 1 / 5 := by
      rw [abs_of_nonneg (le_trans (by norm_num) long)]
      linarith
    have moved : |(value error * 25 - value velocity * 10) * value dt| ≤
        (25 + 10 * 2 ^ 32) * E * (1 / 5) := by
      rw [abs_mul]
      exact mul_le_mul size time (abs_nonneg _) (by positivity)
    have carried := mul_le_mul_of_nonneg_left time (by positivity : 0 ≤ 3 * E)
    have change : Near ((value error * 25 - value velocity * 10) * value dt) (2 * E)
        ((error * ((25 : ℕ) : α) - velocity * ((10 : ℕ) : α)) / 1 * dt) := by
      have product := acceleration.mul finite (n := n + (36 : ℕ)) (by
        rw [scale.above]
        norm_num at moved ⊢
        linarith) (by omega) (by omega)
      exact product.mono (by linarith [scale.below (n + (36 : ℕ) - 54) (by omega)])
    have settled := damped_le e v long short
    have sum := (Near.refl motion.isFinite).add change (n := n + (37 : ℕ)) (by
      rw [scale.above]
      norm_num at settled ⊢
      linarith) (by omega) (by omega)
    refine sum.within (le_trans ?_ (scale.above 32).ge)
    linarith [scale.below (n + (37 : ℕ) - 54) (by omega)]

end Component

/-- One component of a position: a step that is too short for the last digit of the bound
does not lead across it. -/
theorem move_within {n : ℤ} {position velocity dt : α} (place : Within (n + 52) position)
    (motion : Within n velocity) (time : Within (-2) dt) (low : -900 ≤ n) (high : n ≤ 962) :
    Within (n + 52) (position + velocity * dt) := by
  have step := motion.mul (n := n + 52 - 54) time (by omega) (by omega) (by omega)
  have sum := Rounded.add _ _ place.isFinite step.isFinite
  have bound : |value position + value (velocity * dt)| ≤ 2 ^ (n + 52) + 2 ^ (n + 52 - 54) :=
    (abs_add_le _ _).trans (add_le_add place.le step.le)
  have finite := (place.add (n := n + 53) step (by omega) (by omega) (by omega)).isFinite
  exact ⟨finite, (sum.isNearest finite).absorbs (by omega) bound⟩

/-! ## The whole state -/

/-- All twelve components are finite. -/
def JointCommand.IsFinite (command : JointCommand α) : Prop :=
  ∀ component ∈ command.positions.toList ++ command.velocities.toList,
    Scalar.isFinite component = true

/-- A twist that the standard dynamics keeps to, whatever mild errors it follows. -/
structure SpatialVector.IsSlow (velocity : SpatialVector α) : Prop where
  linear : ∀ c ∈ velocity.linear.toList, Within 962 c
  angular : ∀ c ∈ velocity.angular.toList, Within 512 c

theorem SpatialVector.IsSlow.isFinite {velocity : SpatialVector α} (slow : velocity.IsSlow) :
    ∀ c ∈ velocity.toList, Scalar.isFinite c = true :=
  (SpatialVector.forall_iff _ _).mpr ⟨fun c member => (slow.linear c member).isFinite,
    fun c member => (slow.angular c member).isFinite⟩

theorem SpatialVector.zero_isSlow : (0 : SpatialVector α).IsSlow :=
  ⟨Vec3.zero_within 962, Vec3.zero_within 512⟩

namespace PointMass

/-- A state with the standard dynamics that cannot overflow in a step: a bounded position
and velocity, a rotation that can be normalised, and finite commands. -/
structure IsBounded (plant : PointMass α) : Prop where
  mass_eq : plant.mass = 1
  inertia_eq : plant.inertia = 1
  stiffness_eq : plant.stiffness = ((25 : ℕ) : α)
  damping_eq : plant.damping = ((10 : ℕ) : α)
  unlimited : plant.workspaceRadius = none
  position : ∀ c ∈ plant.pose.position.toList, Within 1014 c
  rotation : plant.pose.rotation.IsTame
  velocity : plant.velocity.IsSlow
  simulated : plant.simulated.IsFinite
  written : ∀ command, plant.written = some command → command.IsFinite

theorem ofState_isFinite (sound : SoundTrigonometry α) {pose : Pose α} {velocity : SpatialVector α}
    (position : ∀ c ∈ pose.position.toList, Within 1014 c) (rotation : pose.rotation.IsTame)
    (motion : velocity.IsSlow) : (JointCommand.ofState pose velocity).IsFinite := by
  intro component member
  rcases List.mem_append.mp member with place | speed
  · rcases List.mem_append.mp place with linear | angular
    · exact (position component linear).isFinite
    · exact (rotation.rotationVector_within sound component angular).isFinite
  · exact motion.isFinite component speed

theorem nextVelocity_isSlow {plant : PointMass α} (bounded : plant.IsBounded)
    {error : SpatialVector α} (mild : error.IsMild) {period : Duration}
    (short : period.nanoseconds < 200000000) :
    (plant.nextVelocity error period.seconds).IsSlow := by
  rcases @Duration.seconds_bounds α _ _ period short with ⟨finite, still, less⟩
  have pushed {n : ℤ} {e v : α} (low : -900 ≤ n) (high : n ≤ 930) (pull : Within n e)
      (motion : Within (n + 32) v) :=
    push_within pull motion low high finite still less
  have line {e v : α} := pushed (n := 930) (e := e) (v := v) (by norm_num) (by norm_num)
  have turn {e v : α} := pushed (n := 480) (e := e) (v := v) (by norm_num) (by norm_num)
  rcases mild with ⟨linear, angular⟩
  rcases bounded.velocity with ⟨straight, around⟩
  rw [nextVelocity, bounded.mass_eq, bounded.inertia_eq, bounded.stiffness_eq, bounded.damping_eq]
  rw [Vec3.forall_iff] at linear angular straight around
  constructor
  · rw [Vec3.forall_iff]
    exact ⟨line linear.1 straight.1, line linear.2.1 straight.2.1, line linear.2.2 straight.2.2⟩
  · rw [Vec3.forall_iff]
    exact ⟨turn angular.1 around.1, turn angular.2.1 around.2.1, turn angular.2.2 around.2.2⟩

theorem destination_within (sound : SoundTrigonometry α) {plant : PointMass α}
    (bounded : plant.IsBounded) {velocity : SpatialVector α} (motion : velocity.IsSlow)
    {period : Duration} (short : period.nanoseconds < 200000000) :
    (∀ c ∈ (plant.nextPose velocity period.seconds).position.toList, Within 1014 c) ∧
      (plant.nextPose velocity period.seconds).rotation.IsTame := by
  rcases @Duration.seconds_bounds α _ _ period short with ⟨finite, still, less⟩
  have time : Within (-2) (period.seconds : α) := by
    refine ⟨finite, ?_⟩
    have nonneg : 0 ≤ value (period.seconds : α) := by
      rcases still with zero | long
      · exact zero.ge
      · exact le_trans (by norm_num) long
    rw [abs_of_nonneg nonneg]
    norm_num
    linarith
  constructor
  · have moved {p v : α} (place : Within (962 + 52) p) (speed : Within 962 v) :=
      move_within place speed time (by norm_num) (by norm_num)
    have place := bounded.position
    have linear := motion.linear
    rw [Vec3.forall_iff] at place linear ⊢
    exact ⟨moved place.1 linear.1, moved place.2.1 linear.2.1, moved place.2.2 linear.2.2⟩
  · have turn := Vec3.scale_within (n := 510) motion.angular time (by norm_num) (by norm_num)
      (by norm_num)
    rcases Quat.ofRotationVector_isTame sound turn with ⟨small, long⟩
    exact Quat.renormalize_isTame (Quat.mul_within small bounded.rotation.within)
      (Quat.mul_large small bounded.rotation.within long bounded.rotation.large)

theorem create_isBounded (sound : SoundTrigonometry α) (interface : Interface) :
    (create interface : PointMass α).IsBounded := by
  exact {
    mass_eq := rfl
    inertia_eq := rfl
    stiffness_eq := rfl
    damping_eq := rfl
    unlimited := rfl
    position := Vec3.zero_within 1014
    rotation := Quat.identity_isTame
    velocity := SpatialVector.zero_isSlow
    simulated := ofState_isFinite sound (Vec3.zero_within 1014) Quat.identity_isTame
      SpatialVector.zero_isSlow
    written := nofun }

/-- A step keeps the bounds, or is refused. -/
theorem IsBounded.synthesize (sound : SoundTrigonometry α) {plant : PointMass α}
    (bounded : plant.IsBounded) {error : SpatialVector α} {period : Duration}
    (mild : (∀ c ∈ error.toList, Scalar.isFinite c = true) → error.IsMild)
    (short : period.nanoseconds < 200000000) : (plant.synthesize error period).1.IsBounded := by
  have step := plant.synthesize_isStep error period
  by_cases succeeded : (plant.synthesize error period).2 = .ok ()
  · have finite := (step.ok_iff.mp succeeded).1
    have motion := nextVelocity_isSlow bounded (mild finite) short
    rcases destination_within sound bounded motion short with ⟨position, rotation⟩
    rw [step.moved succeeded]
    exact { bounded with
      position := position
      rotation := rotation
      velocity := motion
      simulated := ofState_isFinite sound position rotation motion }
  · rw [step.failed succeeded]
    exact bounded

theorem IsBounded.write {plant : PointMass α} (bounded : plant.IsBounded) :
    plant.write.1.IsBounded :=
  { bounded with
    written := by
      rintro command ⟨⟩
      exact bounded.simulated }

theorem IsBounded.sync (sound : SoundTrigonometry α) {plant : PointMass α}
    (bounded : plant.IsBounded) : plant.sync.1.IsBounded :=
  { bounded with
    velocity := SpatialVector.zero_isSlow
    simulated := ofState_isFinite sound bounded.position bounded.rotation
      SpatialVector.zero_isSlow }

/-- Without a workspace a step is carried out whenever its error is finite. -/
theorem IsBounded.synthesize_ok_iff {plant : PointMass α} (bounded : plant.IsBounded)
    (error : SpatialVector α) (period : Duration) :
    (plant.synthesize error period).2 = .ok () ↔
      ∀ c ∈ error.toList, Scalar.isFinite c = true := by
  rw [(plant.synthesize_isStep error period).ok_iff]
  refine ⟨fun both => both.1, fun finite => ⟨finite, ?_⟩⟩
  rintro ⟨radius, limited, -⟩
  rw [bounded.unlimited] at limited
  cases limited

end PointMass
end MotionControl
