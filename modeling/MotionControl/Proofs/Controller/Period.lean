import MotionControl.PointMass
import MotionControl.Proofs.Config.Validation
import MotionControl.Proofs.Controller.Lifecycle
import MotionControl.Proofs.Controller.Tick
import MotionControl.Proofs.Double.Zero

/-!
# How long a sub-step is

A configuration gives the length of a sub-step in seconds, as a double, and the plant is handed
a whole number of nanoseconds.  The two are at most half a nanosecond apart, a midway goes to the
even neighbour, and every step of every run gets the same span, whatever is reconfigured in
between (`Paces`).

The check asks for a positive number of seconds and for a span that fits, and both can hold of a
span of nothing: half a nanosecond or less is accepted and rounds to zero.  So a sub-step takes
some time exactly if more than half a nanosecond is configured (`pos_iff`).  Below that the
controller steps, writes and counts, and its plant stays where it is (`fleeting_standsStill`).
-/

namespace MotionControl

/-! ## The time that passes -/

namespace Double

theorem ratio_perSecond_isNearest {n : ℕ} (small : n < 2 ^ 53)
    (finite : (Scalar.ratio n Duration.perSecond : Float).isFinite = true) :
    IsNearest (n / 10 ^ 9) (value (Scalar.ratio n Duration.perSecond)) := by
  rcases ofNat_eq small with ⟨partFinite, part⟩
  rcases ofNat_eq (show Duration.perSecond < 2 ^ 53 by decide) with ⟨secondFinite, second⟩
  have billion : value (Float.ofNat Duration.perSecond) = 10 ^ 9 := by
    rw [second]
    norm_num [Duration.perSecond]
  have nonzero : value (Float.ofNat Duration.perSecond) ≠ 0 := by
    rw [billion]
    norm_num
  have quotient := (div_approximates partFinite secondFinite nonzero).isNearest finite
  rwa [part, billion] at quotient

/-- A span that is not empty is a positive number of seconds for the plant. -/
theorem seconds_pos {period : Duration} (below : period.nanoseconds < Duration.limit)
    (positive : 0 < period) : 0 < (period.seconds : Float) := by
  have some : 0 < period.nanoseconds := positive
  have finite := isFinite_seconds below
  rcases isFinite_of_add finite with ⟨wholeFinite, partFinite⟩
  have size : period.nanoseconds % Duration.perSecond < 1000000000 := Nat.mod_lt _ (by decide)
  have whole := (ofNat_approximates (period.nanoseconds / Duration.perSecond)).isNearest wholeFinite
  have part := ratio_perSecond_isNearest (by omega) partFinite
  rw [lt_iff zero_eq.1 finite, zero_eq.2]
  by_cases long : 1 ≤ period.nanoseconds / Duration.perSecond
  · have second : (2 : ℝ) ^ (0 : ℤ) ≤ (period.nanoseconds / Duration.perSecond : ℕ) := by
      rw [zpow_zero]
      exact Nat.one_le_cast.mpr long
    have least := whole.ge (.zpow (by norm_num)) second
    have nonneg := part.ge .zero (by positivity)
    have sum := Rounded.le_value_add (α := Doubles .machine) finite nonneg
    exact (by positivity : (0 : ℝ) < 2 ^ (0 : ℤ)).trans_le (least.trans sum)
  · -- less than a second is its nanoseconds alone
    have short : 1 ≤ period.nanoseconds % Duration.perSecond := by
      have none : period.nanoseconds / Duration.perSecond = 0 := Nat.lt_one_iff.mp (not_le.mp long)
      have division := Nat.div_add_mod period.nanoseconds Duration.perSecond
      rw [none, Nat.mul_zero, Nat.zero_add] at division
      omega
    have nanosecond : (2 : ℝ) ^ (-30 : ℤ) ≤
        (period.nanoseconds % Duration.perSecond : ℕ) / 10 ^ 9 := by
      have count : (1 : ℝ) ≤ (period.nanoseconds % Duration.perSecond : ℕ) :=
        Nat.one_le_cast.mpr short
      rw [le_div_iff₀ (by norm_num)]
      exact (by norm_num : (2 : ℝ) ^ (-30 : ℤ) * 10 ^ 9 ≤ 1).trans count
    have least := part.ge (.zpow (by norm_num)) nanosecond
    have nonneg := whole.ge .zero (Nat.cast_nonneg _)
    have sum := Rounded.le_value_add' (α := Doubles .machine) finite nonneg
    exact (by positivity : (0 : ℝ) < 2 ^ (-30 : ℤ)).trans_le (least.trans sum)

theorem seconds_pos_iff {period : Duration} (below : period.nanoseconds < Duration.limit) :
    0 < (period.seconds : Float) ↔ 0 < period := by
  refine ⟨fun passes => ?_, seconds_pos below⟩
  by_contra none
  have empty : period = ⟨0⟩ := by
    rcases period with ⟨count⟩
    have zero : count = 0 := Nat.eq_zero_of_not_pos none
    rw [zero]
  rw [empty] at passes
  revert passes
  decide +kernel

end Double

/-! ## The steps of a run -/

/-- A step of the given length; other calls have none. -/
def PlantCall.Lasts {α : Type} (period : Duration) : PlantCall α → Prop
  | .synthesize _ _ span _ => span = period
  | .write _ | .sync _ => True

namespace Controller

variable {α σ π : Type} [Scalar α] [Plant α σ]

/-- The controller steps by the given span, now and on record. -/
structure Paces (c : Controller α (Recorded α σ) π) (period : Duration) : Prop where
  consistent : c.Consistent
  internalPeriod_eq : c.settings.internalPeriod = period
  calls : ∀ call ∈ c.plant.calls, call.Lasts period

theorem tick_lasts (c : Controller α (Recorded α σ) π) (k : ℕ) :
    ∀ call ∈ c.stepCalls k ++ c.writesAfter k, call.Lasts c.settings.internalPeriod := by
  intro call member
  rcases List.mem_append.mp member with step | write
  · exact (forall_mem_stepCalls c k (PlantCall.Lasts c.settings.internalPeriod)).mpr
      (fun _ _ => rfl) call step
  · rw [writesAfter] at write
    split at write
    · rw [List.mem_singleton.mp write]
      trivial
    · cases write

variable [Sink α π]

/-- No operation changes the length of a step: it depends on a field of the configuration that
is never written again. -/
theorem Paces.perform {c : Controller α (Recorded α σ) π} {period : Duration}
    (paces : c.Paces period) (operation : Operation α) :
    (c.perform operation).1.Paces period := by
  have consistent := perform_consistent paces.consistent operation
  cases operation with
  | start =>
      have recorded : ∀ call ∈ (Plant.sync c.plant).1.calls, call.Lasts period := by
        intro call member
        rcases List.mem_append.mp member with before | sync
        · exact paces.calls call before
        · rw [List.mem_singleton.mp sync]
          trivial
      cases synced : Plant.sync c.plant with
      | mk plant result =>
          rw [synced] at recorded
          cases result with
          | ok done =>
              rw [perform_start_of_synced synced] at consistent ⊢
              exact ⟨consistent, paces.internalPeriod_eq, recorded⟩
          | error fault =>
              rw [perform_start_of_fault synced] at consistent ⊢
              exact ⟨consistent, paces.internalPeriod_eq, recorded⟩
  | update span elapsed =>
      refine ⟨consistent, ?_, ?_⟩
      · exact (congrArg Settings.internalPeriod (update_settings c span elapsed).2).trans
          paces.internalPeriod_eq
      · change ∀ call ∈ (c.update span elapsed).1.plant.calls, call.Lasts period
        cases switch : c.paused with
        | true =>
            rw [update_of_paused switch]
            exact paces.calls
        | false =>
            rcases exists_halts c c.settings.substeps.toNat with ⟨k, halts, -, -⟩
            have made := tick_lasts c k
            rw [paces.internalPeriod_eq] at made
            rw [update_of_running switch]
            change ∀ call ∈ c.tick.1.plant.calls, call.Lasts period
            rw [tick_calls halts]
            exact List.forall_mem_append.mpr ⟨paces.calls, made⟩
  | reconfigure iterations errorScale =>
      cases checked : (c.retuned iterations errorScale).check with
      | ok settings =>
          rw [perform_reconfigure_of_ok checked] at consistent ⊢
          refine ⟨consistent, ?_, paces.calls⟩
          -- both settings come from the same number of seconds
          have same := consistent.internalPeriod.symm.trans paces.consistent.internalPeriod
          exact (Except.ok.inj same).trans paces.internalPeriod_eq
      | error problem =>
          rw [perform_reconfigure_of_error checked] at consistent ⊢
          exact ⟨consistent, paces.internalPeriod_eq, paces.calls⟩
  | stop | measure | pause | resume | event =>
      exact ⟨consistent, paces.internalPeriod_eq, paces.calls⟩

theorem Paces.run {c : Controller α (Recorded α σ) π} {period : Duration}
    (paces : c.Paces period) (operations : List (Operation α)) :
    (c.run operations).1.Paces period := by
  induction operations generalizing c with
  | nil => exact paces
  | cons operation rest inductionHypothesis =>
      exact inductionHypothesis (paces.perform operation)

omit [Sink α π] in
theorem create_paces {config : Config α} {settings : Settings α}
    (checks : config.Checks settings) {plant : σ} {sink : π} {c : Controller α (Recorded α σ) π}
    (created : create config ⟨plant, []⟩ sink = .ok c) : c.Paces settings.internalPeriod := by
  rcases exists_settings_of_create created with ⟨found, checked, made⟩
  have same : found = settings :=
    Except.ok.inj (checked.symm.trans ((Config.check_eq_ok_iff config settings).mpr checks))
  refine ⟨create_consistent created, ?_, ?_⟩
  · rw [made, same]
  · rw [made]
    exact List.forall_mem_nil _

end Controller

namespace Config

/-! ## Accepted configurations -/

/-- The span is the length of the sub-steps of a configuration.  It is the whole number of
nanoseconds nearest to the configured seconds, the even one of two, and every step that a
controller with this configuration ever asks of its plant gets it.  It is positive, as is the
time that a simulation then advances by, if and only if more than half a nanosecond is
configured. -/
structure IsTimed (config : Config Float) (period : Duration) : Prop where
  internalPeriod_eq : config.internalPeriod? = some period
  error_le : |(period.nanoseconds : ℝ) - Double.value config.internalPeriodSecs * 10 ^ 9| ≤ 1 / 2
  even_of_midway :
    |(period.nanoseconds : ℝ) - Double.value config.internalPeriodSecs * 10 ^ 9| = 1 / 2 →
      Even period.nanoseconds
  pos_iff : 0 < period ↔ 1 / 2 < Double.value config.internalPeriodSecs * 10 ^ 9
  seconds_pos_iff : 0 < (period.seconds : Float) ↔ 0 < period
  created : ∀ {σ π : Type} [Plant Float σ] [Sink Float π] (plant : σ) (sink : π),
    ∃ c, Controller.create config (⟨plant, []⟩ : Recorded Float σ) sink = .ok c ∧
      ∀ operations, (c.run operations).1.settings.internalPeriod = period ∧
        ∀ call ∈ (c.run operations).1.plant.calls, call.Lasts period

/-- Every accepted configuration has sub-steps of one length, which may be none. -/
theorem exists_isTimed {config : Config Float} (accepted : config.validate = .ok ()) :
    ∃ period, config.IsTimed period := by
  rcases validate_eq_ok_iff.mp accepted with ⟨settings, checked⟩
  have checks := (check_eq_ok_iff config settings).mp checked
  have usable := (checkPositive_double _ _).mp checks.internalPeriodSecs
  have rounded :=
    ((Double.ofSeconds_eq_ok_iff usable.isNonNegative _).mp checks.internalPeriod).2
  rw [Double.nanoseconds, Nat.cast_pow, Nat.cast_ofNat] at rounded
  have exact_eq : (settings.internalPeriod.nanoseconds : ℝ) =
      (nearestInt (Double.value config.internalPeriodSecs * 10 ^ 9) : ℝ) := by
    exact_mod_cast congrArg (Int.cast : ℤ → ℝ) rounded
  refine ⟨settings.internalPeriod, ?_⟩
  exact {
    internalPeriod_eq := by
      rw [internalPeriod?, checks.internalPeriod]
      rfl
    error_le := by
      rw [exact_eq]
      exact abs_nearestInt_sub_le _
    even_of_midway := by
      intro midway
      rw [exact_eq] at midway
      have even := even_nearestInt midway
      rw [← rounded] at even
      exact_mod_cast even
    pos_iff := by
      rw [← nearestInt_pos_iff, ← rounded]
      exact Int.natCast_pos.symm
    seconds_pos_iff := Double.seconds_pos_iff (Duration.lt_limit_of_ofSeconds checks.internalPeriod)
    created := by
      intro σ π _ _ plant sink
      have created :=
        Controller.create_of_checked checked (⟨plant, []⟩ : Recorded Float σ) sink
      refine ⟨_, created, fun operations => ?_⟩
      have paces := (Controller.create_paces checks created).run operations
      exact ⟨paces.internalPeriod_eq, paces.calls⟩ }

/-- A sub-step of one part in `1024` of a second, which is midway between two nanoseconds. -/
def midway : Config Float :=
  { standard with internalPeriodSecs := Scalar.ratio 1 1024 }

theorem exists_isTimed_midway : midway.validate = .ok () ∧ midway.IsTimed ⟨976562⟩ := by
  have accepted : midway.validate = .ok () := by rfl
  refine ⟨accepted, ?_⟩
  rcases exists_isTimed accepted with ⟨period, timed⟩
  have found : midway.internalPeriod? = some ⟨976562⟩ := by rfl
  have same : period = ⟨976562⟩ := Option.some.inj (timed.internalPeriod_eq.symm.trans found)
  rwa [same] at timed

/-- A sub-step of a tenth of a nanosecond. -/
def fleeting : Config Float :=
  { standard with internalPeriodSecs := (1e-10 : Float) }

/-- A target at a distance of one metre, and a tick. -/
def journey : List (Operation Float) :=
  [.start, .event (.setTarget ⟨⟨1, 0, 0⟩, 1⟩) 0, .update ⟨20000000⟩ 0]

/-- The configuration is accepted and its sub-steps have no length.  A point mass with a metre to
go is stepped and written, and neither moves nor takes up speed. -/
theorem fleeting_standsStill : fleeting.validate = .ok () ∧ fleeting.internalPeriod? = some 0 ∧
    ∃ c, Controller.create fleeting
        (⟨PointMass.create .position, []⟩ : Recorded Float (PointMass Float))
        (⟨[]⟩ : PoseHistory Float) = .ok c ∧
      (c.run journey).1.stats.substeps = 1 ∧ (c.run journey).1.plant.plant.writes = 1 ∧
      (c.run journey).1.plant.plant.pose = .identity ∧
      (c.run journey).1.plant.plant.velocity = 0 := by
  refine ⟨by rfl, by rfl, _, rfl, ?_⟩
  decide +kernel

end Config
end MotionControl
