import Mathlib.Tactic.Common
import MotionControl.Config

/-!
# Configurations that check

A configuration checks exactly when each field passes its own test, and the
settings it checks to are read off its fields.  Everything that later modules
need to know about a successful check is a field of `Checks`; the order of the
tests matters only for the error that a refused configuration reports.
-/

namespace MotionControl

/-- A computation that binds succeeds exactly when both of its parts do. -/
theorem except_bind_eq_ok {ε β γ : Type} (first : Except ε β) (next : β → Except ε γ) (value : γ) :
    (first >>= next) = .ok value ↔ ∃ middle, first = .ok middle ∧ next middle = .ok value := by
  cases first with
  | error problem => simp [bind, Except.bind]
  | ok middle => simp [bind, Except.bind]

theorem Duration.lt_limit_of_ofSeconds {α : Type} [Scalar α] {seconds : α} {duration : Duration}
    (made : ofSeconds seconds = .ok duration) : duration.nanoseconds < limit := by
  rw [ofSeconds] at made
  split at made
  · cases made
  · split at made
    · cases made
    · split at made
      · cases made
        assumption
      · cases made

namespace Config

variable {α : Type} [Scalar α]

/-- What a successful check says about a configuration and its settings. -/
structure Checks (config : Config α) (settings : Settings α) : Prop where
  baseLink : config.robotBaseLink.isEmpty = false
  iterations : config.iterations ≠ 0
  internalPeriodSecs : checkPositive .internalPeriodSecs config.internalPeriodSecs = .ok ()
  internalPeriod : Duration.ofSeconds config.internalPeriodSecs = .ok settings.internalPeriod
  maxAngle : checkPositive .maxAngle config.maxAngle = .ok ()
  maxDistance : checkPositive .maxDistance config.maxDistance = .ok ()
  errorScale : checkNonNegative .errorScale config.errorScale = .ok ()
  warnThrottleSecs : checkNonNegative .warnThrottleSecs config.warnThrottleSecs = .ok ()
  warnThrottle : Duration.ofSeconds config.warnThrottleSecs = .ok settings.warnThrottle
  limits_eq : settings.limits = config.limits
  substeps_eq : settings.substeps = config.substeps
  errorScale_eq : settings.errorScale = config.errorScale

theorem checkDuration_eq_ok_iff (field : ConfigField) (secs : α) (duration : Duration) :
    checkDuration field secs = .ok duration ↔ Duration.ofSeconds secs = .ok duration := by
  unfold checkDuration
  cases Duration.ofSeconds secs with
  | error problem => simp
  | ok made => simp

theorem accept_eq_ok_iff {ε : Type} (finite : Bool) (refuses : Prop) [Decidable refuses]
    (problem : ε) : (if !finite || refuses then Except.error problem else .ok ()) = .ok () ↔
      finite = true ∧ ¬ refuses := by
  cases finite with
  | false => simp
  | true => by_cases holds : refuses <;> simp [holds]

/-- A test that refuses its input ends the check; otherwise the rest decides. -/
theorem refuse_or_eq_ok {ε β γ : Type} (refuses : Prop) [Decidable refuses] (problem : ε)
    (next : β → Except ε γ) (rest : Except ε γ) (value : γ) :
    (if refuses then throw problem >>= next else rest) = .ok value ↔
      ¬ refuses ∧ rest = .ok value := by
  by_cases holds : refuses
  · simp [holds, throw, throwThe, MonadExceptOf.throw, bind, Except.bind]
  · simp [holds]

theorem check_eq_ok_iff (config : Config α) (settings : Settings α) :
    config.check = .ok settings ↔ Checks config settings := by
  simp only [check, refuse_or_eq_ok, except_bind_eq_ok, checkDuration_eq_ok_iff, pure,
    Except.pure, Except.ok.injEq]
  constructor
  · rintro ⟨named, counted, _, period, internal, internalMade, _, angle, _, distance, _, scale, _,
      throttle, window, windowMade, rfl⟩
    exact {
      baseLink := by simpa using named
      iterations := counted
      internalPeriodSecs := period
      internalPeriod := internalMade
      maxAngle := angle
      maxDistance := distance
      errorScale := scale
      warnThrottleSecs := throttle
      warnThrottle := windowMade
      limits_eq := rfl
      substeps_eq := rfl
      errorScale_eq := rfl }
  · intro checks
    refine ⟨by simp [checks.baseLink], checks.iterations, (), checks.internalPeriodSecs, _,
      checks.internalPeriod, (), checks.maxAngle, (), checks.maxDistance, (), checks.errorScale,
      (), checks.warnThrottleSecs, _, checks.warnThrottle, ?_⟩
    rw [← checks.limits_eq, ← checks.substeps_eq, ← checks.errorScale_eq]

/-- A configuration that checks asks for at least one sub-step on every interface. -/
theorem Checks.substeps_pos {config : Config α} {settings : Settings α}
    (checks : Checks config settings) : 1 ≤ settings.substeps.toNat := by
  rw [checks.substeps_eq]
  cases interface : config.interface with
  | velocity => simp [substeps, interface, Interface.substeps]
  | position | effort =>
      have counted : config.iterations.toNat ≠ 0 := fun none =>
        checks.iterations (UInt32.toNat.inj none)
      simpa [substeps, interface, Interface.substeps, Nat.one_le_iff_ne_zero] using counted

/-- Another sub-step count and another gain are all that a check then looks at,
the count first. -/
theorem Checks.check_retuned {config : Config α} {settings : Settings α}
    (checks : Checks config settings) (iterations : UInt32) (errorScale : α) :
    { config with iterations := iterations, errorScale := errorScale }.check =
      if iterations = 0 then .error ⟨.iterations, .zero⟩
      else if !Scalar.isFinite errorScale || errorScale < 0 then
        .error ⟨.errorScale, .negative errorScale⟩
      else .ok { settings with
        substeps := config.interface.substeps iterations, errorScale := errorScale } := by
  have period := (checkDuration_eq_ok_iff .internalPeriodSecs _ _).mpr checks.internalPeriod
  have window := (checkDuration_eq_ok_iff .warnThrottleSecs _ _).mpr checks.warnThrottle
  by_cases none : iterations = 0
  · simp [check, checks.baseLink, none, throw, throwThe, MonadExceptOf.throw, bind, Except.bind]
  · by_cases unusable : (!Scalar.isFinite errorScale || errorScale < 0) = true
    · simp only [check, checks.baseLink, none, checks.internalPeriodSecs, period, checks.maxAngle,
        checks.maxDistance, checkNonNegative, unusable, bind, Except.bind, if_true, if_false,
        Bool.false_eq_true]
    · simp only [check, checks.baseLink, none, checks.internalPeriodSecs, period, checks.maxAngle,
        checks.maxDistance, checkNonNegative, unusable, bind, Except.bind, if_false,
        Bool.false_eq_true, pure, Except.pure]
      have spared := checks.warnThrottleSecs
      rw [checkNonNegative] at spared
      rw [spared, window]
      simp only [checks.limits_eq]
      rfl

/-- What a check asks of one field. -/
def Accepts (config : Config α) : ConfigField → Prop
  | .robotBaseLink => config.robotBaseLink.isEmpty = false
  | .endEffectorLink | .interface => True
  | .iterations => config.iterations ≠ 0
  | .internalPeriodSecs => checkPositive .internalPeriodSecs config.internalPeriodSecs = .ok () ∧
      ∃ duration, Duration.ofSeconds config.internalPeriodSecs = .ok duration
  | .maxAngle => checkPositive .maxAngle config.maxAngle = .ok ()
  | .maxDistance => checkPositive .maxDistance config.maxDistance = .ok ()
  | .errorScale => checkNonNegative .errorScale config.errorScale = .ok ()
  | .warnThrottleSecs => checkNonNegative .warnThrottleSecs config.warnThrottleSecs = .ok () ∧
      ∃ duration, Duration.ofSeconds config.warnThrottleSecs = .ok duration

theorem validate_eq_ok_iff {config : Config α} :
    config.validate = .ok () ↔ ∃ settings, config.check = .ok settings := by
  rw [validate]
  cases config.check with
  | ok settings => exact iff_of_true rfl ⟨settings, rfl⟩
  | error problem => exact iff_of_false nofun nofun

/-- Each field is checked by itself. -/
theorem validate_eq_ok_iff_accepts (config : Config α) :
    config.validate = .ok () ↔ ∀ field, config.Accepts field := by
  rw [validate_eq_ok_iff]
  constructor
  · rintro ⟨settings, checked⟩ field
    have checks := (check_eq_ok_iff config settings).mp checked
    cases field with
    | robotBaseLink => exact checks.baseLink
    | endEffectorLink => trivial
    | interface => trivial
    | iterations => exact checks.iterations
    | internalPeriodSecs => exact ⟨checks.internalPeriodSecs, _, checks.internalPeriod⟩
    | maxAngle => exact checks.maxAngle
    | maxDistance => exact checks.maxDistance
    | errorScale => exact checks.errorScale
    | warnThrottleSecs => exact ⟨checks.warnThrottleSecs, _, checks.warnThrottle⟩
  · intro accepts
    obtain ⟨period, periodMade⟩ := (accepts .internalPeriodSecs).2
    obtain ⟨window, windowMade⟩ := (accepts .warnThrottleSecs).2
    refine ⟨⟨config.limits, config.substeps, period, config.errorScale, window⟩,
      (check_eq_ok_iff config _).mpr {
      baseLink := accepts .robotBaseLink
      iterations := accepts .iterations
      internalPeriodSecs := (accepts .internalPeriodSecs).1
      internalPeriod := periodMade
      maxAngle := accepts .maxAngle
      maxDistance := accepts .maxDistance
      errorScale := accepts .errorScale
      warnThrottleSecs := (accepts .warnThrottleSecs).1
      warnThrottle := windowMade
      limits_eq := rfl
      substeps_eq := rfl
      errorScale_eq := rfl }⟩

end Config
end MotionControl
