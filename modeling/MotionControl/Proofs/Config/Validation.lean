import MotionControl.Config.Document
import MotionControl.Controller
import MotionControl.Proofs.Config.Check
import MotionControl.Proofs.Double.Nanoseconds

/-!
# Which configurations are accepted, and which field is named

A check goes through the fields in one fixed order (`checkOrder`) and ends at the first that
cannot be used.  Over machine doubles `IsUsable` says in plain numbers what each field has to be.
A configuration in which every field is usable is accepted, any other is refused with the name of
the first that is not, and whether it came in a document or was given to a new controller makes
no difference.  What is accepted makes both of its durations.
-/

namespace MotionControl

/-- A traversal that may fail ends at the first failure. -/
theorem forM_eq_error_iff {ε β : Type} (step : β → Except ε Unit) (items : List β) (problem : ε) :
    items.forM step = .error problem ↔ ∃ before item after, items = before ++ item :: after ∧
      (∀ earlier ∈ before, step earlier = .ok ()) ∧ step item = .error problem := by
  induction items with
  | nil => simp [List.forM, pure, Except.pure]
  | cons first rest inductionHypothesis =>
      have unfolded : (first :: rest).forM step = (step first >>= fun _ => rest.forM step) := rfl
      rw [unfolded]
      cases stepped : step first with
      | error found =>
          constructor
          · intro failed
            cases failed
            exact ⟨[], first, rest, rfl, nofun, stepped⟩
          · rintro ⟨before, item, after, split, passed, failed⟩
            rcases before with _ | ⟨head, before⟩
            · cases split
              rw [← failed, stepped]
              rfl
            · cases split
              rw [passed first List.mem_cons_self] at stepped
              cases stepped
      | ok done =>
          refine Iff.trans inductionHypothesis ⟨?_, ?_⟩
          · rintro ⟨before, item, after, rfl, passed, failed⟩
            refine ⟨first :: before, item, after, rfl, ?_, failed⟩
            exact List.forall_mem_cons.mpr ⟨stepped, passed⟩
          · rintro ⟨before, item, after, split, passed, failed⟩
            rcases before with _ | ⟨head, before⟩
            · cases split
              rw [stepped] at failed
              cases failed
            · cases split
              exact ⟨before, item, after, rfl, (List.forall_mem_cons.mp passed).2, failed⟩

/-- The order in which fields are checked.  Nothing is asked of the other two. -/
def ConfigField.checkOrder : List ConfigField :=
  [.robotBaseLink, .iterations, .internalPeriodSecs, .maxAngle, .maxDistance, .errorScale,
    .warnThrottleSecs]

namespace Config

/-! ## The order of the checks -/

section Order

variable {α : Type} [Scalar α]

/-- The test of one field. -/
def checkField (config : Config α) : ConfigField → Except (ConfigError α) Unit
  | .robotBaseLink =>
    if config.robotBaseLink.isEmpty then .error ⟨.robotBaseLink, .empty⟩ else .ok ()
  | .endEffectorLink | .interface => .ok ()
  | .iterations => if config.iterations = 0 then .error ⟨.iterations, .zero⟩ else .ok ()
  | .internalPeriodSecs => do
    checkPositive .internalPeriodSecs config.internalPeriodSecs
    discard (checkDuration .internalPeriodSecs config.internalPeriodSecs)
  | .maxAngle => checkPositive .maxAngle config.maxAngle
  | .maxDistance => checkPositive .maxDistance config.maxDistance
  | .errorScale => checkNonNegative .errorScale config.errorScale
  | .warnThrottleSecs => do
    checkNonNegative .warnThrottleSecs config.warnThrottleSecs
    discard (checkDuration .warnThrottleSecs config.warnThrottleSecs)

/-- Apart from the settings that it makes, a check is one traversal of the fields. -/
theorem validate_eq_forM (config : Config α) :
    config.validate = ConfigField.checkOrder.forM config.checkField := by
  have unfolded : ConfigField.checkOrder.forM config.checkField = (do
      config.checkField .robotBaseLink
      config.checkField .iterations
      config.checkField .internalPeriodSecs
      config.checkField .maxAngle
      config.checkField .maxDistance
      config.checkField .errorScale
      config.checkField .warnThrottleSecs
      pure ()) := rfl
  rw [unfolded, validate, check]
  simp only [checkField]
  by_cases unnamed : config.robotBaseLink.isEmpty
  · simp [unnamed, throw, throwThe, MonadExceptOf.throw, bind, Except.bind, Except.map]
  by_cases none : config.iterations = 0
  · simp [unnamed, none, throw, throwThe, MonadExceptOf.throw, bind, Except.bind, Except.map]
  simp only [unnamed, none, if_false, Bool.false_eq_true]
  -- each test ends both sides at once, or is passed by both
  cases checkPositive .internalPeriodSecs config.internalPeriodSecs with
  | error problem => rfl
  | ok _ =>
  cases checkDuration .internalPeriodSecs config.internalPeriodSecs with
  | error problem => rfl
  | ok period =>
  cases checkPositive .maxAngle config.maxAngle with
  | error problem => rfl
  | ok _ =>
  cases checkPositive .maxDistance config.maxDistance with
  | error problem => rfl
  | ok _ =>
  cases checkNonNegative .errorScale config.errorScale with
  | error problem => rfl
  | ok _ =>
  cases checkNonNegative .warnThrottleSecs config.warnThrottleSecs with
  | error problem => rfl
  | ok _ =>
  cases checkDuration .warnThrottleSecs config.warnThrottleSecs with
  | error problem => rfl
  | ok window => rfl

theorem check_discard_eq_ok_iff {ε β : Type} (test : Except ε Unit) (made : Except ε β) :
    (do test; discard made) = .ok () ↔ test = .ok () ∧ ∃ value, made = .ok value := by
  cases test with
  | error problem => exact iff_of_false nofun nofun
  | ok done =>
      cases made with
      | error problem => exact iff_of_false nofun nofun
      | ok value => exact iff_of_true rfl ⟨rfl, value, rfl⟩

theorem checkField_eq_ok_iff (config : Config α) (field : ConfigField) :
    config.checkField field = .ok () ↔ config.Accepts field := by
  cases field with
  | robotBaseLink => cases named : config.robotBaseLink.isEmpty <;> simp [checkField, Accepts, named]
  | endEffectorLink => simp [checkField, Accepts]
  | interface => simp [checkField, Accepts]
  | iterations => by_cases none : config.iterations = 0 <;> simp [checkField, Accepts, none]
  | maxAngle => rfl
  | maxDistance => rfl
  | errorScale => rfl
  | internalPeriodSecs =>
      simp only [checkField, Accepts, check_discard_eq_ok_iff, checkDuration_eq_ok_iff]
  | warnThrottleSecs =>
      simp only [checkField, Accepts, check_discard_eq_ok_iff, checkDuration_eq_ok_iff]

omit [Scalar α] in
theorem field_of_refused {refuses : Prop} [Decidable refuses] {field : ConfigField}
    {problem : ConfigProblem α} {error : ConfigError α}
    (refused : (if refuses then Except.error ⟨field, problem⟩ else .ok ()) = .error error) :
    error.field = field := by
  split at refused
  · cases refused
    rfl
  · cases refused

theorem field_of_check_discard {test : Except (ConfigError α) Unit} {field : ConfigField}
    {secs : α} {error : ConfigError α}
    (tested : ∀ error, test = .error error → error.field = field)
    (refused : (do test; discard (checkDuration field secs)) = .error error) :
    error.field = field := by
  cases test with
  | error problem =>
      cases refused
      exact tested _ rfl
  | ok done =>
      rw [checkDuration] at refused
      revert refused
      cases Duration.ofSeconds secs with
      | error problem =>
          rintro ⟨⟩
          rfl
      | ok duration => nofun

/-- A test names the field that it tests. -/
theorem field_of_checkField {config : Config α} {field : ConfigField} {error : ConfigError α}
    (refused : config.checkField field = .error error) : error.field = field := by
  cases field with
  | robotBaseLink => exact field_of_refused refused
  | endEffectorLink => cases refused
  | interface => cases refused
  | iterations => exact field_of_refused refused
  | internalPeriodSecs => exact field_of_check_discard (fun _ => field_of_refused) refused
  | maxAngle => exact field_of_refused refused
  | maxDistance => exact field_of_refused refused
  | errorScale => exact field_of_refused refused
  | warnThrottleSecs => exact field_of_check_discard (fun _ => field_of_refused) refused

end Order

/-! ## Fields of doubles -/

/-- What each field of a configuration has to be. -/
def IsUsable (config : Config Float) : ConfigField → Prop
  | .robotBaseLink => config.robotBaseLink ≠ ""
  | .endEffectorLink | .interface => True
  | .iterations => 1 ≤ config.iterations.toNat
  | .internalPeriodSecs =>
    Double.IsPositive config.internalPeriodSecs ∧ Double.FitsDuration config.internalPeriodSecs
  | .maxAngle => Double.IsPositive config.maxAngle
  | .maxDistance => Double.IsPositive config.maxDistance
  | .errorScale => Double.IsNonNegative config.errorScale
  | .warnThrottleSecs =>
    Double.IsNonNegative config.warnThrottleSecs ∧ Double.FitsDuration config.warnThrottleSecs

theorem checkPositive_double (field : ConfigField) (x : Float) :
    checkPositive field x = .ok () ↔ Double.IsPositive x := by
  rw [checkPositive, accept_eq_ok_iff]
  refine and_congr_right fun finite => ?_
  have below : x ≤ 0 ↔ Double.value x ≤ Double.value 0 := Double.le_iff finite Double.zero_eq.1
  rw [below, Double.zero_eq.2, not_le]

theorem checkNonNegative_double (field : ConfigField) (x : Float) :
    checkNonNegative field x = .ok () ↔ Double.IsNonNegative x := by
  rw [checkNonNegative, accept_eq_ok_iff]
  refine and_congr_right fun finite => ?_
  have below : x < 0 ↔ Double.value x < Double.value 0 := Double.lt_iff finite Double.zero_eq.1
  rw [below, Double.zero_eq.2, not_lt]

/-- The negative zero is accepted. -/
example : checkNonNegative .errorScale (-0 : Float) = .ok () := rfl

theorem accepts_iff_isUsable (config : Config Float) (field : ConfigField) :
    config.Accepts field ↔ config.IsUsable field := by
  cases field with
  | robotBaseLink => simp [Accepts, IsUsable]
  | endEffectorLink => exact Iff.rfl
  | interface => exact Iff.rfl
  | iterations =>
      rw [Accepts, IsUsable, Nat.one_le_iff_ne_zero, ne_eq, ne_eq, ← UInt32.toNat_inj]
      rfl
  | internalPeriodSecs =>
      rw [Accepts, IsUsable, checkPositive_double]
      exact and_congr_right fun usable => Double.exists_duration_iff usable.isNonNegative
  | maxAngle => exact checkPositive_double _ _
  | maxDistance => exact checkPositive_double _ _
  | errorScale => exact checkNonNegative_double _ _
  | warnThrottleSecs =>
      rw [Accepts, IsUsable, checkNonNegative_double]
      exact and_congr_right Double.exists_duration_iff

theorem checkField_eq_ok_iff_isUsable (config : Config Float) (field : ConfigField) :
    config.checkField field = .ok () ↔ config.IsUsable field :=
  (config.checkField_eq_ok_iff field).trans (config.accepts_iff_isUsable field)

/-! ## Configurations of doubles -/

/-- The first field in the order of the checks that is not usable. -/
def OffendsFirst (config : Config Float) (field : ConfigField) : Prop :=
  ∃ before after, ConfigField.checkOrder = before ++ field :: after ∧
    (∀ earlier ∈ before, config.IsUsable earlier) ∧ ¬ config.IsUsable field

theorem exists_refused_iff (config : Config Float) (field : ConfigField) :
    (∃ problem, config.validate = .error ⟨field, problem⟩) ↔ config.OffendsFirst field := by
  simp only [validate_eq_forM, forM_eq_error_iff, checkField_eq_ok_iff_isUsable]
  constructor
  · rintro ⟨problem, before, tested, after, order, passed, refused⟩
    have named : field = tested := field_of_checkField refused
    subst named
    refine ⟨before, after, order, passed, ?_⟩
    rw [← checkField_eq_ok_iff_isUsable, refused]
    nofun
  · rintro ⟨before, after, order, passed, offends⟩
    rw [← checkField_eq_ok_iff_isUsable] at offends
    cases refused : config.checkField field with
    | ok done => exact absurd refused offends
    | error error =>
        have named : error.field = field := field_of_checkField refused
        subst named
        exact ⟨error.problem, before, _, after, order, passed, refused⟩

/-- How a configuration is checked.  It is accepted if every field is usable, and refused with
the name of the first that is not; a new controller and a document that describes it accept and
refuse it likewise.  Once it is accepted, both of its durations are made, to the nearest
nanosecond. -/
structure IsChecked (config : Config Float) : Prop where
  accepted_iff : config.validate = .ok () ↔ ∀ field, config.IsUsable field
  refused_iff : ∀ field,
    (∃ problem, config.validate = .error ⟨field, problem⟩) ↔ config.OffendsFirst field
  create : ∀ {σ π : Type} [Plant Float σ] [Sink Float π] (plant : σ) (sink : π),
    (Controller.create config plant sink).map (fun _ => ()) = config.validate
  ofToml : ∀ text, read? text = some config →
    Config.ofToml text = (config.validate.map fun _ => config).mapError .invalid
  durations : config.validate = .ok () → ∃ internalPeriod warnThrottle,
    config.internalPeriod? = some internalPeriod ∧ config.warnThrottle? = some warnThrottle ∧
      internalPeriod.nanoseconds = Double.nanoseconds config.internalPeriodSecs ∧
      warnThrottle.nanoseconds = Double.nanoseconds config.warnThrottleSecs

theorem validate_isChecked (config : Config Float) : config.IsChecked where
  accepted_iff := by
    simp only [validate_eq_ok_iff_accepts, accepts_iff_isUsable]
  refused_iff := config.exists_refused_iff
  create := by
    intro σ π _ _ plant sink
    rw [Controller.create, validate]
    cases config.check with
    | error problem => rfl
    | ok settings => rfl
  ofToml := by
    intro text read
    rw [Config.ofToml, read]
    cases validated : config.validate with
    | error problem => simp only [validated, Except.map, Except.mapError]
    | ok done => simp only [validated, Except.map, Except.mapError]
  durations := by
    intro accepted
    rcases validate_eq_ok_iff.mp accepted with ⟨settings, checked⟩
    have checks := (check_eq_ok_iff config settings).mp checked
    have period := (checkPositive_double _ _).mp checks.internalPeriodSecs
    have window := (checkNonNegative_double _ _).mp checks.warnThrottleSecs
    have periodMade := (Double.ofSeconds_eq_ok_iff period.isNonNegative _).mp checks.internalPeriod
    have windowMade := (Double.ofSeconds_eq_ok_iff window _).mp checks.warnThrottle
    refine ⟨settings.internalPeriod, settings.warnThrottle, ?_, ?_, periodMade.2, windowMade.2⟩
    · rw [internalPeriod?, checks.internalPeriod]
      rfl
    · rw [warnThrottle?, checks.warnThrottle]
      rfl

end Config
end MotionControl
