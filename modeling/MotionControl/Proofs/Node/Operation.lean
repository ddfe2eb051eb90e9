import MotionControl.Proofs.Node.Rest

/-!
# The node as one operation

The options are checked in the order rate, period, run time, configuration, and the first
check that fails decides the error.  Options that pass them all settle a plan.  From then on
no configuration can stop the node: it has been validated, so the controller is created and
started, and until an event arrives every tick succeeds without moving anything.

The period can.  It is checked to be a duration, and a duration may be longer than any instant:
then there is no first deadline, and the node breaks off before its first tick
(`glacial_aborts`).  `IsOperation` says for all periods which deadlines decide.
-/

namespace MotionControl

/-- Where a configuration comes from: the preset, or a file that can be read, decoded,
understood and used. -/
inductive Config.ComesFrom (files : String → Except ReadFault ByteArray) :
    Option String → Config Float → Prop
  | preset : ComesFrom files none (.position 10)
  | file {path : String} {bytes : ByteArray} {text : String} {config : Config Float}
      (found : files path = .ok bytes) (decoded : String.fromUTF8? bytes = some text)
      (described : Config.read? text = some config) (usable : config.validate = .ok ()) :
      ComesFrom files (some path) config

/-- Why a file gives no configuration, by the first step that fails. -/
inductive LoadError.Explains (files : String → Except ReadFault ByteArray) (path : String) :
    LoadError → Prop
  | absent {fault : ReadFault} (missing : files path = .error fault) :
      Explains files path (.unreadable path fault)
  | binary {bytes : ByteArray} (found : files path = .ok bytes)
      (undecoded : String.fromUTF8? bytes = none) :
      Explains files path (.unreadable path .notText)
  | malformed {bytes : ByteArray} {text : String} (found : files path = .ok bytes)
      (decoded : String.fromUTF8? bytes = some text) (undescribed : Config.read? text = none) :
      Explains files path (.unusable .malformed)
  | invalid {bytes : ByteArray} {text : String} {config : Config Float}
      {problem : ConfigError Float} (found : files path = .ok bytes)
      (decoded : String.fromUTF8? bytes = some text)
      (described : Config.read? text = some config)
      (unusable : config.validate = .error problem) :
      Explains files path (.unusable (.invalid problem))

namespace NodePlan

variable (files : String → Except ReadFault ByteArray) (options : CommandLine.Options)

/-- A rate, in hertz, that the node can run at. -/
def IsUsableRate (rate : Float) : Prop :=
  rate.isFinite = true ∧ 0 < rate

/-- The options pass every check and settle the plan. -/
structure IsSettled (plan : NodePlan) : Prop where
  rate_eq : plan.rate = options.rateHz
  rate : IsUsableRate options.rateHz
  period : Duration.ofSeconds (1 / options.rateHz) = .ok plan.period
  runFor : options.duration.map Duration.ofSeconds = plan.runFor.map .ok
  config : plan.config.ComesFrom files options.config

/-- The first check that the options fail, and the error that reports it. -/
inductive Refuses : NodeError → Prop
  | rate (unusable : ¬ IsUsableRate options.rateHz) : Refuses (.badRate options.rateHz)
  | period {cause : DurationError} (rate : IsUsableRate options.rateHz)
      (unusable : Duration.ofSeconds (1 / options.rateHz) = .error cause) :
      Refuses (.badPeriod options.rateHz cause)
  | runFor {period : Duration} {seconds : Float} {cause : DurationError}
      (rate : IsUsableRate options.rateHz)
      (made : Duration.ofSeconds (1 / options.rateHz) = .ok period)
      (given : options.duration = some seconds)
      (unusable : Duration.ofSeconds seconds = .error cause) :
      Refuses (.badDuration seconds cause)
  | config {period : Duration} {limit : Option Duration} {path : String} {cause : LoadError}
      (rate : IsUsableRate options.rateHz)
      (made : Duration.ofSeconds (1 / options.rateHz) = .ok period)
      (limited : options.duration.map Duration.ofSeconds = limit.map .ok)
      (named : options.config = some path) (unusable : cause.Explains files path) :
      Refuses (.badConfig path cause)

end NodePlan

namespace Node

/-- What so many ticks leave: each has run its sub-steps and written once, and nothing has
moved. -/
structure IsUnmoved (plan : NodePlan) (count : ℕ) (node : Node) : Prop where
  ticks_eq : node.controller.stats.ticks = count
  failedTicks_eq : node.controller.stats.failedTicks = 0
  substeps_eq : node.controller.stats.substeps = count * plan.config.substeps.toNat
  writes_eq : node.controller.plant.writes = count
  pose_eq : node.controller.plant.pose = .identity
  velocity_eq : node.controller.plant.velocity = 0

/-- A run that starts from this plan and consists of the ticks of these turns.  Each of them
succeeds, and would with any period and however long it took. -/
structure IsUneventful (plan : NodePlan) (start : Instant) (made : List Turn) (first : Node)
    (started : List LogLine) (run : NodeRun) : Prop where
  launch_eq : launch plan = .ok (first, started)
  node_eq : run.node = (first.ticks start made).1
  succeeds : ∀ front turn back, made = front ++ turn :: back → ∀ period elapsed,
    ((first.ticks start front).1.controller.update period elapsed).2 = .ok ()
  unmoved : ∀ front, front <+: made → (first.ticks start front).1.IsUnmoved plan front.length
  log_finished : run.ending = .finished →
    run.log = plan.loadedLine :: started ++ run.node.finish
  log_aborted : run.ending = .aborted → run.log = plan.loadedLine :: started

end Node

/-! ## Loading -/

section Loading

variable {files : String → Except ReadFault ByteArray} {path : String}

theorem readText_of_decoded {bytes : ByteArray} {text : String} (found : files path = .ok bytes)
    (decoded : String.fromUTF8? bytes = some text) : readText files path = .ok text := by
  simp only [readText, found, bind, Except.bind, decoded]
  rfl

theorem Config.ComesFrom.ofFile_eq {config : Config Float}
    (loaded : config.ComesFrom files (some path)) : ofFile files path = .ok config := by
  cases loaded with
  | file found decoded described usable =>
      simp only [ofFile, readText_of_decoded found decoded, ofToml, described, usable]

theorem LoadError.Explains.ofFile_eq {cause : LoadError} (explains : cause.Explains files path) :
    Config.ofFile files path = .error cause := by
  cases explains with
  | absent missing =>
      simp only [Config.ofFile, readText, missing, bind, Except.bind]
  | binary found undecoded =>
      simp only [Config.ofFile, readText, found, bind, Except.bind, undecoded]
      rfl
  | malformed found decoded undescribed =>
      simp only [Config.ofFile, readText_of_decoded found decoded, Config.ofToml, undescribed]
  | invalid found decoded described unusable =>
      simp only [Config.ofFile, readText_of_decoded found decoded, Config.ofToml, described,
        unusable]

/-- A configuration that is loaded has been validated, and the preset is one that would be. -/
theorem Config.ComesFrom.exists_settings {source : Option String} {config : Config Float}
    (loaded : config.ComesFrom files source) : ∃ settings, config.check = .ok settings := by
  cases loaded with
  | preset => exact ⟨⟨⟨1, 1⟩, 10, ⟨20000000⟩, 1, ⟨3000000000⟩⟩, rfl⟩
  | file found decoded described usable => exact validate_eq_ok_iff.mp usable

end Loading

/-! ## The checks -/

namespace NodePlan

variable {files : String → Except ReadFault ByteArray} {options : CommandLine.Options}

theorem isUsableRate_iff (rate : Float) :
    (!(rate.isFinite && decide (0 < rate))) = false ↔ IsUsableRate rate := by
  rw [Bool.not_eq_false', Bool.and_eq_true, decide_eq_true_eq, IsUsableRate]

theorem loadConfig_eq {source : Option String} {config : Config Float}
    (loaded : config.ComesFrom files source) : loadConfig files source = .ok config := by
  cases source with
  | none =>
      cases loaded
      rfl
  | some path => simp only [loadConfig, loaded.ofFile_eq]

/-- A run time that is converted, if there is one. -/
theorem limits_of_map_eq {duration : Option Float} {limit : Option Duration}
    (limited : duration.map Duration.ofSeconds = limit.map .ok) :
    (duration = none ∧ limit = none) ∨ ∃ seconds period, duration = some seconds ∧
      limit = some period ∧ Duration.ofSeconds seconds = .ok period := by
  cases duration with
  | none =>
      cases limit with
      | none => exact .inl ⟨rfl, rfl⟩
      | some period => cases limited
  | some seconds =>
      cases limit with
      | none => cases limited
      | some period => exact .inr ⟨seconds, period, rfl, rfl, Option.some.inj limited⟩

theorem IsSettled.ofOptions_eq {plan : NodePlan} (settled : IsSettled files options plan) :
    ofOptions files options = .ok plan := by
  rcases plan with ⟨rate, period, runFor, config⟩
  rcases settled with ⟨rate_eq, usable, made, limited, loaded⟩
  have rated := (isUsableRate_iff _).mpr usable
  have configured := loadConfig_eq loaded
  dsimp only at rate_eq made limited
  rw [rate_eq]
  rcases limits_of_map_eq limited with ⟨given, rfl⟩ | ⟨seconds, limit, given, rfl, inside⟩
  · simp only [ofOptions, rated, made, given, configured, Except.mapError, bind, Except.bind,
      pure, Except.pure, Bool.false_eq_true, if_false]
  · simp only [ofOptions, rated, made, given, inside, configured, Except.mapError, bind,
      Except.bind, pure, Except.pure, Bool.false_eq_true, if_false]

theorem Refuses.ofOptions_eq {error : NodeError} (refuses : Refuses files options error) :
    ofOptions files options = .error error := by
  cases refuses with
  | rate unusable =>
      have rated : (!(options.rateHz.isFinite && decide (0 < options.rateHz))) = true := by
        rw [← Bool.not_eq_false, isUsableRate_iff]
        exact unusable
      simp only [ofOptions, rated, if_true]
      rfl
  | period usable unusable =>
      have rated := (isUsableRate_iff _).mpr usable
      simp only [ofOptions, rated, unusable, Except.mapError, bind, Except.bind,
        Bool.false_eq_true, if_false]
  | runFor usable made given unusable =>
      have rated := (isUsableRate_iff _).mpr usable
      simp only [ofOptions, rated, made, given, unusable, Except.mapError, bind, Except.bind,
        Bool.false_eq_true, if_false]
      rfl
  | @config period runFor path cause usable made limited named explains =>
      have rated := (isUsableRate_iff _).mpr usable
      have unloaded : loadConfig files options.config = .error (.badConfig path cause) := by
        rw [named, loadConfig, explains.ofFile_eq]
      rcases limits_of_map_eq limited with ⟨given, -⟩ | ⟨seconds, limit, given, -, inside⟩
      · simp only [ofOptions, rated, made, given, unloaded, Except.mapError, bind, Except.bind,
          pure, Except.pure, Bool.false_eq_true, if_false]
      · simp only [ofOptions, rated, made, given, inside, unloaded, Except.mapError, bind,
          Except.bind, pure, Except.pure, Bool.false_eq_true, if_false]

end NodePlan

/-! ## The run -/

namespace Node

/-- At rest, with the sub-steps of the plan and nothing counted yet. -/
structure IsNew (plan : NodePlan) (node : Node) : Prop where
  resting : node.controller.IsResting
  substeps_eq : node.controller.settings.substeps = plan.config.substeps
  ticks_eq : node.controller.stats.ticks = 0
  failedTicks_eq : node.controller.stats.failedTicks = 0
  stats_substeps_eq : node.controller.stats.substeps = 0
  writes_eq : node.controller.plant.writes = 0

/-- A configuration that checks can always be started. -/
theorem exists_launch {plan : NodePlan} {settings : Settings Float}
    (checked : plan.config.check = .ok settings) :
    ∃ node started, launch plan = .ok (node, started) ∧ node.IsNew plan := by
  have checks := (Config.check_eq_ok_iff plan.config settings).mp checked
  have created := Controller.create_of_checked checked
    (PointMass.create plan.config.interface : PointMass Float)
    ({ capacity := queueCapacity } : Channel Float)
  have gain := ((Config.accept_eq_ok_iff _ _ _).mp checks.errorScale).1
  rw [← checks.errorScale_eq] at gain
  rw [launch]
  simp only [created, Controller.start, Plant.sync, PointMass.sync]
  refine ⟨_, _, rfl, ?_⟩
  exact {
    resting := {
      plant := PointMass.create_isStill plan.config.interface
      target_eq := rfl
      running := rfl
      errorScale := gain
      internalPeriod := Duration.lt_limit_of_ofSeconds checks.internalPeriod }
    substeps_eq := checks.substeps_eq
    ticks_eq := rfl
    failedTicks_eq := rfl
    stats_substeps_eq := rfl
    writes_eq := rfl }

theorem IsNew.ticks_isUnmoved {plan : NodePlan} {node : Node} (fresh : node.IsNew plan)
    (last : Instant) (turns : List Turn) :
    (node.ticks last turns).1.IsUnmoved plan turns.length := by
  have idles := (ticks_idle turns fresh.resting last).2
  have still := idles.resting.plant
  rw [fresh.substeps_eq] at idles
  exact {
    ticks_eq := by rw [idles.ticks_eq, fresh.ticks_eq, Nat.zero_add]
    failedTicks_eq := by rw [idles.failedTicks_eq, fresh.failedTicks_eq]
    substeps_eq := by rw [idles.substeps_eq, fresh.stats_substeps_eq, Nat.zero_add]
    writes_eq := by rw [idles.writes_eq, fresh.writes_eq, Nat.zero_add]
    pose_eq := still.pose_eq
    velocity_eq := still.velocity_eq }

end Node

/-- A settled plan is carried out as far as its deadlines go. -/
theorem NodePlan.IsSettled.exists_run {files : String → Except ReadFault ByteArray}
    {options : CommandLine.Options} {plan : NodePlan} (settled : IsSettled files options plan)
    (start : Instant) (turns : List Turn) :
    ∃ made first started run, Node.runPlan plan start turns = .ok run ∧
      plan.Makes start (start.nanoseconds + plan.period.nanoseconds) turns made run.ending ∧
      Node.IsUneventful plan start made first started run := by
  rcases settled.config.exists_settings with ⟨settings, checked⟩
  rcases Node.exists_launch checked with ⟨first, started, launched, fresh⟩
  have paced : Pace.Keeps start (start.nanoseconds + plan.period.nanoseconds)
      (Pace.start? start plan.period) := Pace.keeps_after start start plan.period
  rcases Node.turns_eq_ticks plan start turns paced first with ⟨made, ending, makes, ran⟩
  rw [(Node.ticks_idle made fresh.resting start).1] at ran
  have lived : Node.runPlan plan start turns = .ok
      { node := (first.ticks start made).1
        ending := ending
        log := plan.loadedLine :: started ++ (first.ticks start made).1.closing ending } := by
    simp only [Node.runPlan, launched, ran, bind, Except.bind, List.append_nil]
    rfl
  refine ⟨made, first, started, _, lived, makes, ?_⟩
  exact {
    launch_eq := launched
    node_eq := rfl
    succeeds := by
      intro front turn back split period elapsed
      have resting := (Node.ticks_idle front fresh.resting start).2.resting
      exact (resting.update period elapsed).1
    unmoved := fun front _ => fresh.ticks_isUnmoved start front
    log_finished := by
      rintro rfl
      rfl
    log_aborted := by
      rintro rfl
      exact List.append_nil _ }

namespace Node

variable {files : String → Except ReadFault ByteArray} {options : CommandLine.Options}

section Checked

variable {start : Instant} {turns : List Turn}

end Checked

/-- A disk without files. -/
def bare : String → Except ReadFault ByteArray :=
  fun _ => .error .missing

variable {arguments : List String}

theorem run_of_refuses (given : CommandLine.read arguments = .ok (.run options))
    {error : NodeError} (refuses : NodePlan.Refuses files options error) :
    run files arguments = { code := 1, stderr := error.report } := by
  simp only [run, given, refuses.ofOptions_eq, bind, Except.bind]

/-- The program makes as many turns as fit into the run time. -/
theorem run_of_settled (given : CommandLine.read arguments = .ok (.run options)) {plan : NodePlan}
    (settled : NodePlan.IsSettled files options plan) :
    ∃ made first started ended,
      plan.Makes .zero (Instant.zero.nanoseconds + plan.period.nanoseconds)
        (onTime plan.period (plan.tickCount?.getD 0) .zero) made ended.ending ∧
      IsUneventful plan .zero made first started ended ∧
      run files arguments = ended.output options.verbose := by
  rcases settled.exists_run .zero (onTime plan.period (plan.tickCount?.getD 0) .zero) with
    ⟨made, first, started, ended, ran, makes, uneventful⟩
  refine ⟨made, first, started, ended, makes, uneventful, ?_⟩
  simp only [run, given, settled.ofOptions_eq, ran, bind, Except.bind]

end Node

end MotionControl
