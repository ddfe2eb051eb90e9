import MotionControl.Proofs.Controller.Configuration
import MotionControl.Proofs.Controller.Tally
import MotionControl.Proofs.Controller.Writers
import MotionControl.Proofs.PointMass.Coherence

/-!
# Ticks in parts

Nothing but the plant's motion carries over from one sub-step to the next.  So a tick may
be cut into several, by reconfigurations and updates in between, and a controller whose
interface allows one sub-step per tick does in many ticks what another one does in one.

`IsAlike` relates two controllers that a sub-step cannot tell apart.  A sub-step preserves
it, and `Covers` says what that means for operations: carried out on one controller, they
amount to so many sub-steps of another.  It composes, so a run of operations is compared
with a single tick by adding up sub-steps.  Only the interface of the plant, what was
written and the number of writes may differ, because no sub-step reads them.
-/

namespace MotionControl

variable {α : Type} [Scalar α]

/-! ## What a step of a point mass reads -/

namespace PointMass

omit [Scalar α] in
/-- The plant without its interface and without the record of what was written. -/
def core (plant : PointMass α) : PointMass α :=
  { plant with interface := .position, written := none, writes := 0 }

theorem synthesize_core (plant : PointMass α) (error : SpatialVector α) (period : Duration) :
    plant.core.synthesize error period =
      ((plant.synthesize error period).1.core, (plant.synthesize error period).2) := by
  have violated (position : Vec3 α) :
      plant.core.violatedRadius? position = plant.violatedRadius? position := rfl
  have moved : plant.core.destination error period = plant.destination error period := rfl
  cases finite : error.isFinite with
  | false => rw [synthesize_of_nonFinite finite, synthesize_of_nonFinite finite]
  | true =>
      cases inside : plant.violatedRadius? (plant.destination error period).position with
      | some radius =>
          rw [synthesize_of_some finite inside, synthesize_of_some finite]
          rw [violated, moved, inside]
      | none =>
          rw [synthesize_of_none finite inside, synthesize_of_none finite]
          · rfl
          · rw [violated, moved, inside]

end PointMass

namespace Controller

variable {π ρ : Type}

/-! ## Controllers that a sub-step cannot tell apart -/

structure IsAlike (first : Controller α (PointMass α) π) (second : Controller α (PointMass α) ρ) :
    Prop where
  core_eq : second.plant.core = first.plant.core
  target_eq : second.reference.target = first.reference.target
  limits_eq : second.settings.limits = first.settings.limits
  errorScale_eq : second.settings.errorScale = first.settings.errorScale
  internalPeriod_eq : second.settings.internalPeriod = first.settings.internalPeriod

namespace IsAlike

variable {c : Controller α (PointMass α) π} {d : Controller α (PointMass α) ρ}

omit [Scalar α] in
theorem refl (c : Controller α (PointMass α) π) : IsAlike c c :=
  ⟨rfl, rfl, rfl, rfl, rfl⟩

omit [Scalar α] in
theorem pose_eq (alike : IsAlike c d) : d.plant.pose = c.plant.pose := by
  have same := congrArg PointMass.pose alike.core_eq
  exact same

theorem request_eq (alike : IsAlike c d) : d.request = c.request := by
  have pose : Plant.pose d.plant = Plant.pose c.plant := alike.pose_eq
  rw [request, request, pose, alike.target_eq, alike.limits_eq, alike.errorScale_eq]

theorem synthesize_eq (alike : IsAlike c d) :
    ((d.plant.synthesize d.request d.settings.internalPeriod).1.core,
        (d.plant.synthesize d.request d.settings.internalPeriod).2) =
      ((c.plant.synthesize c.request c.settings.internalPeriod).1.core,
        (c.plant.synthesize c.request c.settings.internalPeriod).2) := by
  rw [← PointMass.synthesize_core, ← PointMass.synthesize_core, alike.core_eq, alike.request_eq,
    alike.internalPeriod_eq]

variable [Sink α π] [Sink α ρ]

theorem result_eq (alike : IsAlike c d) : d.substep.2 = c.substep.2 := by
  have answers := congrArg Prod.snd alike.synthesize_eq
  rw [substep_result, substep_result]
  exact answers

theorem substep (alike : IsAlike c d) : IsAlike c.substep.1 d.substep.1 := by
  have left := substep_advances c
  have right := substep_advances d
  have plants := congrArg Prod.fst alike.synthesize_eq
  constructor
  · rw [substep_plant, substep_plant]
    exact plants
  · rw [left.target_eq, right.target_eq, alike.target_eq]
  · rw [left.settings_eq, right.settings_eq, alike.limits_eq]
  · rw [left.settings_eq, right.settings_eq, alike.errorScale_eq]
  · rw [left.settings_eq, right.settings_eq, alike.internalPeriod_eq]

theorem afterSubsteps (alike : IsAlike c d) (k : ℕ) :
    IsAlike (c.afterSubsteps k) (d.afterSubsteps k) := by
  induction k with
  | zero => exact alike
  | succ k inductionHypothesis => exact inductionHypothesis.substep

theorem posesUntil_eq (alike : IsAlike c d) (k : ℕ) : d.posesUntil k = c.posesUntil k :=
  List.map_congr_left fun i _ => (alike.afterSubsteps i).pose_eq

end IsAlike

/-! ## Sub-steps in a row -/

section Rows

variable {σ : Type} [Plant α σ] [Sink α π]

theorem afterSubsteps_add (c : Controller α σ π) (a b : ℕ) :
    (c.afterSubsteps a).afterSubsteps b = c.afterSubsteps (a + b) := by
  induction b with
  | zero => rfl
  | succ b inductionHypothesis =>
      change ((c.afterSubsteps a).afterSubsteps b).substep.1 = (c.afterSubsteps (a + b)).substep.1
      rw [inductionHypothesis]

theorem posesUntil_add (c : Controller α σ π) (a b : ℕ) :
    c.posesUntil (a + b) = c.posesUntil a ++ (c.afterSubsteps a).posesUntil b := by
  rw [posesUntil, List.range_add, List.map_append, List.map_map]
  refine congrArg _ (List.map_congr_left fun i _ => ?_)
  rw [afterSubsteps_add]
  rfl

/-- The first so many sub-steps succeed. -/
def Succeeds (c : Controller α σ π) (k : ℕ) : Prop :=
  ∀ i < k, (c.afterSubsteps i).substep.2 = .ok ()

theorem succeeds_add_iff (c : Controller α σ π) (a b : ℕ) :
    c.Succeeds (a + b) ↔ c.Succeeds a ∧ (c.afterSubsteps a).Succeeds b := by
  constructor
  · intro succeeds
    refine ⟨fun i inside => succeeds i (by omega), fun i inside => ?_⟩
    rw [afterSubsteps_add]
    exact succeeds (a + i) (by omega)
  · rintro ⟨front, back⟩ i inside
    by_cases early : i < a
    · exact front i early
    · have late := back (i - a) (by omega)
      rwa [afterSubsteps_add, Nat.add_sub_cancel' (by omega)] at late

theorem afterSubsteps_substeps_of_succeeds {c : Controller α σ π} {k : ℕ}
    (succeeds : c.Succeeds k) : (c.afterSubsteps k).stats.substeps = c.stats.substeps + k := by
  induction k with
  | zero => rfl
  | succ k inductionHypothesis =>
      rw [succeeds_add_iff] at succeeds
      have last : (c.afterSubsteps k).substep.2 = .ok () := succeeds.2 0 Nat.one_pos
      rw [afterSubsteps_succ, substep_substeps, last, inductionHypothesis succeeds.1]
      rfl

theorem runSubsteps_of_succeeds {c : Controller α σ π} {n : ℕ} (succeeds : c.Succeeds n) :
    c.runSubsteps n = (c.afterSubsteps n, .ok ()) := by
  rcases run_afterSubsteps n c with ⟨k, reached, ⟨bound, -, ended⟩⟩
  rcases ended with ⟨full, -, result⟩ | ⟨last, fault, count, failed, -⟩
  · rw [full] at reached
    exact Prod.ext reached result
  · rw [succeeds last (by omega)] at failed
    cases failed

theorem succeeds_of_runSubsteps {c : Controller α σ π} {n : ℕ}
    (result : (c.runSubsteps n).2 = .ok ()) : c.Succeeds n := by
  rcases run_afterSubsteps n c with ⟨k, -, ⟨bound, -, ended⟩⟩
  rcases ended with ⟨full, succeeded, -⟩ | ⟨last, fault, count, failed, answer⟩
  · rw [full] at succeeded
    exact succeeded
  · rw [answer] at result
    cases result

end Rows

/-! ## Ticks over a point mass -/

section Ticks

variable [Sink α π] {c : Controller α (PointMass α) π}

/-- A point mass can always be written to, so only a sub-step can fail. -/
theorem succeeds_of_tick (succeeded : c.tick.2 = .ok ()) :
    c.Succeeds c.settings.substeps.toNat := by
  apply succeeds_of_runSubsteps
  rw [tick_eq] at succeeded
  cases ran : c.runSubsteps c.settings.substeps.toNat with
  | mk last result =>
      rw [ran] at succeeded
      cases result with
      | ok done => rfl
      | error fault => cases succeeded

theorem tick_of_succeeds (succeeds : c.Succeeds c.settings.substeps.toNat) :
    c.tick = ({ c.afterSubsteps c.settings.substeps.toNat with
      plant := (c.afterSubsteps c.settings.substeps.toNat).plant.write.1 }, .ok ()) := by
  rw [tick_eq, runSubsteps_of_succeeds succeeds]
  rfl

end Ticks

/-! ## Operations as sub-steps -/

/-- Operations have led from one controller to another, and amount to `k` sub-steps of the
model. -/
structure Covers [Sink α π] [Sink α ρ] (model : Controller α (PointMass α) π) (k : ℕ)
    (before after : Controller α (PointMass α) ρ) : Prop where
  alike : IsAlike (model.afterSubsteps k) after
  published : Published before after (model.posesUntil k)
  substeps_eq : after.stats.substeps = before.stats.substeps + k

section Operations

variable [Sink α π] [Sink α ρ] {c : Controller α (PointMass α) π}
  {d first second third : Controller α (PointMass α) ρ}

theorem Covers.trans {a b : ℕ} (front : Covers c a first second)
    (back : Covers (c.afterSubsteps a) b second third) : Covers c (a + b) first third where
  alike := by
    rw [← afterSubsteps_add]
    exact back.alike
  published := by
    rw [posesUntil_add]
    exact front.published.trans back.published
  substeps_eq := by rw [back.substeps_eq, front.substeps_eq, Nat.add_assoc]

namespace IsAlike

theorem succeeds (alike : IsAlike c d) {k : ℕ} (succeeds : c.Succeeds k) : d.Succeeds k :=
  fun i inside => (alike.afterSubsteps i).result_eq.trans (succeeds i inside)

/-- An update is the sub-steps of its tick and a write, whatever its period. -/
theorem update (alike : IsAlike c d) (running : d.paused = false) {k : ℕ}
    (count : d.settings.substeps.toNat = k) (succeeds : c.Succeeds k)
    (period elapsed : Duration) :
    (d.update period elapsed).2 = .ok () ∧ Covers c k d (d.update period elapsed).1 ∧
      (d.update period elapsed).1.plant.written =
        some (d.update period elapsed).1.plant.simulated := by
  have steps := alike.succeeds succeeds
  have reached := alike.afterSubsteps k
  have published := afterSubsteps_published d k
  have counted := afterSubsteps_substeps_of_succeeds steps
  rw [alike.posesUntil_eq] at published
  rw [update_of_running running, tick_of_succeeds (count ▸ steps), count]
  refine ⟨rfl, ?_, rfl⟩
  exact {
    alike := ⟨reached.core_eq, reached.target_eq, reached.limits_eq, reached.errorScale_eq,
      reached.internalPeriod_eq⟩
    published := ⟨published.sink_eq, published.lastPublished_eq⟩
    substeps_eq := counted }

/-- A reconfiguration at the same scale is no sub-step at all. -/
theorem reconfigure (alike : IsAlike c d) (consistent : d.Consistent) {n : UInt32}
    (counted : n ≠ 0) :
    (d.perform (.reconfigure n d.config.errorScale)).2.answer = .done ∧
      Covers c 0 d (d.perform (.reconfigure n d.config.errorScale)).1 ∧
      (d.perform (.reconfigure n d.config.errorScale)).1.settings.substeps =
        d.config.interface.substeps n := by
  have usable : ¬ (!Scalar.isFinite d.config.errorScale || d.config.errorScale < 0) = true := by
    intro unusable
    have accepted := consistent.errorScale
    rw [Config.checkNonNegative, if_pos unusable] at accepted
    cases accepted
  have checked := consistent.check_retuned n d.config.errorScale
  rw [if_neg counted, if_neg usable] at checked
  rw [perform_reconfigure_of_ok checked]
  have scale : d.config.errorScale = c.settings.errorScale :=
    consistent.errorScale_eq.symm.trans alike.errorScale_eq
  exact ⟨rfl, ⟨⟨alike.core_eq, alike.target_eq, alike.limits_eq, scale, alike.internalPeriod_eq⟩,
    ⟨rfl, rfl⟩, rfl⟩, rfl⟩

end IsAlike

/-- Operations that all succeed, end with a write and amount to `k` sub-steps of the model. -/
structure Repeats (model : Controller α (PointMass α) π) (k : ℕ)
    (before : Controller α (PointMass α) ρ)
    (ran : Controller α (PointMass α) ρ × List (Report α)) : Prop where
  done : ∀ report ∈ ran.2, report.answer = .done
  covers : Covers model k before ran.1
  written : ran.1.plant.written = some ran.1.plant.simulated

theorem Repeats.append {a b : ℕ} {front back : List (Operation α)}
    (early : Repeats c a d (d.run front))
    (late : Repeats (c.afterSubsteps a) b (d.run front).1 ((d.run front).1.run back)) :
    Repeats c (a + b) d (d.run (front ++ back)) := by
  rw [run_append]
  exact {
    done := List.forall_mem_append.mpr ⟨early.done, late.done⟩
    covers := early.covers.trans late.covers
    written := late.written }

/-- A tick with another number of sub-steps. -/
def retunedTick (errorScale : α) (n : UInt32) (update : Duration × Duration) :
    List (Operation α) :=
  [.reconfigure n errorScale, .update update.1 update.2]

theorem perform_reconfigure_kept (d : Controller α (PointMass α) ρ) (n : UInt32) :
    (d.perform (.reconfigure n d.config.errorScale)).1.paused = d.paused ∧
      (d.perform (.reconfigure n d.config.errorScale)).1.config =
        { d.config with
          iterations := (d.perform (.reconfigure n d.config.errorScale)).1.config.iterations } := by
  cases checked : (d.retuned n d.config.errorScale).check with
  | ok settings =>
      rw [perform_reconfigure_of_ok checked]
      exact ⟨rfl, rfl⟩
  | error problem =>
      rw [perform_reconfigure_of_error checked]
      exact ⟨rfl, rfl⟩

/-- A tick with another number of sub-steps changes nothing else of the configuration. -/
theorem run_retunedTick_kept (d : Controller α (PointMass α) ρ) (n : UInt32)
    (update : Duration × Duration) :
    (d.run (retunedTick d.config.errorScale n update)).1.paused = d.paused ∧
      (d.run (retunedTick d.config.errorScale n update)).1.config =
        { d.config with
          iterations := (d.run (retunedTick d.config.errorScale n update)).1.config.iterations } := by
  have ran : (d.run (retunedTick d.config.errorScale n update)).1 =
      ((d.perform (.reconfigure n d.config.errorScale)).1.update update.1 update.2).1 := rfl
  rw [ran, update_paused, (update_settings _ update.1 update.2).1]
  exact perform_reconfigure_kept d n

namespace IsAlike

theorem run_update (alike : IsAlike c d) (running : d.paused = false) {k : ℕ}
    (count : d.settings.substeps.toNat = k) (succeeds : c.Succeeds k)
    (period elapsed : Duration) : Repeats c k d (d.run [.update period elapsed]) := by
  rcases alike.update running count succeeds period elapsed with ⟨done, covers, written⟩
  refine ⟨List.forall_mem_singleton.mpr ?_, covers, written⟩
  change plantAnswer (d.update period elapsed).2 = .done
  rw [done]
  rfl

theorem run_retunedTick (alike : IsAlike c d) (consistent : d.Consistent)
    (running : d.paused = false) (several : d.config.interface ≠ .velocity) {n : UInt32}
    (counted : n ≠ 0) (succeeds : c.Succeeds n.toNat) (update : Duration × Duration) :
    Repeats c n.toNat d (d.run (retunedTick d.config.errorScale n update)) := by
  rcases alike.reconfigure consistent counted with ⟨accepted, tuned, substeps⟩
  have still := (perform_reconfigure_kept d n).1.trans running
  have count : (d.perform (.reconfigure n d.config.errorScale)).1.settings.substeps.toNat =
      n.toNat := by
    rw [substeps]
    cases kind : d.config.interface with
    | velocity => exact absurd kind several
    | position | effort => rfl
  have ticked := tuned.alike.run_update still count succeeds update.1 update.2
  have whole := tuned.trans ticked.covers
  rw [Nat.zero_add] at whole
  exact {
    done := List.forall_mem_cons.mpr ⟨accepted, ticked.done⟩
    covers := whole
    written := ticked.written }

/-- Two ticks in a row, with the sub-steps of one. -/
theorem run_split (alike : IsAlike c d) (reachable : d.Reachable) (running : d.paused = false)
    (several : d.config.interface ≠ .velocity) {a b : UInt32} (first : a ≠ 0) (second : b ≠ 0)
    (succeeds : c.Succeeds (a.toNat + b.toNat)) (early late : Duration × Duration) :
    Repeats c (a.toNat + b.toNat) d
      (d.run (retunedTick d.config.errorScale a early ++ retunedTick d.config.errorScale b late)) := by
  rw [succeeds_add_iff] at succeeds
  have front := alike.run_retunedTick reachable.consistent running several first succeeds.1 early
  rcases run_retunedTick_kept d a early with ⟨still, kept⟩
  have scale : (d.run (retunedTick d.config.errorScale a early)).1.config.errorScale =
      d.config.errorScale := by rw [kept]
  have kind : (d.run (retunedTick d.config.errorScale a early)).1.config.interface =
      d.config.interface := by rw [kept]
  have back := front.covers.alike.run_retunedTick (reachable.run _).consistent
    (still.trans running) (kind ▸ several) second succeeds.2 late
  rw [scale] at back
  exact front.append back

/-- Updates of one sub-step each. -/
theorem run_updates (alike : IsAlike c d) (running : d.paused = false)
    (single : d.settings.substeps = 1) (update : Duration × Duration)
    {rest : List (Duration × Duration)} (succeeds : c.Succeeds (rest.length + 1)) :
    Repeats c (rest.length + 1) d
      (d.run ((update :: rest).map fun update => .update update.1 update.2)) := by
  induction rest generalizing c d update with
  | nil => exact alike.run_update running (congrArg UInt32.toNat single) succeeds _ _
  | cons next rest inductionHypothesis =>
      have order : rest.length + 1 + 1 = 1 + (rest.length + 1) := Nat.add_comm _ _
      rw [List.length_cons, order, succeeds_add_iff] at succeeds
      have first := alike.run_update running (congrArg UInt32.toNat single) succeeds.1
        update.1 update.2
      have settings := (update_settings d update.1 update.2).2
      have others := inductionHypothesis first.covers.alike
        ((update_paused d update.1 update.2).trans running)
        ((congrArg Settings.substeps settings).trans single) next succeeds.2
      rw [List.length_cons, order]
      exact first.append others

end IsAlike

end Operations

/-! ## One loop -/

section Statements

variable [Sink α π] [Sink α ρ]

/-- A run against an update with `n` sub-steps.  All of its operations succeed, and it
leaves the plant and the shared poses as the update does, after the same publications and
as many successful sub-steps. -/
structure IsOneTick (model : Controller α (PointMass α) π) (n : ℕ)
    (whole : Controller α (PointMass α) π) (before : Controller α (PointMass α) ρ)
    (ran : Controller α (PointMass α) ρ × List (Report α)) : Prop where
  done : ∀ report ∈ ran.2, report.answer = .done
  pose_eq : ran.1.plant.pose = whole.plant.pose
  velocity_eq : ran.1.plant.velocity = whole.plant.velocity
  simulated_eq : ran.1.plant.simulated = whole.plant.simulated
  written_eq : ran.1.plant.written = whole.plant.written
  target_eq : ran.1.reference.target = whole.reference.target
  lastPublished_eq : ran.1.reference.lastPublished = whole.reference.lastPublished
  published_whole : Published model whole (model.posesUntil n)
  published : Published before ran.1 (model.posesUntil n)
  substeps_whole : whole.stats.substeps = model.stats.substeps + n
  substeps_eq : ran.1.stats.substeps = before.stats.substeps + n

end Statements

variable [Sink α π] [Sink α ρ]

theorem getLast?_posesUntil (c : Controller α (PointMass α) π) (k : ℕ) :
    (c.posesUntil (k + 1)).getLast? = some (c.afterSubsteps k).plant.pose := by
  rw [posesUntil, List.range_succ, List.map_append]
  exact List.getLast?_concat

/-- Two ways of making the same sub-steps end alike. -/
theorem Repeats.isOneTick {c whole : Controller α (PointMass α) π}
    {d : Controller α (PointMass α) ρ} {k : ℕ}
    {ran : Controller α (PointMass α) ρ × List (Report α)} (covers : Covers c (k + 1) c whole)
    (written : whole.plant.written = some whole.plant.simulated)
    (repeats : Repeats c (k + 1) d ran) : IsOneTick c (k + 1) whole d ran := by
  have core := repeats.covers.alike.core_eq.trans covers.alike.core_eq.symm
  have simulated : ran.1.plant.simulated = whole.plant.simulated := by
    have same := congrArg PointMass.simulated core
    exact same
  exact {
    done := repeats.done
    pose_eq := by
      have same := congrArg PointMass.pose core
      exact same
    velocity_eq := by
      have same := congrArg PointMass.velocity core
      exact same
    simulated_eq := simulated
    written_eq := by rw [repeats.written, written, simulated]
    target_eq := repeats.covers.alike.target_eq.trans covers.alike.target_eq.symm
    lastPublished_eq := by
      rw [repeats.covers.published.lastPublished_eq, covers.published.lastPublished_eq,
        getLast?_posesUntil]
      rfl
    published_whole := covers.published
    published := repeats.covers.published
    substeps_whole := covers.substeps_eq
    substeps_eq := repeats.covers.substeps_eq }

/-- The law of the sub-steps of a controller over a point mass, for an update of any period
that succeeds.  Two ticks that share its sub-steps do the same, and so do as many ticks of
a controller for the velocity interface. -/
theorem update_isDivisible {c : Controller α (PointMass α) π} (reachable : c.Reachable)
    (running : c.paused = false) (several : c.config.interface ≠ .velocity)
    {period elapsed : Duration} (succeeded : (c.update period elapsed).2 = .ok ()) :
    (∀ a b : UInt32, a ≠ 0 → b ≠ 0 → c.config.iterations.toNat = a.toNat + b.toNat →
      ∀ early late : Duration × Duration,
        IsOneTick c c.config.iterations.toNat (c.update period elapsed).1 c
          (c.run (retunedTick c.config.errorScale a early ++
            retunedTick c.config.errorScale b late))) ∧
    ∀ d : Controller α (PointMass α) ρ, d.Reachable → d.paused = false →
      d.config.interface = .velocity → IsAlike c d →
      ∀ updates : List (Duration × Duration), updates.length = c.config.iterations.toNat →
        IsOneTick c c.config.iterations.toNat (c.update period elapsed).1 d
          (d.run (updates.map fun update => .update update.1 update.2)) := by
  have consistent := reachable.consistent
  have count : c.settings.substeps.toNat = c.config.iterations.toNat := by
    rw [consistent.substeps_eq, Config.substeps]
    cases kind : c.config.interface with
    | velocity => exact absurd kind several
    | position | effort => rfl
  obtain ⟨k, size⟩ : ∃ k, c.config.iterations.toNat = k + 1 := by
    have positive := consistent.substeps_pos
    exact ⟨c.config.iterations.toNat - 1, by omega⟩
  have succeeds : c.Succeeds c.config.iterations.toNat := by
    rw [update_of_running running] at succeeded
    rw [← count]
    exact succeeds_of_tick succeeded
  rcases (IsAlike.refl c).update running count succeeds period elapsed with ⟨-, covers, written⟩
  constructor
  · intro a b first second total early late
    have repeats := (IsAlike.refl c).run_split reachable running several first second
      (total ▸ succeeds) early late
    rw [← total, size] at repeats
    rw [size] at covers ⊢
    exact repeats.isOneTick covers written
  · intro d other runs velocity alike updates length
    cases updates with
    | nil =>
        rw [size] at length
        cases length
    | cons update rest =>
        have single : d.settings.substeps = 1 := by
          rw [other.consistent.substeps_eq, Config.substeps, velocity]
          rfl
        have whole : rest.length + 1 = c.config.iterations.toNat := length
        have repeats := alike.run_updates runs single update (whole ▸ succeeds)
        rw [← whole] at covers ⊢
        exact repeats.isOneTick covers written

/-- A controller over a new body that is to move ahead. -/
def towardAhead (config : Config Float) (settings : Settings Float) (interface : Interface) :
    Controller Float (PointMass Float) (PoseHistory Float) where
  config := config
  settings := settings
  plant := .create interface
  sink := ⟨[]⟩
  reference :=
    (Reference.create config.robotBaseLink .identity settings.warnThrottle).setTarget
      ⟨⟨1, 0, 0⟩, .identity⟩

theorem towardAhead_reachable {config : Config Float} {settings : Settings Float}
    (checked : config.check = .ok settings) (interface : Interface) :
    (towardAhead config settings interface).Reachable := by
  have created := create_of_checked checked (PointMass.create interface : PointMass Float)
    (towardAhead config settings interface).sink
  have start := Reachable.create created
  exact start.perform (.event (.setTarget ⟨⟨1, 0, 0⟩, .identity⟩) 0)

/-- Settings of so many sub-steps, and the standard values otherwise. -/
def standardSettings (substeps : UInt32) : Settings Float :=
  ⟨⟨1, 1⟩, substeps, ⟨20000000⟩, 1, ⟨3000000000⟩⟩

theorem update_isDivisible_towardAhead :
    let c := towardAhead (.position 3) (standardSettings 3) .position
    let d := towardAhead .velocity (standardSettings 1) .velocity
    c.Reachable ∧ d.Reachable ∧ (c.update ⟨20000000⟩ 0).2 = .ok () ∧ IsAlike c d ∧
      IsOneTick c 3 (c.update ⟨20000000⟩ 0).1 c
        (c.run (retunedTick 1 1 (0, 0) ++ retunedTick 1 2 (⟨5⟩, ⟨7⟩))) ∧
      IsOneTick c 3 (c.update ⟨20000000⟩ 0).1 d
        (d.run ([(0, 0), (⟨5⟩, ⟨7⟩), (0, 0)].map fun update => .update update.1 update.2)) := by
  intro c d
  have reachable : c.Reachable := towardAhead_reachable position_checks .position
  have other : d.Reachable :=
    towardAhead_reachable (by rfl : (Config.velocity : Config Float).check = _) .velocity
  have succeeded : (c.update ⟨20000000⟩ 0).2 = .ok () := by decide +kernel
  have alike : IsAlike c d := ⟨rfl, rfl, rfl, rfl, rfl⟩
  have law := @update_isDivisible Float _ _ (PoseHistory Float) _ _ c reachable rfl (by decide) _ _
    succeeded
  exact ⟨reachable, other, succeeded, alike,
    law.1 1 2 (by decide) (by decide) rfl (0, 0) (⟨5⟩, ⟨7⟩),
    law.2 d other rfl rfl alike _ rfl⟩

end Controller
end MotionControl
