import MotionControl.Plant.Scripted
import MotionControl.Proofs.ControlLoop.Journal
import MotionControl.Proofs.Controller.Reachable
import MotionControl.Scalar.Double

/-!
# What one tick asks of the plant

The law of a tick is stated over the plant alone: `plantBefore` drives it with
errors measured at its own poses, and knows neither the sink nor the counters
nor the length of the outer cycle.  `IsTick` compares an update with that law.
It fixes the calls that the plant receives, the answer of the update, the
reference it leaves, and in one journal the order in which poses are recorded and
published and the plant is called.  The journal is that of the same loop over a
controller that keeps one (`Ticks`), and what its entries stand for is
`ActsAsNamed`.

A tick makes sub-steps up to the first that fails.  Over any workcell a run of
sub-steps ends after some number `k` of them, of which only the last may have
failed (`Workcell.exists_afterSubsteps`).  That number is determined by the
answers of the plant, so no history of the controller can change it.
-/

namespace MotionControl

namespace PlantCall

variable {α : Type}

/-- What the first failing call of a list returned; success if none fails. -/
def firstFault : List (PlantCall α) → Except (Fault α) Unit
  | [] => .ok ()
  | call :: rest =>
    match call.result with
    | .ok () => firstFault rest
    | .error fault => .error fault

theorem firstFault_append {front : List (PlantCall α)} (back : List (PlantCall α))
    (succeeded : ∀ call ∈ front, call.result = .ok ()) :
    firstFault (front ++ back) = firstFault back := by
  induction front with
  | nil => rfl
  | cons call rest inductionHypothesis =>
      have here := succeeded call List.mem_cons_self
      have later := inductionHypothesis fun next member =>
        succeeded next (List.mem_cons_of_mem call member)
      simp only [List.cons_append, firstFault, here, later]

theorem firstFault_eq_ok_iff (calls : List (PlantCall α)) :
    firstFault calls = .ok () ↔ ∀ call ∈ calls, call.result = .ok () := by
  induction calls with
  | nil => simp only [firstFault, List.not_mem_nil, false_implies, implies_true]
  | cons call rest inductionHypothesis =>
      cases answer : call.result with
      | ok done =>
          simp only [firstFault, answer, inductionHypothesis, List.forall_mem_cons, true_and]
      | error fault => simp [firstFault, answer]

end PlantCall

namespace Controller

variable {α σ π : Type} [Scalar α] [Plant α σ]

/-! ## The law of a tick -/

/-- The error that a tick hands to a plant that stands at `pose`: the bounded
error toward the target, scaled. -/
def requestAt (c : Controller α (Recorded α σ) π) (pose : Pose α) : SpatialVector α :=
  (motionError c.reference.target pose c.settings.limits).scale c.settings.errorScale

/-- State of the plant right before its step number `i` of a tick, counted from
zero. -/
def plantBefore (c : Controller α (Recorded α σ) π) : Nat → σ
  | 0 => c.plant.plant
  | i + 1 =>
    (Plant.synthesize (c.plantBefore i) (c.requestAt (Plant.pose (c.plantBefore i)))
      c.settings.internalPeriod).1

def poseBefore (c : Controller α (Recorded α σ) π) (i : Nat) : Pose α :=
  Plant.pose (c.plantBefore i)

/-- Step number `i` of a tick, with its error, its period and its answer. -/
def stepCall (c : Controller α (Recorded α σ) π) (i : Nat) : PlantCall α :=
  .synthesize (c.poseBefore i) (c.requestAt (c.poseBefore i)) c.settings.internalPeriod
    (Plant.synthesize (c.plantBefore i) (c.requestAt (c.poseBefore i))
      c.settings.internalPeriod).2

/-- The first `k` steps of a tick. -/
def stepCalls (c : Controller α (Recorded α σ) π) (k : Nat) : List (PlantCall α) :=
  (List.range k).map c.stepCall

def posesBefore (c : Controller α (Recorded α σ) π) (k : Nat) : List (Pose α) :=
  (List.range k).map c.poseBefore

theorem stepCalls_succ (c : Controller α (Recorded α σ) π) (k : Nat) :
    c.stepCalls (k + 1) = c.stepCalls k ++ [c.stepCall k] := by
  simp only [stepCalls, List.range_succ, List.map_append, List.map_cons, List.map_nil]

theorem posesBefore_succ (c : Controller α (Recorded α σ) π) (k : Nat) :
    c.posesBefore (k + 1) = c.posesBefore k ++ [c.poseBefore k] := by
  simp only [posesBefore, List.range_succ, List.map_append, List.map_cons, List.map_nil]

theorem forall_mem_stepCalls (c : Controller α (Recorded α σ) π) (k : Nat)
    (property : PlantCall α → Prop) :
    (∀ call ∈ c.stepCalls k, property call) ↔ ∀ i < k, property (c.stepCall i) := by
  simp only [stepCalls, List.forall_mem_map, List.mem_range]

/-- A tick of at most `n` steps ends after `k`: at the first failure, or with
all steps made. -/
structure Halts (c : Controller α (Recorded α σ) π) (n k : Nat) : Prop where
  le : k ≤ n
  failure_last : ∀ i < k, (c.stepCall i).result ≠ .ok () → i + 1 = k
  full : (∀ i < k, (c.stepCall i).result = .ok ()) → k = n

/-- The answers of the plant leave no choice of the number of steps. -/
theorem Halts.unique {c : Controller α (Recorded α σ) π} {n first second : Nat}
    (left : c.Halts n first) (right : c.Halts n second) : first = second := by
  have notLess {short long : Nat} (shorter : c.Halts n short) (longer : c.Halts n long) :
      ¬ short < long := by
    intro less
    have bound := longer.le
    by_cases succeeded : ∀ i < short, (c.stepCall i).result = .ok ()
    · have full := shorter.full succeeded
      omega
    · push Not at succeeded
      rcases succeeded with ⟨i, inside, failed⟩
      have last := longer.failure_last i (by omega) failed
      omega
  have noLess := notLess left right
  have noMore := notLess right left
  omega

/-- The write that follows `k` steps, if none of them failed. -/
def writesAfter (c : Controller α (Recorded α σ) π) (k : Nat) : List (PlantCall α) :=
  match PlantCall.firstFault (c.stepCalls k) with
  | .ok () => [.write (Plant.write (c.plantBefore k)).2]
  | .error _ => []

theorem writesAfter_ne_nil_iff (c : Controller α (Recorded α σ) π) (k : Nat) :
    c.writesAfter k ≠ [] ↔ ∀ i < k, (c.stepCall i).result = .ok () := by
  rw [← forall_mem_stepCalls c k fun call => call.result = .ok (),
    ← PlantCall.firstFault_eq_ok_iff]
  cases ended : PlantCall.firstFault (c.stepCalls k) with
  | ok done => simp [writesAfter, ended]
  | error fault => simp [writesAfter, ended]

/-! ## Independence of the past -/

/-- The same controller with another past: other calls that its plant received
and other counters, failures of earlier ticks among them. -/
def withPast (c : Controller α (Recorded α σ) π) (past : List (PlantCall α)) (stats : Stats) :
    Controller α (Recorded α σ) π :=
  { c with plant := ⟨c.plant.plant, past⟩, stats := stats }

theorem withPast_plantBefore (c : Controller α (Recorded α σ) π) (past : List (PlantCall α))
    (stats : Stats) (i : Nat) : (c.withPast past stats).plantBefore i = c.plantBefore i := by
  induction i with
  | zero => rfl
  | succ i inductionHypothesis =>
      simp only [plantBefore, inductionHypothesis]
      rfl

theorem withPast_stepCall (c : Controller α (Recorded α σ) π) (past : List (PlantCall α))
    (stats : Stats) : (c.withPast past stats).stepCall = c.stepCall := by
  funext i
  simp only [stepCall, poseBefore, withPast_plantBefore]
  rfl

theorem withPast_stepCalls (c : Controller α (Recorded α σ) π) (past : List (PlantCall α))
    (stats : Stats) (k : Nat) : (c.withPast past stats).stepCalls k = c.stepCalls k := by
  rw [stepCalls, withPast_stepCall, stepCalls]

theorem withPast_writesAfter (c : Controller α (Recorded α σ) π) (past : List (PlantCall α))
    (stats : Stats) (k : Nat) : (c.withPast past stats).writesAfter k = c.writesAfter k := by
  rw [writesAfter, withPast_stepCalls, withPast_plantBefore, writesAfter]

theorem Halts.withPast {c : Controller α (Recorded α σ) π} {n k : Nat} (halts : c.Halts n k)
    (past : List (PlantCall α)) (stats : Stats) : (c.withPast past stats).Halts n k where
  le := halts.le
  failure_last := by
    rw [withPast_stepCall]
    exact halts.failure_last
  full := by
    rw [withPast_stepCall]
    exact halts.full

/-! ## Updates and the law -/

variable [Sink α π]

def afterSubsteps (c : Controller α σ π) (i : Nat) : Controller α σ π :=
  Workcell.afterSubsteps c i

/-- What sub-step number `i` of a tick does, in this order.  The pose that the plant then has is
recorded and published, the target is looked up and is still the same, and last of all the plant
is called. -/
def stepEntries (c : Controller α (Recorded α σ) π) (i : Nat) : List (JournalEntry α) :=
  [.recorded (c.poseBefore i), .published (c.poseBefore i), .aimed c.reference.target,
    .called (c.stepCall i)]

/-- What the first `k` sub-steps of a tick do, in this order. -/
def journalOf (c : Controller α (Recorded α σ) π) (k : Nat) : List (JournalEntry α) :=
  (List.range k).flatMap c.stepEntries

/-- An update that made `k` steps and then the given writes, and nothing else,
under the law of a tick.  The journal has it in order: before every step the pose
that the plant has at that moment was recorded and published, and a write comes
after all steps.  A step that fails is the last call; a write follows if
and only if all steps were made and succeeded.  The update returns the fault of
the first call that failed, and knows no other error. -/
structure IsTick (c : Controller α (Recorded α σ) π)
    (outcome : Controller α (Recorded α σ) π × Except (Fault α) Unit)
    (journal : List (JournalEntry α)) (k : Nat) (writes : List (PlantCall α)) : Prop where
  one_le : 1 ≤ k
  le_substeps : k ≤ c.settings.substeps.toNat
  calls_eq : outcome.1.plant.calls = c.plant.calls ++ (c.stepCalls k ++ writes)
  journal_eq : journal = c.journalOf k ++ writes.map .called
  failure_last : ∀ i < k, (c.stepCall i).result ≠ .ok () → i + 1 = k ∧ writes = []
  write_eq : writes = [] ∨ writes = [.write (Plant.write (c.plantBefore k)).2]
  write_iff : writes ≠ [] ↔
    k = c.settings.substeps.toNat ∧ ∀ i < k, (c.stepCall i).result = .ok ()
  result_eq : outcome.2 = PlantCall.firstFault (c.stepCalls k ++ writes)
  sink_eq : outcome.1.sink = (c.posesBefore k).foldl Sink.publish c.sink
  reference_eq : outcome.1.reference =
    { c.reference with lastPublished := c.poseBefore (k - 1) }

/-- The actions of the loop are what a journal calls them.  Each does one thing to one part of
the controller, so what was recorded and published before a call is in place at the call. -/
structure ActsAsNamed (c : Controller α σ π) : Prop where
  record_eq : ∀ pose, Workcell.record c pose =
    { c with reference := { c.reference with lastPublished := pose } }
  publish_eq : ∀ pose, Workcell.publish c pose = { c with sink := Sink.publish c.sink pose }
  readTarget_eq : Workcell.readTarget c = (c, c.reference.target)
  synthesize_eq : ∀ error period, Workcell.synthesize c error period =
    ({ c with plant := (Plant.synthesize c.plant error period).1 },
      (Plant.synthesize c.plant error period).2)
  write_eq : Workcell.write c =
    ({ c with plant := (Plant.write c.plant).1 }, (Plant.write c.plant).2)

omit [Scalar α] in
theorem actsAsNamed (c : Controller α σ π) : c.ActsAsNamed :=
  ⟨fun _ => rfl, fun _ => rfl, rfl, fun _ _ => rfl, rfl⟩

/-- The update is made, over a controller that keeps a journal from now on, and is a tick. -/
def Ticks (c : Controller α (Recorded α σ) π) (period elapsed : Duration) (k : Nat)
    (writes : List (PlantCall α)) : Prop :=
  ∃ journal,
    Workcell.update (⟨c, []⟩ : Journaled α (Controller α (Recorded α σ) π)) period elapsed =
      (⟨(c.update period elapsed).1, journal⟩, (c.update period elapsed).2) ∧
    c.IsTick (c.update period elapsed) journal k writes

/-! ## The state after some sub-steps -/

theorem afterSubsteps_succ (c : Controller α σ π) (i : Nat) :
    c.afterSubsteps (i + 1) = (c.afterSubsteps i).substep.1 :=
  rfl

theorem afterSubsteps_advances (c : Controller α σ π) (i : Nat) :
    Advances c (c.afterSubsteps i) := by
  induction i with
  | zero => exact .refl c
  | succ i inductionHypothesis => exact inductionHypothesis.trans (substep_advances _)

theorem run_afterSubsteps (n : Nat) (c : Controller α σ π) :
    ∃ k, (c.runSubsteps n).1 = c.afterSubsteps k ∧
      Workcell.Ends n k (fun i => (c.afterSubsteps i).substep.2) (c.runSubsteps n).2 :=
  Workcell.exists_afterSubsteps n c

theorem afterSubsteps_plant (c : Controller α (Recorded α σ) π) (i : Nat) :
    (c.afterSubsteps i).plant = ⟨c.plantBefore i, c.plant.calls ++ c.stepCalls i⟩ := by
  induction i with
  | zero =>
      have none : c.plant.calls ++ c.stepCalls 0 = c.plant.calls := List.append_nil _
      rw [none]
      rfl
  | succ i inductionHypothesis =>
      have advances := afterSubsteps_advances c i
      rw [afterSubsteps_succ, substep_plant, advances.request_eq, advances.settings_eq,
        inductionHypothesis, stepCalls_succ, ← List.append_assoc]
      rfl

theorem afterSubsteps_result (c : Controller α (Recorded α σ) π) (i : Nat) :
    (c.afterSubsteps i).substep.2 = (c.stepCall i).result := by
  have advances := afterSubsteps_advances c i
  rw [substep_result, advances.request_eq, advances.settings_eq, afterSubsteps_plant]
  rfl

theorem afterSubsteps_sink (c : Controller α (Recorded α σ) π) (i : Nat) :
    (c.afterSubsteps i).sink = (c.posesBefore i).foldl Sink.publish c.sink := by
  induction i with
  | zero => rfl
  | succ i inductionHypothesis =>
      rw [afterSubsteps_succ, substep_sink, inductionHypothesis, afterSubsteps_plant,
        posesBefore_succ, List.foldl_append]
      rfl

theorem afterSubsteps_reference (c : Controller α (Recorded α σ) π) (i : Nat) :
    (c.afterSubsteps (i + 1)).reference =
      { c.reference with lastPublished := c.poseBefore i } := by
  rw [afterSubsteps_succ, substep_reference, (afterSubsteps_advances c i).reference_eq,
    afterSubsteps_plant]
  rfl

omit [Sink α π] in
/-- A run that ends as the answers of the plant make it end follows the law of a tick. -/
theorem Halts.of_ends {c : Controller α (Recorded α σ) π} {n k : Nat}
    {result : Except (Fault α) Unit}
    (ends : Workcell.Ends n k (fun i => (c.stepCall i).result) result) :
    c.Halts n k ∧ result = PlantCall.firstFault (c.stepCalls k) := by
  rcases ends with ⟨bound, early, ended⟩
  refine ⟨⟨bound, ?_, ?_⟩, ?_⟩
  · intro i inside failed
    by_contra notLast
    exact failed (early i (by omega))
  · intro succeeded
    rcases ended with ⟨full, -, -⟩ | ⟨last, fault, count, failed, -⟩
    · exact full
    · rw [succeeded last (by omega)] at failed
      cases failed
  · rcases ended with ⟨-, succeeded, result⟩ | ⟨last, fault, count, failed, result⟩
    · rw [result, eq_comm, PlantCall.firstFault_eq_ok_iff, forall_mem_stepCalls]
      exact succeeded
    · have front : ∀ call ∈ c.stepCalls last, call.result = .ok () := by
        rw [forall_mem_stepCalls]
        intro i inside
        exact early i (by omega)
      rw [count, stepCalls_succ, PlantCall.firstFault_append _ front, result]
      simp only [PlantCall.firstFault, failed]

/-- A run of sub-steps over a recorded plant follows the law of a tick. -/
theorem exists_halts (c : Controller α (Recorded α σ) π) (n : Nat) :
    ∃ k, c.Halts n k ∧ (c.runSubsteps n).1 = c.afterSubsteps k ∧
      (c.runSubsteps n).2 = PlantCall.firstFault (c.stepCalls k) := by
  rcases run_afterSubsteps n c with ⟨k, reached, ends⟩
  simp only [afterSubsteps_result] at ends
  rcases Halts.of_ends ends with ⟨halts, result⟩
  exact ⟨k, halts, reached, result⟩

theorem Halts.run_eq {c : Controller α (Recorded α σ) π} {n k : Nat} (halts : c.Halts n k) :
    (c.runSubsteps n).1 = c.afterSubsteps k ∧
      (c.runSubsteps n).2 = PlantCall.firstFault (c.stepCalls k) := by
  rcases exists_halts c n with ⟨found, law, reached, result⟩
  rw [halts.unique law]
  exact ⟨reached, result⟩

/-! ## The whole tick -/

theorem tick_of_succeeded {c : Controller α (Recorded α σ) π} {k : Nat}
    (halts : c.Halts c.settings.substeps.toNat k)
    (succeeded : PlantCall.firstFault (c.stepCalls k) = .ok ()) :
    c.tick = (c.afterSubsteps k).writeCommands := by
  rcases halts.run_eq with ⟨reached, result⟩
  have run : c.runSubsteps c.settings.substeps.toNat = (c.afterSubsteps k, .ok ()) :=
    Prod.ext reached (result.trans succeeded)
  simp only [tick_eq, run, Attempt.andThen]

theorem tick_of_failed {c : Controller α (Recorded α σ) π} {k : Nat} {fault : Fault α}
    (halts : c.Halts c.settings.substeps.toNat k)
    (failed : PlantCall.firstFault (c.stepCalls k) = .error fault) :
    c.tick = (c.afterSubsteps k, .error fault) := by
  rcases halts.run_eq with ⟨reached, result⟩
  have run : c.runSubsteps c.settings.substeps.toNat = (c.afterSubsteps k, .error fault) :=
    Prod.ext reached (result.trans failed)
  simp only [tick_eq, run, Attempt.andThen]

theorem tick_calls {c : Controller α (Recorded α σ) π} {k : Nat}
    (halts : c.Halts c.settings.substeps.toNat k) :
    c.tick.1.plant.calls = c.plant.calls ++ (c.stepCalls k ++ c.writesAfter k) := by
  cases ended : PlantCall.firstFault (c.stepCalls k) with
  | ok done =>
      have written : c.tick.1.plant.calls =
          (c.afterSubsteps k).plant.calls ++
            [.write (Plant.write (c.afterSubsteps k).plant.plant).2] := by
        rw [tick_of_succeeded halts ended]
        rfl
      simp only [written, afterSubsteps_plant, writesAfter, ended, List.append_assoc]
  | error fault =>
      simp only [tick_of_failed halts ended, afterSubsteps_plant, writesAfter, ended,
        List.append_nil]

theorem tick_result {c : Controller α (Recorded α σ) π} {k : Nat}
    (halts : c.Halts c.settings.substeps.toNat k) :
    c.tick.2 = PlantCall.firstFault (c.stepCalls k ++ c.writesAfter k) := by
  cases ended : PlantCall.firstFault (c.stepCalls k) with
  | ok done =>
      have written : c.tick.2 = (Plant.write (c.afterSubsteps k).plant.plant).2 := by
        rw [tick_of_succeeded halts ended]
        rfl
      rw [PlantCall.firstFault_append _ ((PlantCall.firstFault_eq_ok_iff _).mp ended), written,
        afterSubsteps_plant, writesAfter, ended]
      cases answer : (Plant.write (c.plantBefore k)).2 with
      | ok done => simp only [PlantCall.firstFault, PlantCall.result]
      | error fault => simp only [PlantCall.firstFault, PlantCall.result]
  | error fault =>
      simp only [tick_of_failed halts ended, writesAfter, ended, List.append_nil]

/-- The write reaches neither the sink nor the reference. -/
theorem tick_outside {c : Controller α (Recorded α σ) π} {k : Nat}
    (halts : c.Halts c.settings.substeps.toNat k) :
    c.tick.1.sink = (c.afterSubsteps k).sink ∧
      c.tick.1.reference = (c.afterSubsteps k).reference := by
  cases ended : PlantCall.firstFault (c.stepCalls k) with
  | ok done =>
      rw [tick_of_succeeded halts ended]
      exact ⟨rfl, rfl⟩
  | error fault =>
      rw [tick_of_failed halts ended]
      exact ⟨rfl, rfl⟩

theorem tick_plant {c : Controller α (Recorded α σ) π} {k : Nat}
    (halts : c.Halts c.settings.substeps.toNat k) :
    c.tick.1.plant.plant =
      match PlantCall.firstFault (c.stepCalls k) with
      | .ok () => (Plant.write (c.plantBefore k)).1
      | .error _ => c.plantBefore k := by
  cases ended : PlantCall.firstFault (c.stepCalls k) with
  | ok done =>
      have written : c.tick.1.plant.plant =
          (Plant.write (c.afterSubsteps k).plant.plant).1 := by
        rw [tick_of_succeeded halts ended]
        rfl
      rw [written, afterSubsteps_plant]
  | error fault => rw [tick_of_failed halts ended, afterSubsteps_plant]

/-! ## The journal of the tick -/

/-- The controller after `i` sub-steps, with the journal of them. -/
def journaledAfter (c : Controller α (Recorded α σ) π) (i : Nat) :
    Journaled α (Controller α (Recorded α σ) π) :=
  ⟨c.afterSubsteps i, c.journalOf i⟩

theorem substep_journaledAfter (c : Controller α (Recorded α σ) π) (i : Nat) :
    Workcell.substep (c.journaledAfter i) = (c.journaledAfter (i + 1), (c.stepCall i).result) := by
  have advances := afterSubsteps_advances c i
  have same := Journaled.substep_cell (c.journaledAfter i)
  have answer := (congrArg Prod.snd same).trans (afterSubsteps_result c i)
  have entries : (Workcell.substep (c.journaledAfter i)).1.entries =
      c.journalOf i ++
        [.recorded (Plant.pose (c.afterSubsteps i).plant),
          .published (Plant.pose (c.afterSubsteps i).plant),
          .aimed (c.afterSubsteps i).reference.target,
          .called (.synthesize (Plant.pose (c.afterSubsteps i).plant) (c.afterSubsteps i).request
            (c.afterSubsteps i).settings.internalPeriod (c.afterSubsteps i).substep.2)] :=
    Journaled.substep_entries (c.journaledAfter i)
  rw [afterSubsteps_result, advances.request_eq, advances.settings_eq, advances.target_eq,
    afterSubsteps_plant] at entries
  have extended : c.journalOf (i + 1) = c.journalOf i ++ c.stepEntries i := by
    simp only [journalOf, List.range_succ, List.flatMap_append, List.flatMap_cons,
      List.flatMap_nil, List.append_nil]
  refine Prod.ext ?_ answer
  change _ = (⟨c.afterSubsteps (i + 1), c.journalOf (i + 1)⟩ : Journaled α _)
  rw [extended]
  exact congrArg₂ Journaled.mk (congrArg Prod.fst same) entries

theorem afterSubsteps_journaled (c : Controller α (Recorded α σ) π) (i : Nat) :
    Workcell.afterSubsteps (c.journaledAfter 0) i = c.journaledAfter i := by
  induction i with
  | zero => rfl
  | succ i inductionHypothesis =>
      rw [Workcell.afterSubsteps, inductionHypothesis, substep_journaledAfter]

theorem Halts.run_journaled {c : Controller α (Recorded α σ) π} {n k : Nat}
    (halts : c.Halts n k) :
    Workcell.runSubsteps n (c.journaledAfter 0) =
      (c.journaledAfter k, PlantCall.firstFault (c.stepCalls k)) := by
  rcases Workcell.exists_afterSubsteps n (c.journaledAfter 0) with ⟨found, reached, ends⟩
  simp only [afterSubsteps_journaled, substep_journaledAfter] at reached ends
  rcases Halts.of_ends ends with ⟨law, result⟩
  rw [← halts.unique law] at reached result
  exact Prod.ext reached result

/-- The steps come one after the other, and the write, if there is one, at the end. -/
theorem update_entries {c : Controller α (Recorded α σ) π} {k : Nat} (running : c.paused = false)
    (halts : c.Halts c.settings.substeps.toNat k) (period elapsed : Duration) :
    (Workcell.update (c.journaledAfter 0) period elapsed).1.entries =
      c.journalOf k ++ (c.writesAfter k).map .called := by
  have off : ¬ Workcell.paused (c.journaledAfter 0) = true := by
    change ¬ c.paused = true
    simp only [running, Bool.false_eq_true, not_false_eq_true]
  have ticked : (Workcell.update (c.journaledAfter 0) period elapsed).1.entries =
      (Workcell.tick (c.journaledAfter 0)).1.entries := by
    rw [Workcell.update, if_neg off]
    rfl
  have ran : Workcell.runSubsteps (Workcell.settings (c.journaledAfter 0)).substeps.toNat
      (c.journaledAfter 0) = _ := halts.run_journaled
  rw [ticked, Workcell.tick, ran, writesAfter]
  cases PlantCall.firstFault (c.stepCalls k) with
  | ok done =>
      have written : (Workcell.write (c.journaledAfter k)).1.entries =
          c.journalOf k ++
            [.called (.write (Plant.write (c.afterSubsteps k).plant.plant).2)] := rfl
      rw [afterSubsteps_plant] at written
      exact written
  | error fault => exact (List.append_nil _).symm

theorem isTick_of_halts {c : Controller α (Recorded α σ) π} {k : Nat}
    (several : 1 ≤ c.settings.substeps.toNat) (running : c.paused = false)
    (halts : c.Halts c.settings.substeps.toNat k) (period elapsed : Duration) :
    c.Ticks period elapsed k (c.writesAfter k) := by
  have positive : 1 ≤ k := by
    by_contra none
    have full := halts.full (by omega)
    omega
  have same : Prod.map Journaled.cell id (Workcell.update (c.journaledAfter 0) period elapsed) =
      c.update period elapsed := Journaled.update_cell (c.journaledAfter 0) period elapsed
  have journal := update_entries running halts period elapsed
  rcases tick_outside halts with ⟨sink, reference⟩
  refine ⟨(Workcell.update (c.journaledAfter 0) period elapsed).1.entries, ?_, ?_⟩
  · rw [← same]
    rfl
  rw [update_of_running running]
  exact {
    one_le := positive
    le_substeps := halts.le
    calls_eq := tick_calls halts
    journal_eq := journal
    failure_last := by
      intro i inside failed
      refine ⟨halts.failure_last i inside failed, ?_⟩
      by_contra written
      exact failed ((writesAfter_ne_nil_iff c k).mp written i inside)
    write_eq := by
      cases ended : PlantCall.firstFault (c.stepCalls k) with
      | ok done => exact .inr (by simp only [writesAfter, ended])
      | error fault => exact .inl (by simp only [writesAfter, ended])
    write_iff := by
      rw [writesAfter_ne_nil_iff]
      exact ⟨fun succeeded => ⟨halts.full succeeded, succeeded⟩, And.right⟩
    result_eq := tick_result halts
    sink_eq := sink.trans (afterSubsteps_sink c k)
    reference_eq := by
      have last : k = k - 1 + 1 := by omega
      rw [show c.tick.1.reference = _ from reference, last, afterSubsteps_reference]
      rfl }

/-! ## The law of an update -/

/-- The law of an update.  For every plant, whichever of its calls fail, an
update of a running controller is a tick of `k` steps and the given writes, in
the order of a journal whose entries are the actions they name.
These are the same for every length of the outer cycle, for every wall time, and
for every past that leaves the plant, the target and the settings as they are. -/
theorem update_isTick {c : Controller α (Recorded α σ) π} (reachable : c.Reachable)
    (running : c.paused = false) :
    (∀ d : Controller α (Recorded α σ) π, d.ActsAsNamed) ∧ ∃ k writes,
      (∀ period elapsed, c.Ticks period elapsed k writes) ∧
      ∀ past stats period elapsed, (c.withPast past stats).Ticks period elapsed k writes ∧
        (c.withPast past stats).stepCalls k = c.stepCalls k := by
  refine ⟨actsAsNamed, ?_⟩
  have several : 1 ≤ c.settings.substeps.toNat := reachable.consistent.substeps_pos
  rcases exists_halts c c.settings.substeps.toNat with ⟨k, halts, -, -⟩
  refine ⟨k, c.writesAfter k, ?_, ?_⟩
  · intro period elapsed
    exact isTick_of_halts several running halts period elapsed
  · intro past stats period elapsed
    have again := isTick_of_halts (c := c.withPast past stats) several running
      (halts.withPast past stats) period elapsed
    rw [withPast_writesAfter] at again
    exact ⟨again, withPast_stepCalls c past stats k⟩

theorem position_checks : (Config.position 3 : Config Float).check =
    .ok ⟨⟨1, 1⟩, 3, ⟨20000000⟩, 1, ⟨3000000000⟩⟩ := by
  rfl

/-- A new controller with three sub-steps per tick, over a plant that fails at
its second step. -/
def overFailingPlant :
    Controller Float (Recorded Float (ScriptedPlant Float)) (PoseHistory Float) where
  config := .position 3
  settings := ⟨⟨1, 1⟩, 3, ⟨20000000⟩, 1, ⟨3000000000⟩⟩
  plant := ⟨{ pose := .identity, gain := 0.5, failOnCall := some 2 }, []⟩
  sink := ⟨[]⟩
  reference := .create "base_link" .identity ⟨3000000000⟩

theorem overFailingPlant_reachable : overFailingPlant.Reachable := by
  have created : create (.position 3) overFailingPlant.plant overFailingPlant.sink =
      .ok overFailingPlant := by
    rw [create, position_checks]
    rfl
  exact .create created

theorem update_isTick_overFailingPlant :
    overFailingPlant.Reachable ∧ overFailingPlant.paused = false ∧
      ∃ k writes, ∀ period elapsed, overFailingPlant.Ticks period elapsed k writes := by
  rcases update_isTick overFailingPlant_reachable rfl with ⟨-, k, writes, law, -⟩
  exact ⟨overFailingPlant_reachable, rfl, k, writes, law⟩

end Controller
end MotionControl
