import MotionControl.PointMass
import MotionControl.Proofs.Geometry.Finite
import MotionControl.Scalar.Double

/-!
# What a point mass has on record

A point mass keeps more than its pose and its twist: the commands that describe
them, the commands written last, and the number of writes.  Three calls update
these, and a step has two reasons to refuse before it changes any of them.
`IsStep` says when a step is refused and for which reason, and `IsCoherent` says
that after any calls the derived values are the ones that pose, twist and history
determine, and that no position outside the workspace was ever taken or written.

All of this holds for every kind of numbers, so nothing here depends on rounding.
A position whose distance is not a number is not outside of any workspace.
-/

namespace MotionControl
namespace PointMass

variable {α : Type} [Scalar α]

/-- The position is farther from the base than the radius of the workspace. -/
def Exceeds (plant : PointMass α) (position : Vec3 α) : Prop :=
  ∃ radius, plant.workspaceRadius = some radius ∧ radius < position.norm

/-- Where a step leads, if it is not refused. -/
def destination (plant : PointMass α) (error : SpatialVector α) (period : Duration) : Pose α :=
  plant.nextPose (plant.nextVelocity error period.seconds) period.seconds

/-- What one step does.  It fails for an error with a component that is not
finite, else for a destination outside of the workspace, and else for nothing; a
step that fails changes nothing, and one that succeeds leads to its
destination. -/
structure IsStep (before : PointMass α) (error : SpatialVector α) (period : Duration)
    (attempt : Attempt α (PointMass α)) : Prop where
  nonFinite_iff : attempt.2 = .error (.nonFinite "cartesian error") ↔
    ∃ component ∈ error.toList, Scalar.isFinite component = false
  outside_iff : ∀ radius, attempt.2 = .error (.outsideWorkspace radius) ↔
    (∀ component ∈ error.toList, Scalar.isFinite component = true) ∧
      before.workspaceRadius = some radius ∧
        radius < (before.destination error period).position.norm
  ok_iff : attempt.2 = .ok () ↔
    (∀ component ∈ error.toList, Scalar.isFinite component = true) ∧
      ¬ before.Exceeds (before.destination error period).position
  failed : attempt.2 ≠ .ok () → attempt.1 = before
  moved : attempt.2 = .ok () → attempt.1 = { before with
    pose := before.destination error period
    velocity := before.nextVelocity error period.seconds
    simulated := .ofState (before.destination error period)
      (before.nextVelocity error period.seconds) }

/-- A point mass as it is set up, before any call. -/
inductive IsNew : PointMass α → Prop where
  | create (interface : Interface) : IsNew (create interface)
  | withPose {plant : PointMass α} (made : IsNew plant) (pose : Pose α) :
      IsNew (plant.withPose pose)
  | withGains {plant : PointMass α} (made : IsNew plant) (stiffness damping : α) :
      IsNew (plant.withGains stiffness damping)
  | withMass {plant : PointMass α} (made : IsNew plant) (mass inertia : α) :
      IsNew (plant.withMass mass inertia)
  | withWorkspaceRadius {plant : PointMass α} (made : IsNew plant) (radius : α) :
      IsNew (plant.withWorkspaceRadius radius)

/-- One call from the control loop, with its arguments. -/
inductive Call (α : Type) where
  | synthesize (error : SpatialVector α) (period : Duration)
  | write
  | sync

def Call.isWrite : Call α → Bool
  | .write => true
  | .synthesize _ _ | .sync => false

def perform (plant : PointMass α) : Call α → Attempt α (PointMass α)
  | .synthesize error period => plant.synthesize error period
  | .write => plant.write
  | .sync => plant.sync

/-- The state after some calls, whether they succeeded or failed. -/
def run (plant : PointMass α) (calls : List (Call α)) : PointMass α :=
  calls.foldl (fun state call => (state.perform call).1) plant

/-- What some calls leave on record.  The simulated commands describe pose and
twist.  Nothing is written before the first write, and afterwards the simulated
commands of the moment of the last one.  Neither the pose nor any commands ever
written are outside of the workspace. -/
structure IsCoherent (first : PointMass α) (calls : List (Call α)) : Prop where
  simulated_eq : (first.run calls).simulated =
    .ofState (first.run calls).pose (first.run calls).velocity
  writes_eq : (first.run calls).writes = calls.countP Call.isWrite
  written_eq_none_iff : (first.run calls).written = none ↔ (first.run calls).writes = 0
  written_of_last : ∀ front back, calls = front ++ .write :: back →
    (∀ call ∈ back, call.isWrite = false) →
    (first.run calls).written = some (first.run front).simulated
  inside : ¬ first.Exceeds (first.run calls).pose.position
  written_inside : ∀ front back command, calls = front ++ .write :: back →
    (first.run (front ++ [.write])).written = some command →
    ¬ first.Exceeds command.positions.linear

/-! ## One call -/

theorem violatedRadius?_eq_some_iff (plant : PointMass α) (position : Vec3 α) (radius : α) :
    plant.violatedRadius? position = some radius ↔
      plant.workspaceRadius = some radius ∧ radius < position.norm := by
  rw [violatedRadius?, Option.filter_eq_some_iff, decide_eq_true_eq]

theorem violatedRadius?_eq_none_iff (plant : PointMass α) (position : Vec3 α) :
    plant.violatedRadius? position = none ↔ ¬ plant.Exceeds position := by
  simp only [Exceeds, ← violatedRadius?_eq_some_iff, Option.eq_none_iff_forall_ne_some, ne_eq,
    not_exists]

theorem synthesize_of_nonFinite {plant : PointMass α} {error : SpatialVector α}
    (unusable : error.isFinite = false) (period : Duration) :
    plant.synthesize error period = (plant, .error (.nonFinite "cartesian error")) := by
  simp only [synthesize, unusable, Bool.not_false, if_true]

theorem synthesize_of_some {plant : PointMass α} {error : SpatialVector α} {period : Duration}
    {radius : α} (finite : error.isFinite = true)
    (violated : plant.violatedRadius? (plant.destination error period).position = some radius) :
    plant.synthesize error period = (plant, .error (.outsideWorkspace radius)) := by
  rw [destination] at violated
  simp only [synthesize, finite, Bool.not_true, Bool.false_eq_true, if_false, violated]

theorem synthesize_of_none {plant : PointMass α} {error : SpatialVector α} {period : Duration}
    (finite : error.isFinite = true)
    (respected : plant.violatedRadius? (plant.destination error period).position = none) :
    plant.synthesize error period =
      ({ plant with
          pose := plant.destination error period
          velocity := plant.nextVelocity error period.seconds
          simulated := .ofState (plant.destination error period)
            (plant.nextVelocity error period.seconds) }, .ok ()) := by
  rw [destination] at respected
  simp only [synthesize, finite, Bool.not_true, Bool.false_eq_true, if_false, respected]
  rfl

theorem synthesize_isStep (plant : PointMass α) (error : SpatialVector α) (period : Duration) :
    plant.IsStep error period (plant.synthesize error period) := by
  have finite_iff := error.isFinite_iff
  have unusable_iff : error.isFinite = false ↔
      ∃ component ∈ error.toList, Scalar.isFinite component = false := by
    rw [← Bool.not_eq_true, finite_iff]
    simp only [not_forall, exists_prop, Bool.not_eq_true]
  have some_iff := plant.violatedRadius?_eq_some_iff (plant.destination error period).position
  have none_iff := plant.violatedRadius?_eq_none_iff (plant.destination error period).position
  cases finite : error.isFinite with
  | false =>
      have unusable := unusable_iff.mp finite
      have notAll : ¬ ∀ component ∈ error.toList, Scalar.isFinite component = true := by
        rw [← finite_iff, finite]
        exact Bool.false_ne_true
      rw [synthesize_of_nonFinite finite]
      exact {
        nonFinite_iff := ⟨fun _ => unusable, fun _ => rfl⟩
        outside_iff := fun radius => ⟨nofun, fun allowed => absurd allowed.1 notAll⟩
        ok_iff := ⟨nofun, fun allowed => absurd allowed.1 notAll⟩
        failed := fun _ => rfl
        moved := nofun }
  | true =>
      have all := finite_iff.mp finite
      have usable : ¬ ∃ component ∈ error.toList, Scalar.isFinite component = false := by
        rw [← unusable_iff, finite]
        exact Bool.false_ne_true.symm
      cases violated : plant.violatedRadius? (plant.destination error period).position with
      | none =>
          have respected := none_iff.mp violated
          rw [synthesize_of_none finite violated]
          exact {
            nonFinite_iff := ⟨nofun, fun unusable => absurd unusable usable⟩
            outside_iff := fun radius =>
              ⟨nofun, fun left => absurd ⟨radius, left.2⟩ respected⟩
            ok_iff := ⟨fun _ => ⟨all, respected⟩, fun _ => rfl⟩
            failed := fun failed => absurd rfl failed
            moved := fun _ => rfl }
      | some bound =>
          have left := (some_iff bound).mp violated
          rw [synthesize_of_some finite violated]
          exact {
            nonFinite_iff := ⟨nofun, fun unusable => absurd unusable usable⟩
            outside_iff := by
              intro radius
              rw [← some_iff, violated]
              constructor
              · rintro ⟨⟩
                exact ⟨all, rfl⟩
              · rintro ⟨-, ⟨⟩⟩
                rfl
            ok_iff := ⟨nofun, fun stays => absurd ⟨bound, left⟩ stays.2⟩
            failed := fun _ => rfl
            moved := nofun }

/-- What holds before a step and where it leads holds after it, whether it is refused or not. -/
theorem IsStep.preserves {before : PointMass α} {error : SpatialVector α} {period : Duration}
    {attempt : Attempt α (PointMass α)} {P : PointMass α → Prop}
    (step : before.IsStep error period attempt) (stays : P before)
    (moves : attempt.2 = .ok () → P { before with
      pose := before.destination error period
      velocity := before.nextVelocity error period.seconds
      simulated := .ofState (before.destination error period)
        (before.nextVelocity error period.seconds) }) : P attempt.1 := by
  by_cases succeeded : attempt.2 = .ok ()
  · rw [step.moved succeeded]
    exact moves succeeded
  · rw [step.failed succeeded]
    exact stays

/-! ## Any number of calls -/

/-- The part of `IsCoherent` that one call preserves, whatever was called before. -/
structure Agrees (plant : PointMass α) : Prop where
  simulated_eq : plant.simulated = .ofState plant.pose plant.velocity
  written_eq_none_iff : plant.written = none ↔ plant.writes = 0
  inside : ¬ plant.Exceeds plant.pose.position

/-- What is on record before the first call. -/
structure IsBlank (plant : PointMass α) : Prop where
  simulated_eq : plant.simulated = .ofState plant.pose plant.velocity
  written_eq : plant.written = none
  writes_eq : plant.writes = 0

theorem IsNew.isBlank {plant : PointMass α} (made : plant.IsNew) : plant.IsBlank := by
  induction made with
  | create interface => exact ⟨rfl, rfl, rfl⟩
  | withPose made pose inductionHypothesis =>
      exact ⟨rfl, inductionHypothesis.written_eq, inductionHypothesis.writes_eq⟩
  | withGains made stiffness damping inductionHypothesis =>
      exact ⟨inductionHypothesis.simulated_eq, inductionHypothesis.written_eq,
        inductionHypothesis.writes_eq⟩
  | withMass made mass inertia inductionHypothesis =>
      exact ⟨inductionHypothesis.simulated_eq, inductionHypothesis.written_eq,
        inductionHypothesis.writes_eq⟩
  | withWorkspaceRadius made radius inductionHypothesis =>
      exact ⟨inductionHypothesis.simulated_eq, inductionHypothesis.written_eq,
        inductionHypothesis.writes_eq⟩

theorem IsNew.agrees {plant : PointMass α} (made : plant.IsNew)
    (inside : ¬ plant.Exceeds plant.pose.position) : plant.Agrees where
  simulated_eq := made.isBlank.simulated_eq
  written_eq_none_iff := by simp only [made.isBlank.written_eq, made.isBlank.writes_eq]
  inside := inside

theorem perform_workspaceRadius (plant : PointMass α) (call : Call α) :
    (plant.perform call).1.workspaceRadius = plant.workspaceRadius := by
  cases call with
  | synthesize error period =>
      exact (plant.synthesize_isStep error period).preserves
        (P := fun after => after.workspaceRadius = plant.workspaceRadius) rfl fun _ => rfl
  | write | sync => rfl

theorem Agrees.perform {plant : PointMass α} (agrees : plant.Agrees) (call : Call α) :
    (plant.perform call).1.Agrees := by
  cases call with
  | synthesize error period =>
      have step := plant.synthesize_isStep error period
      refine step.preserves (P := Agrees) agrees fun succeeded => ?_
      exact ⟨rfl, agrees.written_eq_none_iff, (step.ok_iff.mp succeeded).2⟩
  | write => exact ⟨agrees.simulated_eq, by simp [PointMass.perform, write], agrees.inside⟩
  | sync => exact ⟨rfl, agrees.written_eq_none_iff, agrees.inside⟩

theorem run_append (plant : PointMass α) (front back : List (Call α)) :
    plant.run (front ++ back) = (plant.run front).run back :=
  List.foldl_append

theorem run_workspaceRadius (plant : PointMass α) (calls : List (Call α)) :
    (plant.run calls).workspaceRadius = plant.workspaceRadius := by
  induction calls generalizing plant with
  | nil => rfl
  | cons call rest inductionHypothesis =>
      exact (inductionHypothesis _).trans (perform_workspaceRadius plant call)

theorem run_exceeds (plant : PointMass α) (calls : List (Call α)) (position : Vec3 α) :
    (plant.run calls).Exceeds position ↔ plant.Exceeds position := by
  rw [Exceeds, run_workspaceRadius, Exceeds]

theorem Agrees.run {plant : PointMass α} (agrees : plant.Agrees) (calls : List (Call α)) :
    (plant.run calls).Agrees := by
  induction calls generalizing plant with
  | nil => exact agrees
  | cons call rest inductionHypothesis => exact inductionHypothesis (agrees.perform call)

/-- Writes alone touch the written commands and their number. -/
theorem perform_written (plant : PointMass α) {call : Call α} (idle : call.isWrite = false) :
    (plant.perform call).1.written = plant.written ∧
      (plant.perform call).1.writes = plant.writes := by
  cases call with
  | synthesize error period =>
      exact (plant.synthesize_isStep error period).preserves
        (P := fun after => after.written = plant.written ∧ after.writes = plant.writes)
        ⟨rfl, rfl⟩ fun _ => ⟨rfl, rfl⟩
  | write => cases idle
  | sync => exact ⟨rfl, rfl⟩

theorem run_written (plant : PointMass α) {calls : List (Call α)}
    (idle : ∀ call ∈ calls, call.isWrite = false) : (plant.run calls).written = plant.written := by
  induction calls generalizing plant with
  | nil => rfl
  | cons call rest inductionHypothesis =>
      have here := (perform_written plant (idle call List.mem_cons_self)).1
      have others := inductionHypothesis (plant.perform call).1
        fun later member => idle later (List.mem_cons_of_mem call member)
      exact others.trans here

theorem run_writes (plant : PointMass α) (calls : List (Call α)) :
    (plant.run calls).writes = plant.writes + calls.countP Call.isWrite := by
  induction calls generalizing plant with
  | nil => rfl
  | cons call rest inductionHypothesis =>
      have others : (plant.run (call :: rest)).writes =
          (plant.perform call).1.writes + rest.countP Call.isWrite := inductionHypothesis _
      rw [others, List.countP_cons]
      cases kind : call.isWrite with
      | false => simp [perform_written plant kind]
      | true =>
          cases call with
          | write => simp [perform, write, Nat.add_assoc, Nat.add_comm]
          | synthesize | sync => cases kind

/-- The record of a point mass that starts inside of its workspace is coherent
after any calls, and every further step follows the law of a step. -/
theorem run_isCoherent {plant : PointMass α} (made : plant.IsNew)
    (inside : ¬ plant.Exceeds plant.pose.position) (calls : List (Call α)) :
    plant.IsCoherent calls ∧ ∀ error period,
      (plant.run calls).IsStep error period ((plant.run calls).synthesize error period) := by
  refine ⟨?_, (plant.run calls).synthesize_isStep⟩
  have agrees := made.agrees inside
  have started : plant.writes = 0 := by
    clear agrees inside
    induction made with
    | create interface => rfl
    | withPose | withGains | withMass | withWorkspaceRadius => assumption
  have reached := agrees.run calls
  have wrote (front : List (Call α)) :
      (plant.run (front ++ [.write])).written = some (plant.run front).simulated := by
    rw [run_append]
    rfl
  exact {
    simulated_eq := reached.simulated_eq
    writes_eq := by rw [run_writes, started, Nat.zero_add]
    written_eq_none_iff := reached.written_eq_none_iff
    written_of_last := by
      intro front back split idle
      have joined : calls = (front ++ [.write]) ++ back := by
        rw [split, List.append_assoc]
        rfl
      rw [joined, run_append, run_written _ idle, wrote]
    inside := by
      rw [← run_exceeds plant calls]
      exact reached.inside
    written_inside := by
      intro front back command split written
      -- the pose was inside at that moment, and the simulated commands described it
      have moment := agrees.run front
      rw [wrote, moment.simulated_eq] at written
      cases written
      rw [← run_exceeds plant front]
      exact moment.inside }

/-- A stiff body without damping in a workspace of a thousandth. -/
def confinedBody : PointMass Float :=
  ((create .position).withWorkspaceRadius (Scalar.ratio 1 1000)).withGains
    ((1000 : Nat) : Float) 0

/-- A write, a step, another write, and a synchronisation. -/
def confinedRun : List (Call Float) :=
  [.write, .synthesize ⟨⟨1, 0, 0⟩, 0⟩ ⟨20000000⟩, .write, .sync]

theorem run_isCoherent_confinedBody :
    confinedBody.IsNew ∧ ¬ confinedBody.Exceeds confinedBody.pose.position ∧
      confinedBody.IsCoherent confinedRun ∧ ∀ error period,
        (confinedBody.run confinedRun).IsStep error period
          ((confinedBody.run confinedRun).synthesize error period) := by
  have made : confinedBody.IsNew := .withGains (.withWorkspaceRadius (.create .position) _) _ _
  have inside : ¬ confinedBody.Exceeds confinedBody.pose.position := by
    rintro ⟨radius, bounded, less⟩
    cases bounded
    revert less
    decide
  exact ⟨made, inside, run_isCoherent made inside confinedRun⟩

/-- The step of the run leads outside of the workspace and is refused. -/
example : (confinedBody.synthesize ⟨⟨1, 0, 0⟩, 0⟩ ⟨20000000⟩).2 =
    .error (.outsideWorkspace (Scalar.ratio 1 1000)) := by
  decide +kernel

end PointMass
end MotionControl
