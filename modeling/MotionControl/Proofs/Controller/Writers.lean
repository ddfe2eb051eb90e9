import MotionControl.Proofs.Controller.Lifecycle
import MotionControl.Proofs.Controller.Tick
import MotionControl.Proofs.Reference.Batch

/-!
# Who writes the two shared poses

Event sources and the control loop share the target and the last published pose.
The target is written by events that take effect and by a successful start
(`Retargets`), the last published pose by a successful start and by the
publications of the loop (`Records`).  Every operation of a controller is either
one of these or leaves the pose alone, so after any run the target is the one
that its last writer left.
-/

namespace MotionControl
namespace Controller

variable {α σ π : Type}

section Published

variable [Sink α π]

/-- The poses were handed to the sink in order, and the last one is recorded as
the last published. -/
structure Published (before after : Controller α σ π) (poses : List (Pose α)) : Prop where
  sink_eq : after.sink = poses.foldl Sink.publish before.sink
  lastPublished_eq : after.reference.lastPublished =
    poses.getLast?.getD before.reference.lastPublished

namespace Published

theorem refl (c : Controller α σ π) : Published c c [] :=
  ⟨rfl, rfl⟩

theorem trans {first second third : Controller α σ π} {front back : List (Pose α)}
    (early : Published first second front) (late : Published second third back) :
    Published first third (front ++ back) where
  sink_eq := by rw [List.foldl_append, ← early.sink_eq, late.sink_eq]
  lastPublished_eq := by
    rw [late.lastPublished_eq, early.lastPublished_eq, List.getLast?_append]
    cases back.getLast? <;> rfl

end Published

end Published

variable [Scalar α] [Plant α σ] [Sink α π]

/-- The operation sets the target to the pose. -/
inductive Retargets (c : Controller α σ π) : Operation α → Pose α → Prop where
  | start {plant : σ} (synced : Plant.sync c.plant = (plant, .ok ())) :
      Retargets c .start (Plant.pose plant)
  | event {event : Event α} {now : Nat} {pose : Pose α} (sets : c.reference.Sets event pose) :
      Retargets c (.event event now) pose

/-- The poses that the plant has at the first `k` sub-steps of a tick. -/
def posesUntil (c : Controller α σ π) (k : Nat) : List (Pose α) :=
  (List.range k).map fun i => Plant.pose (c.afterSubsteps i).plant

/-- What the operation makes of the last published pose.  An update that is not
paused publishes at each sub-step that it makes, and makes at least one. -/
def Records (before after : Controller α σ π) : Operation α → Prop
  | .start => after.reference.lastPublished =
      match Plant.sync before.plant with
      | (plant, .ok ()) => Plant.pose plant
      | (_, .error _) => before.reference.lastPublished
  | .measure => Published before after [Plant.pose before.plant]
  | .update _ _ =>
    (before.paused = true → Published before after [Plant.pose before.plant]) ∧
      (before.paused = false → ∃ k ≤ before.settings.substeps.toNat,
        (0 < before.settings.substeps.toNat → 0 < k) ∧
          Published before after (before.posesUntil k))
  | .stop | .pause | .resume | .reconfigure _ _ | .event _ _ =>
      after.reference.lastPublished = before.reference.lastPublished

/-! ## The target -/

theorem update_target (c : Controller α σ π) (period elapsed : Duration) :
    (c.update period elapsed).1.reference.target = c.reference.target := by
  rw [update_reference]

theorem Retargets.perform_target {c : Controller α σ π} {operation : Operation α} {pose : Pose α}
    (retargets : c.Retargets operation pose) :
    (c.perform operation).1.reference.target = pose := by
  cases retargets with
  | start synced =>
      rw [perform_start_of_synced synced]
      rfl
  | event sets => exact sets.handle_target _

theorem perform_target_of_not {c : Controller α σ π} {operation : Operation α}
    (idle : ∀ pose, ¬ c.Retargets operation pose) :
    (c.perform operation).1.reference.target = c.reference.target := by
  cases operation with
  | start =>
      cases synced : Plant.sync c.plant with
      | mk plant result =>
          cases result with
          | ok done => exact absurd (.start synced) (idle (Plant.pose plant))
          | error fault => rw [perform_start_of_fault synced]
  | update period elapsed => exact update_target c period elapsed
  | reconfigure iterations errorScale =>
      cases checked : (c.retuned iterations errorScale).check with
      | ok settings => rw [perform_reconfigure_of_ok checked]
      | error problem => rw [perform_reconfigure_of_error checked]
  | event event now =>
      have handled := Reference.handle_isHandled c.reference event now
      refine handled.kept fun effective => ?_
      exact idle _ (.event (handled.sets effective))
  | stop | measure | pause | resume => rfl

/-! ## The last published pose -/

theorem substep_published (c : Controller α σ π) :
    Published c c.substep.1 [Plant.pose c.plant] where
  sink_eq := substep_sink c
  lastPublished_eq := by
    rw [substep_reference]
    rfl

theorem afterSubsteps_published (c : Controller α σ π) (k : Nat) :
    Published c (c.afterSubsteps k) (c.posesUntil k) := by
  induction k with
  | zero => exact .refl c
  | succ k inductionHypothesis =>
      have next := inductionHypothesis.trans (substep_published (c.afterSubsteps k))
      rw [posesUntil, List.range_succ, List.map_append]
      exact next

theorem tick_published (c : Controller α σ π) :
    ∃ k ≤ c.settings.substeps.toNat, (0 < c.settings.substeps.toNat → 0 < k) ∧
      Published c c.tick.1 (c.posesUntil k) := by
  rcases run_afterSubsteps c.settings.substeps.toNat c with ⟨k, reached, ⟨bound, -, ended⟩⟩
  have steps := afterSubsteps_published c k
  rw [← reached] at steps
  refine ⟨k, bound, ?_, ?_⟩
  · intro several
    rcases ended with ⟨full, -, -⟩ | ⟨last, fault, count, -, -⟩
    · omega
    · omega
  · -- the write after the last sub-step publishes nothing
    rw [tick_eq]
    cases stepped : c.runSubsteps c.settings.substeps.toNat with
    | mk next result =>
        rw [stepped] at steps
        cases result with
        | ok done => exact ⟨steps.sink_eq, steps.lastPublished_eq⟩
        | error fault => exact steps

theorem perform_records (c : Controller α σ π) (operation : Operation α) :
    Records c (c.perform operation).1 operation := by
  cases operation with
  | start =>
      cases synced : Plant.sync c.plant with
      | mk plant result =>
          cases result with
          | ok done =>
              rw [perform_start_of_synced synced]
              simp only [Records, synced]
              rfl
          | error fault =>
              rw [perform_start_of_fault synced]
              simp only [Records, synced]
  | update period elapsed =>
      change Records c (c.update period elapsed).1 (.update period elapsed)
      constructor
      · intro paused
        rw [update_of_paused paused]
        exact ⟨rfl, rfl⟩
      · intro running
        rcases tick_published c with ⟨k, bound, several, published⟩
        rw [update_of_running running]
        exact ⟨k, bound, several, published.sink_eq, published.lastPublished_eq⟩
  | reconfigure iterations errorScale =>
      cases checked : (c.retuned iterations errorScale).check with
      | ok settings =>
          rw [perform_reconfigure_of_ok checked]
          rfl
      | error problem =>
          rw [perform_reconfigure_of_error checked]
          rfl
  | measure => exact ⟨rfl, rfl⟩
  | event event now => exact (Reference.handle_isHandled c.reference event now).lastPublished_eq
  | stop | pause | resume => rfl

/-! ## Runs -/

theorem run_cons (c : Controller α σ π) (operation : Operation α) (rest : List (Operation α)) :
    (c.run (operation :: rest)).1 = ((c.perform operation).1.run rest).1 :=
  rfl

/-- No operation of the list writes the target when its turn comes. -/
def Untargeted (c : Controller α σ π) (operations : List (Operation α)) : Prop :=
  ∀ front operation back, operations = front ++ operation :: back →
    ∀ pose, ¬ (c.run front).1.Retargets operation pose

theorem run_target_of_untargeted {c : Controller α σ π} {operations : List (Operation α)}
    (untargeted : c.Untargeted operations) :
    (c.run operations).1.reference.target = c.reference.target := by
  induction operations generalizing c with
  | nil => rfl
  | cons operation rest inductionHypothesis =>
      have here : (c.perform operation).1.reference.target = c.reference.target :=
        perform_target_of_not (untargeted [] operation rest rfl)
      have others : (c.perform operation).1.Untargeted rest := by
        intro front later back split pose
        exact untargeted (operation :: front) later back (by rw [split]; rfl) pose
      rw [run_cons, inductionHypothesis others, here]

/-- What a run does to the two shared poses: the target is the one its last
writer set, and each operation treats the last published pose as `Records`
says. -/
structure IsHistory (c : Controller α σ π) (operations : List (Operation α)) : Prop where
  target_of_last : ∀ front operation back pose, operations = front ++ operation :: back →
    (c.run front).1.Retargets operation pose →
    (c.run (front ++ [operation])).1.Untargeted back →
    (c.run operations).1.reference.target = pose
  target_of_none : c.Untargeted operations →
    (c.run operations).1.reference.target = c.reference.target
  records : ∀ front operation back, operations = front ++ operation :: back →
    Records (c.run front).1 (c.run (front ++ [operation])).1 operation

theorem run_events (c : Controller α σ π) (events : List (Event α × Nat)) :
    c.run (events.map fun sent => .event sent.1 sent.2) =
      ({ c with reference := (c.reference.handleAll events).1 },
        (c.reference.handleAll events).2.map fun answer => ⟨.handled answer.1, answer.2⟩) := by
  induction events generalizing c with
  | nil => rfl
  | cons sent rest inductionHypothesis =>
      have others := inductionHypothesis (c.perform (.event sent.1 sent.2)).1
      simp only [List.map_cons, run, others]
      rfl

/-- The law of the shared poses, in every state of a controller.  A batch of
events changes nothing but the target, which becomes what the last event that
takes effect makes of the published pose; over whole runs the target has no
other writers than events and successful starts, and the last published pose no
others than successful starts and publications. -/
theorem sharedPoses_isHistory (c : Controller α σ π) :
    (∀ events : List (Event α × Nat), ∃ reference outcomes,
      (c.run (events.map fun sent => .event sent.1 sent.2)).1 =
        { c with reference := reference } ∧
      (c.run (events.map fun sent => .event sent.1 sent.2)).2.map Report.answer =
        outcomes.map Answer.handled ∧
      c.reference.IsBatch events reference outcomes) ∧
    ∀ operations, c.IsHistory operations := by
  constructor
  · intro events
    refine ⟨_, _, congrArg Prod.fst (run_events c events), ?_,
      Reference.handleAll_isBatch c.reference events⟩
    rw [run_events, List.map_map, List.map_map]
    rfl
  · intro operations
    exact {
      target_of_last := by
        intro front operation back pose split retargets untargeted
        -- the run passes through the state that the last writer leaves
        have reached : (c.run operations).1 =
            ((c.run (front ++ [operation])).1.run back).1 := by
          have joined : operations = (front ++ [operation]) ++ back := by
            rw [split, List.append_assoc]
            rfl
          rw [joined, run_append]
        rw [reached, run_target_of_untargeted untargeted, run_append]
        exact retargets.perform_target
      target_of_none := run_target_of_untargeted
      records := by
        intro front operation back _
        rw [run_append]
        exact perform_records (c.run front).1 operation }

end Controller
end MotionControl
