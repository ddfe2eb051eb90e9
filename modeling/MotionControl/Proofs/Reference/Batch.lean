import MotionControl.Proofs.Geometry.Construction
import MotionControl.Reference

/-!
# Batches of events

The handles given to event sources are copies of one name for the reference, so
whatever arrives between two publications is a single list of events, in the
order in which they took hold and regardless of the handles they came through.

`IsBatch` says what such a list does.  Its answers depend on the events and the
base frame alone.  Only the target moves, and it ends where the last event that
takes effect would have put it on its own: twists displace the pose that was
published before the batch, so an earlier event leaves no trace in the result.
-/

namespace MotionControl

variable {α : Type} [Scalar α]

/-- Finite position, and an orientation that can be normalised. -/
def PoseStamped.Usable (message : PoseStamped α) : Prop :=
  (∀ component ∈ message.position.toList, Scalar.isFinite component = true) ∧
    ∃ size rotation, message.orientation.Normalises size rotation

/-- All six components are finite. -/
def Twist.Usable (twist : Twist α) : Prop :=
  ∀ component ∈ twist.linear.toList ++ twist.angular.toList, Scalar.isFinite component = true

theorem Twist.isValid_iff (twist : Twist α) : twist.isValid = true ↔ twist.Usable := by
  rw [isValid, Bool.and_eq_true, Vec3.isFinite_iff, Vec3.isFinite_iff, Usable,
    List.forall_mem_append]

namespace Event

/-- The events that change the target of a reference with the given base frame. -/
def TakesEffect (baseLink : String) : Event α → Prop
  | .targetPose message => message.frame = baseLink ∧ message.Usable
  | .twist command => command.Usable
  | .setTarget _ => True

/-- The outcome of an event.  A foreign frame is reported whatever the values. -/
def IsAnswered (baseLink : String) (outcome : Option Outcome) : Event α → Prop
  | .targetPose message =>
    (outcome = some .frameMismatch ↔ message.frame ≠ baseLink) ∧
      (outcome = some .invalidPose ↔ message.frame = baseLink ∧ ¬ message.Usable) ∧
      (outcome = some .applied ↔ message.frame = baseLink ∧ message.Usable)
  | .twist command =>
    (outcome = some .invalidTwist ↔ ¬ command.Usable) ∧
      (outcome = some .applied ↔ command.Usable)
  | .setTarget _ => outcome = none

end Event

namespace Reference

/-- The event sets the target to the pose.  A twist displaces the last published pose: its linear
part is added to the position, and its turn comes after the rotation, in the base frame, the
product being divided by its length. -/
inductive Sets (reference : Reference α) : Event α → Pose α → Prop where
  | targetPose {message : PoseStamped α} {size : α} {rotation : Quat α}
      (frame : message.frame = reference.baseLink)
      (finite : ∀ component ∈ message.position.toList, Scalar.isFinite component = true)
      (normalised : message.orientation.Normalises size rotation) :
      Sets reference (.targetPose message) ⟨message.position, rotation⟩
  | twist {command : Twist α} {turn product : Quat α} (usable : command.Usable)
      (turns : turn.IsRollPitchYaw command.angular)
      (product_eq : product = turn * reference.lastPublished.rotation) :
      Sets reference (.twist command)
        { position := reference.lastPublished.position + command.linear
          rotation := product.unscale product.norm }
  | setTarget (pose : Pose α) : Sets reference (.setTarget pose) pose

theorem Sets.takesEffect {reference : Reference α} {event : Event α} {pose : Pose α}
    (sets : reference.Sets event pose) : event.TakesEffect reference.baseLink := by
  cases sets with
  | targetPose frame finite normalised => exact ⟨frame, finite, _, _, normalised⟩
  | twist usable turns product_eq => exact usable
  | setTarget => trivial

/-- The published pose and the base frame are all that an event reads. -/
theorem Sets.congr {first second : Reference α} {event : Event α} {pose : Pose α}
    (baseLink : second.baseLink = first.baseLink)
    (lastPublished : second.lastPublished = first.lastPublished)
    (sets : first.Sets event pose) : second.Sets event pose := by
  cases sets with
  | targetPose frame finite normalised =>
      exact .targetPose (frame.trans baseLink.symm) finite normalised
  | twist usable turns product_eq =>
      rw [← lastPublished]
      exact .twist usable turns (by rw [product_eq, lastPublished])
  | setTarget => exact .setTarget pose

theorem sets_advance (reference : Reference α) {command : Twist α} (usable : command.Usable) :
    reference.Sets (.twist command) (advance reference.lastPublished command) :=
  .twist usable ((Quat.isRollPitchYaw_iff_eq _ _).mpr rfl) rfl

/-! ## One event -/

theorem poseOf?_eq_some_iff (message : PoseStamped α) (pose : Pose α) :
    poseOf? message = some pose ↔
      (∀ component ∈ message.position.toList, Scalar.isFinite component = true) ∧
        message.position = pose.position ∧
        ∃ size, message.orientation.Normalises size pose.rotation := by
  rw [← Vec3.isFinite_iff, ← Quat.ofComponents?_eq_some_iff]
  cases normalised : message.orientation.ofComponents? with
  | none => simp [poseOf?, normalised]
  | some rotation =>
      cases finite : message.position.isFinite with
      | false => simp [poseOf?, normalised, finite]
      | true => simp [poseOf?, normalised, finite, Pose.ext_iff]

theorem poseOf?_eq_none_iff (message : PoseStamped α) :
    poseOf? message = none ↔ ¬ message.Usable := by
  rw [PoseStamped.Usable, ← Vec3.isFinite_iff, exists_comm]
  simp only [← Quat.ofComponents?_eq_some_iff]
  cases normalised : message.orientation.ofComponents? with
  | none => simp [poseOf?, normalised]
  | some rotation => simp [poseOf?, normalised]

/-- What one event does to a reference and how it is answered. -/
structure IsHandled (before : Reference α) (event : Event α) (after : Reference α)
    (outcome : Option Outcome) : Prop where
  lastPublished_eq : after.lastPublished = before.lastPublished
  baseLink_eq : after.baseLink = before.baseLink
  answered : event.IsAnswered before.baseLink outcome
  sets : event.TakesEffect before.baseLink → before.Sets event after.target
  kept : ¬ event.TakesEffect before.baseLink → after.target = before.target

namespace IsHandled

variable {before : Reference α} {event : Event α} {outcome : Option Outcome}

theorem of_sets {pose : Pose α} (sets : before.Sets event pose)
    (answered : event.IsAnswered before.baseLink outcome) :
    before.IsHandled event (before.setTarget pose) outcome where
  lastPublished_eq := rfl
  baseLink_eq := rfl
  answered := answered
  sets := fun _ => sets
  kept := fun idle => absurd sets.takesEffect idle

/-- A refusal touches nothing but a throttle. -/
theorem of_refused {frameWarnings valueWarnings : Throttle}
    (idle : ¬ event.TakesEffect before.baseLink)
    (answered : event.IsAnswered before.baseLink outcome) :
    before.IsHandled event
      { before with frameWarnings := frameWarnings, valueWarnings := valueWarnings } outcome where
  lastPublished_eq := rfl
  baseLink_eq := rfl
  answered := answered
  sets := fun effective => absurd effective idle
  kept := fun _ => rfl

end IsHandled

theorem onTargetPose_isHandled (reference : Reference α) (message : PoseStamped α) (now : Nat) :
    reference.IsHandled (.targetPose message) (reference.onTargetPose message now).1
      (some (reference.onTargetPose message now).2.1) := by
  by_cases frame : message.frame = reference.baseLink
  · cases read : poseOf? message with
    | none =>
        have unusable := (poseOf?_eq_none_iff message).mp read
        have answer : (reference.onTargetPose message now).2.1 = .invalidPose := by
          simp [onTargetPose, frame, read]
        have next : (reference.onTargetPose message now).1 =
            (reference.warnValues .unusablePose now).1 := by
          simp [onTargetPose, frame, read]
        rw [answer, next]
        exact .of_refused (fun effective => unusable effective.2)
          (by simp [Event.IsAnswered, frame, unusable])
    | some pose =>
        rcases (poseOf?_eq_some_iff message pose).mp read with
          ⟨finite, position, size, normalised⟩
        have written : pose = ⟨message.position, pose.rotation⟩ := Pose.ext position.symm rfl
        have sets : reference.Sets (.targetPose message) pose := by
          rw [written]
          exact .targetPose frame finite normalised
        have usable : message.Usable := sets.takesEffect.2
        have answer : (reference.onTargetPose message now).2.1 = .applied := by
          simp [onTargetPose, frame, read]
        have next : (reference.onTargetPose message now).1 = reference.setTarget pose := by
          simp [onTargetPose, frame, read]
        rw [answer, next]
        exact .of_sets sets (by simp [Event.IsAnswered, frame, usable])
  · have answer : (reference.onTargetPose message now).2.1 = .frameMismatch := by
      simp [onTargetPose, frame]
    have next : (reference.onTargetPose message now).1 =
        (reference.warnFrame message.frame now).1 := by
      simp [onTargetPose, frame]
    rw [answer, next]
    exact .of_refused (fun effective => frame effective.1) (by simp [Event.IsAnswered, frame])

theorem onTwist_isHandled (reference : Reference α) (command : Twist α) (now : Nat) :
    reference.IsHandled (.twist command) (reference.onTwist command now).1
      (some (reference.onTwist command now).2.1) := by
  by_cases usable : command.Usable
  · have valid := command.isValid_iff.mpr usable
    have answer : (reference.onTwist command now).2.1 = .applied := by
      simp [onTwist, valid]
    have next : (reference.onTwist command now).1 =
        reference.setTarget (advance reference.lastPublished command) := by
      simp [onTwist, valid]
    rw [answer, next]
    exact .of_sets (sets_advance reference usable) (by simp [Event.IsAnswered, usable])
  · have invalid : ¬ command.isValid = true := fun valid => usable (command.isValid_iff.mp valid)
    have answer : (reference.onTwist command now).2.1 = .invalidTwist := by
      simp [onTwist, invalid]
    have next : (reference.onTwist command now).1 =
        (reference.warnValues .unusableTwist now).1 := by
      simp [onTwist, invalid]
    rw [answer, next]
    exact .of_refused usable (by simp [Event.IsAnswered, usable])

theorem handle_isHandled (reference : Reference α) (event : Event α) (now : Nat) :
    reference.IsHandled event (reference.handle event now).1 (reference.handle event now).2.1 := by
  cases event with
  | targetPose message => exact onTargetPose_isHandled reference message now
  | twist command => exact onTwist_isHandled reference command now
  | setTarget pose => exact .of_sets (.setTarget pose) rfl

theorem Sets.handle_target {reference : Reference α} {event : Event α} {pose : Pose α}
    (sets : reference.Sets event pose) (now : Nat) :
    (reference.handle event now).1.target = pose := by
  have again := (handle_isHandled reference event now).sets sets.takesEffect
  generalize (reference.handle event now).1.target = reached at again
  cases sets with
  | targetPose frame finite normalised =>
      cases again with
      | targetPose frame' finite' normalised' =>
          have made := (Quat.ofComponents?_eq_some_iff _ _).mpr ⟨_, normalised⟩
          have made' := (Quat.ofComponents?_eq_some_iff _ _).mpr ⟨_, normalised'⟩
          rw [Option.some_inj.mp (made'.symm.trans made)]
  | twist usable turns product_eq =>
      cases again with
      | twist usable' turns' product_eq' =>
          rw [Quat.isRollPitchYaw_iff_eq] at turns turns'
          rw [product_eq', turns', ← turns, ← product_eq]
  | setTarget =>
      cases again
      rfl

/-! ## Any number of events -/

/-- Handle the events of a list in order, each at its time. -/
def handleAll (reference : Reference α) :
    List (Event α × Nat) → Reference α × List (Option Outcome × List (LogEntry α))
  | [] => (reference, [])
  | (event, now) :: rest =>
    let (next, answer) := reference.handle event now
    let (last, answers) := next.handleAll rest
    (last, answer :: answers)

/-- What a batch of events does to a reference, and its answers in order. -/
structure IsBatch (before : Reference α) (events : List (Event α × Nat)) (after : Reference α)
    (outcomes : List (Option Outcome)) : Prop where
  lastPublished_eq : after.lastPublished = before.lastPublished
  baseLink_eq : after.baseLink = before.baseLink
  answered : List.Forall₂ (fun sent outcome => sent.1.IsAnswered before.baseLink outcome)
    events outcomes
  target_of_last : ∀ front event now back, events = front ++ (event, now) :: back →
    event.TakesEffect before.baseLink →
    (∀ later ∈ back, ¬ later.1.TakesEffect before.baseLink) →
    before.Sets event after.target ∧ (before.handle event now).1.target = after.target
  target_of_none : (∀ sent ∈ events, ¬ sent.1.TakesEffect before.baseLink) →
    after.target = before.target

theorem handleAll_isBatch (reference : Reference α) (events : List (Event α × Nat)) :
    reference.IsBatch events (reference.handleAll events).1
      ((reference.handleAll events).2.map Prod.fst) := by
  induction events generalizing reference with
  | nil =>
      exact {
        lastPublished_eq := rfl
        baseLink_eq := rfl
        answered := .nil
        target_of_last := by
          intro front event now back split
          simp at split
        target_of_none := fun _ => rfl }
  | cons sent rest inductionHypothesis =>
      rcases sent with ⟨event, now⟩
      have first := handle_isHandled reference event now
      have others := inductionHypothesis (reference.handle event now).1
      exact {
        lastPublished_eq := others.lastPublished_eq.trans first.lastPublished_eq
        baseLink_eq := others.baseLink_eq.trans first.baseLink_eq
        answered := by
          have tail := others.answered
          rw [first.baseLink_eq] at tail
          exact .cons first.answered tail
        target_of_last := by
          intro front event' now' back split effective idle
          have reaches : reference.Sets event'
              ((reference.handleAll ((event, now) :: rest)).1.target) := by
            -- either this event is the last effective one, or it leaves no trace
            rcases front with _ | ⟨head, front⟩
            · cases split
              have kept := others.target_of_none (by rwa [first.baseLink_eq])
              have sets := first.sets effective
              rwa [← kept] at sets
            · injection split with _ split
              have later := others.target_of_last front event' now' back split
                (by rwa [first.baseLink_eq]) (by rwa [first.baseLink_eq])
              exact later.1.congr first.baseLink_eq.symm first.lastPublished_eq.symm
          exact ⟨reaches, reaches.handle_target now'⟩
        target_of_none := by
          intro idle
          have here := first.kept (idle (event, now) List.mem_cons_self)
          have there := others.target_of_none fun later member => by
            rw [first.baseLink_eq]
            exact idle later (List.mem_cons_of_mem _ member)
          exact there.trans here }

end Reference
end MotionControl
