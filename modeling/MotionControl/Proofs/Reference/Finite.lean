import MotionControl.Proofs.Controller.Overflow
import MotionControl.Proofs.Double.Overflow
import MotionControl.Proofs.Geometry.Incoming
import MotionControl.Proofs.Reference.Batch

/-!
# Targets that stay finite

The numbers of an event are checked before it takes effect, and that is enough for all
but one of the results.  A rotation that is accepted or turned comes out finite and can
be turned again.  A position that is accepted is taken as it is.  A displaced position,
however, is the sum of two finite ones, and the sum is not looked at: it is finite
exactly if no component overflows.

`IsChecked` says this of one event, and it holds after any number of events before it,
since none of them moves the published pose that a twist displaces.
-/

namespace MotionControl

open Rounded

section Statements

variable {α : Type} [Scalar α]

/-- No component is an infinity or not a number. -/
def Pose.IsFinite (pose : Pose α) : Prop :=
  (∀ component ∈ pose.position.toList, Scalar.isFinite component = true) ∧
    ∀ component ∈ pose.rotation.toList, Scalar.isFinite component = true

/-- The event comes from outside; a target is set outright from within only. -/
def Event.IsIncoming : Event α → Prop
  | .targetPose _ | .twist _ => True
  | .setTarget _ => False

variable [Rounded α]

/-- Of unit length, with more room than any rounding takes. -/
structure Quat.IsNormalised (q : Quat α) : Prop where
  half_le : 1 / 2 ≤ q.real.normSq
  le_threeHalves : q.real.normSq ≤ 3 / 2

/-- No component of the exact sum overflows. -/
def Vec3.SumFits (a b : Vec3 α) : Prop :=
  |value a.x + value b.x| < Double.overflowLimit ∧
    |value a.y + value b.y| < Double.overflowLimit ∧
      |value a.z + value b.z| < Double.overflowLimit

/-- A twist must not displace the published position beyond the largest numbers. -/
def Event.Fits (published : Vec3 α) : Event α → Prop
  | .twist command => published.SumFits command.linear
  | .targetPose _ | .setTarget _ => True

/-- The event is refused and leaves the target, or it is accepted and leaves a finite one,
but for a sum that overflows. -/
structure Reference.IsChecked (before : Reference α) (event : Event α) (after : Reference α)
    (outcome : Option Outcome) : Prop where
  refused : outcome ≠ some .applied → after.target = before.target
  rotation : outcome = some .applied →
    ∀ component ∈ after.target.rotation.toList, Scalar.isFinite component = true
  position : outcome = some .applied →
    ((∀ component ∈ after.target.position.toList, Scalar.isFinite component = true) ↔
      event.Fits before.lastPublished.position)

/-- What is known of a reference after some events have been handled. -/
structure Reference.StaysFinite (initial : Pose α) (events : List (Event α × Nat))
    (reached : Reference α) : Prop where
  lastPublished_eq : reached.lastPublished = initial
  checked : ∀ event now, event.IsIncoming →
    reached.IsChecked event (reached.handle event now).1 (reached.handle event now).2.1
  rotation : ∀ component ∈ reached.target.rotation.toList, Scalar.isFinite component = true
  target : (∀ sent ∈ events, sent.1.TakesEffect reached.baseLink →
    sent.1.Fits initial.position) → reached.target.IsFinite

end Statements

section Abstract

variable {α : Type} [Scalar α]

theorem Event.isApplied_iff {baseLink : String} {outcome : Option Outcome} {event : Event α}
    (incoming : event.IsIncoming) (answered : event.IsAnswered baseLink outcome) :
    outcome = some .applied ↔ event.TakesEffect baseLink := by
  cases event with
  | targetPose message => exact answered.2.2
  | twist command => exact answered.2
  | setTarget pose => cases incoming

theorem Quat.isTame_of_isNormalised [Rounded α] {q : Quat α}
    (finite : ∀ component ∈ q.toList, Scalar.isFinite component = true)
    (normalised : q.IsNormalised) : q.IsTame := by
  rcases normalised with ⟨above, below⟩
  constructor
  · intro component member
    refine ⟨finite component member, ?_⟩
    have square : value component ^ 2 ≤ (2 ^ (1 : ℤ)) ^ 2 :=
      (sq_le_real_normSq member).trans (by norm_num; linarith)
    exact abs_le_of_sq_le_sq square (by positivity)
  · linarith

end Abstract

section Doubles

variable {t : Trigonometry}

/-- A sum of finite vectors is finite exactly if it fits. -/
theorem Vec3.isFinite_add_iff {a b : Vec3 (Doubles t)}
    (left : ∀ component ∈ a.toList, Scalar.isFinite component = true)
    (right : ∀ component ∈ b.toList, Scalar.isFinite component = true) :
    (∀ component ∈ (a + b).toList, Scalar.isFinite component = true) ↔ a.SumFits b := by
  rw [forall_iff] at left right ⊢
  exact and_congr (Double.isFinite_add_iff left.1 right.1)
    (and_congr (Double.isFinite_add_iff left.2.1 right.2.1)
      (Double.isFinite_add_iff left.2.2 right.2.2))

namespace Reference

/-- The published pose has nothing that could spoil a sum or a product. -/
structure IsUsable (reference : Reference (Doubles t)) : Prop where
  position : ∀ component ∈ reference.lastPublished.position.toList,
    Scalar.isFinite component = true
  rotation : reference.lastPublished.rotation.IsTame

section Events

variable {reference : Reference (Doubles t)} {event : Event (Doubles t)}

/-- What an incoming event sets the target to. -/
theorem IsUsable.sets (usable : reference.IsUsable) (sound : SoundTrigonometry (Doubles t))
    {pose : Pose (Doubles t)} (incoming : event.IsIncoming) (sets : reference.Sets event pose) :
    pose.rotation.IsTame ∧
      ((∀ component ∈ pose.position.toList, Scalar.isFinite component = true) ↔
        event.Fits reference.lastPublished.position) := by
  cases sets with
  | targetPose frame finite normalised =>
      have made := (Quat.ofComponents?_eq_some_iff _ _).mpr ⟨_, normalised⟩
      exact ⟨Quat.ofComponents?_isTame made, iff_of_true finite trivial⟩
  | @twist command turn product accepted turns product_eq =>
      rw [Twist.Usable, List.forall_mem_append, Vec3.forall_iff _ command.angular] at accepted
      rcases accepted with ⟨linear, roll, pitch, yaw⟩
      rw [product_eq, (Quat.isRollPitchYaw_iff_eq _ _).mp turns]
      exact ⟨usable.rotation.turned sound roll pitch yaw,
        Vec3.isFinite_add_iff usable.position linear⟩
  | setTarget => cases incoming

theorem IsUsable.handle_isChecked (usable : reference.IsUsable)
    (sound : SoundTrigonometry (Doubles t)) (incoming : event.IsIncoming) (now : Nat) :
    reference.IsChecked event (reference.handle event now).1 (reference.handle event now).2.1 := by
  have handled := handle_isHandled reference event now
  have applied := Event.isApplied_iff incoming handled.answered
  have result (outcome : (reference.handle event now).2.1 = some .applied) :=
    usable.sets sound incoming (handled.sets (applied.mp outcome))
  exact {
    refused := fun outcome => handled.kept fun effective => outcome (applied.mpr effective)
    rotation := fun outcome component member =>
      ((result outcome).1.within component member).isFinite
    position := fun outcome => (result outcome).2 }

/-- A target in order: tame, and finite unless a twist has displaced it too far. -/
structure IsOrdered (reference : Reference (Doubles t)) (fits : Prop) : Prop where
  rotation : reference.target.rotation.IsTame
  position : fits →
    ∀ component ∈ reference.target.position.toList, Scalar.isFinite component = true

theorem IsUsable.handle_isOrdered (usable : reference.IsUsable)
    (sound : SoundTrigonometry (Doubles t)) {fits : Prop} (ordered : reference.IsOrdered fits)
    (incoming : event.IsIncoming) (now : Nat) :
    (reference.handle event now).1.IsOrdered (fits ∧
      (event.TakesEffect reference.baseLink → event.Fits reference.lastPublished.position)) := by
  have handled := handle_isHandled reference event now
  by_cases effective : event.TakesEffect reference.baseLink
  · rcases usable.sets sound incoming (handled.sets effective) with ⟨rotation, position⟩
    exact ⟨rotation, fun inside => position.mpr (inside.2 effective)⟩
  · have kept := handled.kept effective
    exact ⟨kept ▸ ordered.rotation, fun inside => kept ▸ ordered.position inside.1⟩

end Events

theorem IsUsable.handleAll_isOrdered {reference : Reference (Doubles t)}
    (usable : reference.IsUsable) (sound : SoundTrigonometry (Doubles t)) {fits : Prop}
    (ordered : reference.IsOrdered fits) {events : List (Event (Doubles t) × Nat)}
    (incoming : ∀ sent ∈ events, sent.1.IsIncoming) :
    (reference.handleAll events).1.IsOrdered (fits ∧
      ∀ sent ∈ events, sent.1.TakesEffect reference.baseLink →
        sent.1.Fits reference.lastPublished.position) := by
  induction events generalizing reference fits with
  | nil => exact ⟨ordered.rotation, fun inside => ordered.position inside.1⟩
  | cons sent rest inductionHypothesis =>
      rcases sent with ⟨event, now⟩
      rw [List.forall_mem_cons] at incoming
      have handled := handle_isHandled reference event now
      have next : (reference.handle event now).1.IsUsable := by
        constructor
        · rw [handled.lastPublished_eq]
          exact usable.position
        · rw [handled.lastPublished_eq]
          exact usable.rotation
      have first := usable.handle_isOrdered sound ordered incoming.1 now
      have others := inductionHypothesis next first incoming.2
      rw [handled.lastPublished_eq, handled.baseLink_eq] at others
      refine ⟨others.rotation, fun inside => others.position ?_⟩
      rw [List.forall_mem_cons] at inside
      exact ⟨⟨inside.1, inside.2.1⟩, inside.2.2⟩

/-- Over machine doubles, with any library for sine, cosine and angle that is roughly
right: an event from outside is refused without effect or leaves a finite target, as long
as a displaced position does not overflow. -/
theorem handleAll_staysFinite (sound : SoundTrigonometry (Doubles t)) (baseLink : String)
    (window : Duration) {initial : Pose (Doubles t)} (finite : initial.IsFinite)
    (normalised : initial.rotation.IsNormalised) {events : List (Event (Doubles t) × Nat)}
    (incoming : ∀ sent ∈ events, sent.1.IsIncoming) :
    StaysFinite initial events ((create baseLink initial window).handleAll events).1 := by
  have tame := Quat.isTame_of_isNormalised finite.2 normalised
  have batch := handleAll_isBatch (create baseLink initial window) events
  have published : ((create baseLink initial window).handleAll events).1.lastPublished = initial :=
    batch.lastPublished_eq
  have frame : ((create baseLink initial window).handleAll events).1.baseLink = baseLink :=
    batch.baseLink_eq
  have start : (create baseLink initial window).IsUsable := ⟨finite.1, tame⟩
  have ordered : (create baseLink initial window).IsOrdered True := ⟨tame, fun _ => finite.1⟩
  have reached := start.handleAll_isOrdered sound ordered incoming
  have rotation : ∀ component ∈
      ((create baseLink initial window).handleAll events).1.target.rotation.toList,
        Scalar.isFinite component = true :=
    fun component member => (reached.rotation.within component member).isFinite
  have usable : ((create baseLink initial window).handleAll events).1.IsUsable := by
    constructor
    · rw [published]
      exact finite.1
    · rw [published]
      exact tame
  exact {
    lastPublished_eq := published
    checked := fun event now outside => usable.handle_isChecked sound outside now
    rotation := rotation
    target := by
      intro fits
      rw [frame] at fits
      exact ⟨reached.position ⟨trivial, fits⟩, rotation⟩ }

/-- A target pose ahead, and a displacement of the published pose by as much. -/
def aheadEvents : List (Event (Doubles Controller.stillTrigonometry) × Nat) :=
  [(.targetPose ⟨"base_link", ⟨1, 0, 0⟩, .identity, 0⟩, 0), (.twist ⟨⟨1, 0, 0⟩, 0⟩, 0)]

theorem identity_isNormalised : (Quat.identity : Quat (Doubles t)).IsNormalised := by
  have unit : (Quat.identity : Quat (Doubles t)).real = ⟨0, 0, 0, 1⟩ :=
    Quat.ext Rounded.zero.2 Rounded.zero.2 Rounded.zero.2 Rounded.one.2
  constructor <;> rw [unit] <;> norm_num [Quat.normSq]

theorem handleAll_staysFinite_aheadEvents :
    SoundTrigonometry (Doubles Controller.stillTrigonometry) ∧
      (Pose.identity : Pose (Doubles Controller.stillTrigonometry)).IsFinite ∧
      (Quat.identity : Quat (Doubles Controller.stillTrigonometry)).IsNormalised ∧
      (∀ sent ∈ aheadEvents, sent.1.IsIncoming) ∧
      StaysFinite Pose.identity aheadEvents
        ((create "base_link" .identity).handleAll aheadEvents).1 ∧
      ((create "base_link" .identity).handleAll aheadEvents).2.map Prod.fst =
        [some .applied, some .applied] := by
  have finite : (Pose.identity : Pose (Doubles Controller.stillTrigonometry)).IsFinite :=
    ⟨by decide +kernel, by decide +kernel⟩
  have incoming : ∀ sent ∈ aheadEvents, sent.1.IsIncoming := by
    simp [aheadEvents, Event.IsIncoming]
  exact ⟨Controller.stillTrigonometry_sound, finite, identity_isNormalised, incoming,
    handleAll_staysFinite Controller.stillTrigonometry_sound _ _ finite identity_isNormalised
      incoming, by decide +kernel⟩

instance (pose : Pose Float) : Decidable pose.IsFinite :=
  inferInstanceAs (Decidable ((∀ component ∈ _, _) ∧ ∀ component ∈ _, _))

/-- From a finite pose at rest, a finite twist is accepted and leaves an infinite target. -/
theorem overflows_by_twist :
    let initial : Pose Float := ⟨⟨1e308, 0, 0⟩, .identity⟩
    let handled := (create "base_link" initial).handle (.twist ⟨⟨1e308, 0, 0⟩, 0⟩) 0
    initial.IsFinite ∧ handled.2.1 = some .applied ∧
      Scalar.isFinite handled.1.target.position.x = false := by
  decide +kernel

end Reference

end Doubles
end MotionControl
