import Mathlib.Data.List.Forall2
import MotionControl.Proofs.Reference.Batch
import MotionControl.Scalar.Double

/-!
# Warnings about refused events

A refused event is reported through the throttle of its kind: one throttle stands for
foreign frames, the other for values that cannot be used.  A throttle without a window
lets every warning through.  One whose window outlasts the events lets the first warning
of its kind through and no other, however the two kinds are mixed; `Admits` is this rule,
and it looks at the earlier refusals of the same kind alone.

What is reported has no influence on what is done.  Answers and poses are the same behind
throttles of any window and any memory.
-/

namespace MotionControl

variable {α : Type} [Scalar α]

/-- The kinds of refusal, each of which has a throttle of its own. -/
inductive Refusal where
  /-- The frame is a foreign one, whatever the values. -/
  | frame
  /-- The values cannot be used. -/
  | values
  deriving DecidableEq

/-- The kind of an outcome that refuses an event. -/
def Outcome.refusal? : Outcome → Option Refusal
  | .applied => none
  | .frameMismatch => some .frame
  | .invalidPose | .invalidTwist => some .values

namespace Event

/-- The event is refused, and the entry reports it with no warning swallowed before. -/
inductive Warns (baseLink : String) : Event α → Refusal → LogEntry α → Prop where
  | foreign {message : PoseStamped α} (frame : message.frame ≠ baseLink) :
      Warns baseLink (.targetPose message) .frame (.wrongFrame baseLink message.frame 0)
  | unusablePose {message : PoseStamped α} (frame : message.frame = baseLink)
      (unusable : ¬ message.Usable) :
      Warns baseLink (.targetPose message) .values (.unusablePose 0)
  | unusableTwist {command : Twist α} (unusable : ¬ command.Usable) :
      Warns baseLink (.twist command) .values (.unusableTwist 0)

def IsRefused (baseLink : String) (refusal : Refusal) (event : Event α) : Prop :=
  ∃ entry, event.Warns baseLink refusal entry

/-- A warning of the given kind is let through after the given events. -/
def Admits (baseLink : String) (window : Duration) (earlier : List (Event α × Nat))
    (refusal : Refusal) : Prop :=
  window = 0 ∨ ∀ sent ∈ earlier, ¬ sent.1.IsRefused baseLink refusal

/-- No two of the events are a whole window apart. -/
def Outlasts (window : Duration) (events : List (Event α × Nat)) : Prop :=
  ∀ first ∈ events, ∀ second ∈ events, second.2 < first.2 + window.nanoseconds

/-- What is logged for an event that comes after the given ones. -/
structure IsLogged (baseLink : String) (window : Duration) (earlier : List (Event α × Nat))
    (event : Event α) (log : List (LogEntry α)) : Prop where
  warned : ∀ refusal entry, event.Warns baseLink refusal entry →
    Admits baseLink window earlier refusal → log = [entry]
  swallowed : ∀ refusal, event.IsRefused baseLink refusal →
    ¬ Admits baseLink window earlier refusal → log = []
  silent : (∀ refusal, ¬ event.IsRefused baseLink refusal) → log = []

/-- The outcome of an event tells whether it is refused, and for which reason. -/
theorem IsAnswered.isRefused_iff {baseLink : String} {outcome : Option Outcome} {event : Event α}
    (answered : event.IsAnswered baseLink outcome) (refusal : Refusal) :
    event.IsRefused baseLink refusal ↔ outcome.bind Outcome.refusal? = some refusal := by
  cases event with
  | targetPose message =>
      rcases answered with ⟨mismatch, invalid, applied⟩
      by_cases frame : message.frame = baseLink
      · by_cases usable : message.Usable
        · rw [applied.mpr ⟨frame, usable⟩]
          refine iff_of_false ?_ (Option.some_ne_none refusal).symm
          rintro ⟨entry, warns⟩
          cases warns with
          | foreign foreign => exact foreign frame
          | unusablePose _ unusable => exact unusable usable
        · rw [invalid.mpr ⟨frame, usable⟩]
          constructor
          · rintro ⟨entry, warns⟩
            cases warns with
            | foreign foreign => exact absurd frame foreign
            | unusablePose => rfl
          · intro same
            cases same
            exact ⟨_, .unusablePose frame usable⟩
      · rw [mismatch.mpr frame]
        constructor
        · rintro ⟨entry, warns⟩
          cases warns with
          | foreign => rfl
          | unusablePose same => exact absurd same frame
        · intro same
          cases same
          exact ⟨_, .foreign frame⟩
  | twist command =>
      by_cases usable : command.Usable
      · rw [answered.2.mpr usable]
        refine iff_of_false ?_ (Option.some_ne_none refusal).symm
        rintro ⟨entry, ⟨⟩⟩
        contradiction
      · rw [answered.1.mpr usable]
        constructor
        · rintro ⟨entry, ⟨⟩⟩
          rfl
        · intro same
          cases same
          exact ⟨_, .unusableTwist usable⟩
  | setTarget pose =>
      rw [show outcome = none from answered]
      refine iff_of_false ?_ (Option.some_ne_none refusal).symm
      rintro ⟨entry, ⟨⟩⟩

theorem takesEffect_or_isRefused (baseLink : String) (event : Event α) :
    event.TakesEffect baseLink ∨ ∃ refusal, event.IsRefused baseLink refusal := by
  rw [or_iff_not_imp_left]
  intro idle
  cases event with
  | targetPose message =>
      by_cases frame : message.frame = baseLink
      · exact ⟨.values, _, .unusablePose frame fun usable => idle ⟨frame, usable⟩⟩
      · exact ⟨.frame, _, .foreign frame⟩
  | twist command => exact ⟨.values, _, .unusableTwist idle⟩
  | setTarget pose => exact absurd trivial idle

/-- An event is refused for one reason and reported in one way; a foreign frame is a
reason of its own, whatever the values. -/
theorem Warns.unique {baseLink : String} {event : Event α} {refusal other : Refusal}
    {entry entry' : LogEntry α} (warns : event.Warns baseLink refusal entry)
    (warns' : event.Warns baseLink other entry') : refusal = other ∧ entry = entry' := by
  cases warns with
  | foreign foreign =>
      cases warns' with
      | foreign => exact ⟨rfl, rfl⟩
      | unusablePose frame => exact absurd frame foreign
  | unusablePose frame =>
      cases warns' with
      | foreign foreign => exact absurd frame foreign
      | unusablePose => exact ⟨rfl, rfl⟩
  | unusableTwist =>
      cases warns'
      exact ⟨rfl, rfl⟩

theorem TakesEffect.not_isRefused {baseLink : String} {event : Event α}
    (effective : event.TakesEffect baseLink) (refusal : Refusal) :
    ¬ event.IsRefused baseLink refusal := by
  rintro ⟨entry, warns⟩
  cases warns with
  | foreign foreign => exact foreign effective.1
  | unusablePose _ unusable => exact unusable effective.2
  | unusableTwist unusable => exact unusable effective

end Event

/-! ## One throttle -/

/-- The throttle has been asked for each refusal of its kind among the given events, and
for nothing else. -/
structure Throttle.Attends (throttle : Throttle) (baseLink : String) (window : Duration)
    (events : List (Event α × Nat)) (refusal : Refusal) : Prop where
  window_eq : throttle.window = window
  unused : (∀ sent ∈ events, ¬ sent.1.IsRefused baseLink refusal) → throttle.last = none
  used : (∃ sent ∈ events, sent.1.IsRefused baseLink refusal) →
    ∃ sent ∈ events, throttle.last = some sent.2
  suppressed : Event.Admits baseLink window events refusal → throttle.suppressed = 0

namespace Throttle

section Check

variable {throttle : Throttle} {now : Nat}

theorem check_of_ready
    (ready : ∀ previous, throttle.last = some previous →
      throttle.window.nanoseconds ≤ now - previous) :
    throttle.check now =
      ({ throttle with last := some now, suppressed := 0 }, some throttle.suppressed) := by
  cases last : throttle.last with
  | none => simp [check, last]
  | some previous => simp [check, last, ready previous last]

theorem check_of_waiting {previous : Nat} (last : throttle.last = some previous)
    (waiting : now - previous < throttle.window.nanoseconds) :
    throttle.check now = ({ throttle with suppressed := throttle.suppressed + 1 }, none) := by
  simp [check, last, waiting]

end Check

namespace Attends

variable {throttle : Throttle} {baseLink : String} {window : Duration} {refusal : Refusal}
  {events : List (Event α × Nat)} {event : Event α} {now : Nat}

/-- An event of the other kind, or one that is not refused, leaves the throttle alone. -/
theorem spared (attends : throttle.Attends baseLink window events refusal)
    (other : ¬ event.IsRefused baseLink refusal) :
    throttle.Attends baseLink window (events ++ [(event, now)]) refusal where
  window_eq := attends.window_eq
  unused := fun none => attends.unused fun sent member => none sent (List.mem_append_left _ member)
  used := by
    rintro ⟨sent, member, refused⟩
    have earlier : sent ∈ events := by
      rcases List.mem_append.mp member with earlier | last
      · exact earlier
      · cases List.mem_singleton.mp last
        exact absurd refused other
    rcases attends.used ⟨sent, earlier, refused⟩ with ⟨warned, inside, last⟩
    exact ⟨warned, List.mem_append_left _ inside, last⟩
  suppressed := fun admitted => attends.suppressed <| admitted.imp_right fun none sent member =>
    none sent (List.mem_append_left _ member)

theorem check_of_admits (attends : throttle.Attends baseLink window events refusal)
    (admitted : Event.Admits baseLink window events refusal) :
    throttle.check now = ({ throttle with last := some now, suppressed := 0 }, some 0) := by
  have ready : ∀ previous, throttle.last = some previous →
      throttle.window.nanoseconds ≤ now - previous := by
    intro previous last
    rcases admitted with narrow | none
    · rw [attends.window_eq, narrow]
      exact Nat.zero_le _
    · rw [attends.unused none] at last
      cases last
  rw [check_of_ready ready, attends.suppressed admitted]

theorem check_of_not_admits (attends : throttle.Attends baseLink window events refusal)
    (closed : ¬ Event.Admits baseLink window events refusal)
    (lasting : window = 0 ∨ Event.Outlasts window (events ++ [(event, now)])) :
    throttle.check now = ({ throttle with suppressed := throttle.suppressed + 1 }, none) := by
  rw [Event.Admits, not_or] at closed
  push Not at closed
  rcases closed with ⟨narrow, earlier⟩
  rcases attends.used earlier with ⟨warned, inside, last⟩
  have near := lasting.resolve_left narrow warned (List.mem_append_left _ inside) (event, now)
    (List.mem_append_right _ List.mem_cons_self)
  refine check_of_waiting last ?_
  rw [attends.window_eq]
  have wide : 0 < window.nanoseconds := Nat.pos_of_ne_zero fun none =>
    narrow (congrArg Duration.mk none)
  dsimp only at near
  omega

/-- Being asked for a refusal of its kind, the throttle attends to it. -/
theorem asked (attends : throttle.Attends baseLink window events refusal)
    (refused : event.IsRefused baseLink refusal)
    (lasting : window = 0 ∨ Event.Outlasts window (events ++ [(event, now)])) :
    (throttle.check now).1.Attends baseLink window (events ++ [(event, now)]) refusal := by
  have present : (event, now) ∈ events ++ [(event, now)] :=
    List.mem_append_right _ List.mem_cons_self
  by_cases admitted : Event.Admits baseLink window events refusal
  · rw [attends.check_of_admits admitted]
    exact {
      window_eq := attends.window_eq
      unused := fun none => absurd refused (none _ present)
      used := fun _ => ⟨_, present, rfl⟩
      suppressed := fun _ => rfl }
  · rw [attends.check_of_not_admits admitted lasting]
    rw [Event.Admits, not_or] at admitted
    push Not at admitted
    rcases attends.used admitted.2 with ⟨warned, inside, last⟩
    exact {
      window_eq := attends.window_eq
      unused := fun none => absurd refused (none _ present)
      used := fun _ => ⟨warned, List.mem_append_left _ inside, last⟩
      suppressed := by
        rintro (narrow | none)
        · exact absurd narrow admitted.1
        · exact absurd refused (none _ present) }

end Attends

end Throttle

/-! ## One event -/

namespace Reference

/-- The throttle for refusals of a kind. -/
def throttle (reference : Reference α) : Refusal → Throttle
  | .frame => reference.frameWarnings
  | .values => reference.valueWarnings

/-- A refusal is put to the throttle of its kind, and what that lets through is logged. -/
structure Consults (before : Reference α) (now : Nat) (refusal : Refusal) (entry : LogEntry α)
    (after : Reference α) (log : List (LogEntry α)) : Prop where
  asked : after.throttle refusal = ((before.throttle refusal).check now).1
  spared : ∀ other, other ≠ refusal → after.throttle other = before.throttle other
  logged : ∃ report : Nat → LogEntry α, report 0 = entry ∧
    log = ((before.throttle refusal).check now).2.toList.map report

section Handle

variable {reference : Reference α} {event : Event α}

omit [Scalar α] in
theorem warnFrame_consults (reference : Reference α) (got : String) (now : Nat) :
    reference.Consults now .frame (.wrongFrame reference.baseLink got 0)
      (reference.warnFrame got now).1 (reference.warnFrame got now).2 where
  asked := rfl
  spared := fun
    | .frame, other => absurd rfl other
    | .values, _ => rfl
  logged := ⟨_, rfl, rfl⟩

omit [Scalar α] in
theorem warnValues_consults (reference : Reference α) (report : Nat → LogEntry α) (now : Nat) :
    reference.Consults now .values (report 0) (reference.warnValues report now).1
      (reference.warnValues report now).2 where
  asked := rfl
  spared := fun
    | .values, other => absurd rfl other
    | .frame, _ => rfl
  logged := ⟨report, rfl, rfl⟩

theorem handle_of_warns {refusal : Refusal} {entry : LogEntry α}
    (warns : event.Warns reference.baseLink refusal entry) (now : Nat) :
    reference.Consults now refusal entry (reference.handle event now).1
      (reference.handle event now).2.2 := by
  cases warns with
  | @foreign message frame =>
      have handled : reference.handle (.targetPose message) now =
          ((reference.warnFrame message.frame now).1, some .frameMismatch,
            (reference.warnFrame message.frame now).2) := by
        simp [handle, onTargetPose, frame]
      rw [handled]
      exact warnFrame_consults reference message.frame now
  | @unusablePose message frame unusable =>
      have read := (poseOf?_eq_none_iff message).mpr unusable
      have handled : reference.handle (.targetPose message) now =
          ((reference.warnValues .unusablePose now).1, some .invalidPose,
            (reference.warnValues .unusablePose now).2) := by
        simp [handle, onTargetPose, frame, read]
      rw [handled]
      exact warnValues_consults reference .unusablePose now
  | @unusableTwist command unusable =>
      have invalid : ¬ command.isValid = true := fun valid =>
        unusable (command.isValid_iff.mp valid)
      have handled : reference.handle (.twist command) now =
          ((reference.warnValues .unusableTwist now).1, some .invalidTwist,
            (reference.warnValues .unusableTwist now).2) := by
        simp [handle, onTwist, invalid]
      rw [handled]
      exact warnValues_consults reference .unusableTwist now

/-- An event that takes effect asks no throttle. -/
theorem handle_of_takesEffect (effective : event.TakesEffect reference.baseLink) (now : Nat) :
    (∀ refusal, (reference.handle event now).1.throttle refusal = reference.throttle refusal) ∧
      (reference.handle event now).2.2 = [] := by
  have same (pose : Pose α) (refusal : Refusal) :
      (reference.setTarget pose).throttle refusal = reference.throttle refusal := by
    cases refusal <;> rfl
  cases event with
  | targetPose message =>
      cases read : poseOf? message with
      | none => exact absurd effective.2 ((poseOf?_eq_none_iff message).mp read)
      | some pose =>
          have handled : reference.handle (.targetPose message) now =
              (reference.setTarget pose, some .applied, []) := by
            simp [handle, onTargetPose, effective.1, read]
          rw [handled]
          exact ⟨same pose, rfl⟩
  | twist command =>
      have handled : reference.handle (.twist command) now =
          (reference.setTarget (advance reference.lastPublished command), some .applied, []) := by
        simp [handle, onTwist, command.isValid_iff.mpr effective]
      rw [handled]
      exact ⟨same _, rfl⟩
  | setTarget pose => exact ⟨same pose, rfl⟩

end Handle

/-- Both throttles have attended to the given events. -/
structure Attends (reference : Reference α) (baseLink : String) (window : Duration)
    (events : List (Event α × Nat)) : Prop where
  baseLink_eq : reference.baseLink = baseLink
  throttle : ∀ refusal, (reference.throttle refusal).Attends baseLink window events refusal

section Events

variable {baseLink : String} {window : Duration} {earlier : List (Event α × Nat)}
  {event : Event α} {now : Nat}

theorem create_attends (baseLink : String) (initial : Pose α) (window : Duration) :
    (create baseLink initial window).Attends baseLink window [] := by
  refine ⟨rfl, ?_⟩
  rintro (_ | _)
  · exact ⟨rfl, fun _ => rfl, by simp, fun _ => rfl⟩
  · exact ⟨rfl, fun _ => rfl, by simp, fun _ => rfl⟩

/-- One event: the throttles go on attending, and the rule decides what is logged. -/
theorem Attends.handle {reference : Reference α}
    (attends : reference.Attends baseLink window earlier)
    (lasting : window = 0 ∨ Event.Outlasts window (earlier ++ [(event, now)])) :
    (reference.handle event now).1.Attends baseLink window (earlier ++ [(event, now)]) ∧
      event.IsLogged baseLink window earlier (reference.handle event now).2.2 := by
  rcases attends with ⟨rfl, throttles⟩
  have frame := (handle_isHandled reference event now).baseLink_eq
  rcases event.takesEffect_or_isRefused reference.baseLink with effective | ⟨refusal, entry, warns⟩
  · rcases handle_of_takesEffect effective now with ⟨same, log⟩
    have none := effective.not_isRefused
    refine ⟨⟨frame, fun refusal => ?_⟩, ?_⟩
    · rw [same]
      exact (throttles refusal).spared (none refusal)
    · exact {
        warned := fun refusal entry warns => absurd ⟨entry, warns⟩ (none refusal)
        swallowed := fun refusal refused => absurd refused (none refusal)
        silent := fun _ => log }
  · have consults := handle_of_warns warns now
    rcases consults.logged with ⟨report, first, log⟩
    constructor
    · refine ⟨frame, fun other => ?_⟩
      by_cases same : other = refusal
      · rw [same, consults.asked]
        exact (throttles refusal).asked ⟨entry, warns⟩ lasting
      · rw [consults.spared other same]
        refine (throttles other).spared ?_
        rintro ⟨entry', warns'⟩
        exact same (warns'.unique warns).1
    · exact {
        warned := by
          intro refusal' entry' warns' admitted
          rcases warns.unique warns' with ⟨rfl, rfl⟩
          rw [log, (throttles refusal).check_of_admits admitted, ← first]
          rfl
        swallowed := by
          rintro refusal' ⟨entry', warns'⟩ closed
          rcases warns.unique warns' with ⟨rfl, rfl⟩
          rw [log, (throttles refusal).check_of_not_admits closed lasting]
          rfl
        silent := fun none => absurd ⟨entry, warns⟩ (none refusal) }

/-- Any number of events, after some that the throttles have attended to. -/
theorem Attends.handleAll_logged {reference : Reference α}
    (attends : reference.Attends baseLink window earlier) {events : List (Event α × Nat)}
    (lasting : window = 0 ∨ Event.Outlasts window (earlier ++ events))
    {front back : List (Event α × Nat)} (split : events = front ++ (event, now) :: back) :
    ∃ answer, (reference.handleAll events).2[front.length]? = some answer ∧
      event.IsLogged baseLink window (earlier ++ front) answer.2 := by
  induction events generalizing reference earlier front with
  | nil => simp at split
  | cons sent rest inductionHypothesis =>
      rcases sent with ⟨first, time⟩
      have start : window = 0 ∨ Event.Outlasts window (earlier ++ [(first, time)]) :=
        lasting.imp_right fun outlasts one inside two inside' =>
          outlasts one (by simp at inside ⊢; tauto) two (by simp at inside' ⊢; tauto)
      rcases attends.handle start with ⟨next, logged⟩
      rcases front with _ | ⟨head, front⟩
      · cases split
        rw [List.append_nil]
        exact ⟨_, rfl, logged⟩
      · injection split with same split
        rw [List.append_cons] at lasting
        have others := inductionHypothesis next lasting split
        rw [← List.append_cons, same] at others
        exact others

end Events

/-! ## Other throttles -/

/-- The two references differ in their throttles at most. -/
structure SamePoses (first second : Reference α) : Prop where
  baseLink_eq : first.baseLink = second.baseLink
  target_eq : first.target = second.target
  lastPublished_eq : first.lastPublished = second.lastPublished

namespace SamePoses

variable {first second : Reference α}

/-- Neither a throttle nor the time has a say in what an event does. -/
theorem handle (same : first.SamePoses second) (event : Event α) (now later : Nat) :
    (first.handle event now).1.SamePoses (second.handle event later).1 ∧
      (first.handle event now).2.1 = (second.handle event later).2.1 := by
  rcases same with ⟨baseLink, target, lastPublished⟩
  cases event with
  | targetPose message =>
      by_cases frame : message.frame = second.baseLink
      · cases read : poseOf? message with
        | none =>
            simp only [Reference.handle, onTargetPose, baseLink, frame, read, warnValues, ne_eq,
              not_true_eq_false, if_false, and_true]
            exact ⟨rfl, target, lastPublished⟩
        | some pose =>
            simp only [Reference.handle, onTargetPose, baseLink, frame, read, ne_eq,
              not_true_eq_false, if_false, and_true]
            exact ⟨baseLink, rfl, lastPublished⟩
      · simp only [Reference.handle, onTargetPose, baseLink, frame, warnFrame, ne_eq,
          not_false_eq_true, if_true, and_true]
        exact ⟨rfl, target, lastPublished⟩
  | twist command =>
      cases valid : command.isValid with
      | true =>
          simp only [Reference.handle, onTwist, valid, lastPublished, if_true, and_true]
          exact ⟨baseLink, rfl, lastPublished⟩
      | false =>
          simp only [Reference.handle, onTwist, valid, warnValues, Bool.false_eq_true, if_false,
            and_true]
          exact ⟨baseLink, target, lastPublished⟩
  | setTarget pose => exact ⟨⟨baseLink, rfl, lastPublished⟩, rfl⟩

theorem handleAll (same : first.SamePoses second) {events again : List (Event α × Nat)}
    (repeated : again.map Prod.fst = events.map Prod.fst) :
    (first.handleAll events).1.SamePoses (second.handleAll again).1 ∧
      (first.handleAll events).2.map Prod.fst = (second.handleAll again).2.map Prod.fst := by
  induction events generalizing first second again with
  | nil =>
      cases List.map_eq_nil_iff.mp repeated
      exact ⟨same, rfl⟩
  | cons sent rest inductionHypothesis =>
      rcases sent with ⟨event, now⟩
      rcases again with _ | ⟨⟨event', later⟩, others⟩
      · cases repeated
      · injection repeated with equal rest_eq
        dsimp only at equal
        subst equal
        rcases same.handle event' now later with ⟨next, outcome⟩
        rcases inductionHypothesis next rest_eq with ⟨last, outcomes⟩
        exact ⟨last, congrArg₂ List.cons outcome outcomes⟩

end SamePoses

/-! ## Any number of events -/

/-- What a list of events is answered with, and what is logged on the way. -/
structure IsReported (baseLink : String) (initial : Pose α) (window : Duration)
    (events : List (Event α × Nat)) (reached : Reference α)
    (answers : List (Option Outcome × List (LogEntry α))) : Prop where
  answered : List.Forall₂ (fun sent answer => sent.1.IsAnswered baseLink answer.1 ∧
    ∀ refusal, sent.1.IsRefused baseLink refusal ↔
      answer.1.bind Outcome.refusal? = some refusal) events answers
  logged : ∀ front event now back, events = front ++ (event, now) :: back →
    ∃ answer, answers[front.length]? = some answer ∧
      event.IsLogged baseLink window front answer.2
  /-- Behind any other throttles, and at any other times, the events do the same. -/
  unthrottled : ∀ other : Reference α, other.SamePoses (create baseLink initial window) →
    ∀ again : List (Event α × Nat), again.map Prod.fst = events.map Prod.fst →
      (other.handleAll again).1.SamePoses reached ∧
        (other.handleAll again).2.map Prod.fst = answers.map Prod.fst

/-- Without a window every refusal is reported, and within a window that outlasts the
events the first of each kind. -/
theorem handleAll_isReported (baseLink : String) (initial : Pose α) {window : Duration}
    {events : List (Event α × Nat)} (lasting : window = 0 ∨ Event.Outlasts window events) :
    IsReported baseLink initial window events
      ((create baseLink initial window).handleAll events).1
      ((create baseLink initial window).handleAll events).2 where
  answered := by
    have batch := (handleAll_isBatch (create baseLink initial window) events).answered
    rw [List.forall₂_map_right_iff] at batch
    exact batch.imp fun _ _ answered => ⟨answered, answered.isRefused_iff⟩
  logged := by
    intro front event now back split
    have attends := create_attends baseLink initial window
    exact attends.handleAll_logged lasting split
  unthrottled := by
    intro other same again repeated
    exact same.handleAll repeated.symm

/-- A displacement, a foreign pose that could not be normalised either, two refusals for
their values, a foreign pose again, and a target set outright. -/
def mixedEvents : List (Event Float × Nat) :=
  [(.twist ⟨⟨1, 0, 0⟩, 0⟩, 0), (.targetPose ⟨"camera", 0, ⟨0, 0, 0, 0⟩, 0⟩, 1),
    (.targetPose ⟨"base_link", 0, ⟨0, 0, 0, 0⟩, 0⟩, 2),
    (.twist ⟨0, ⟨Binary64.notANumber, 0, 0⟩⟩, 3), (.targetPose ⟨"camera", 0, .identity, 0⟩, 4),
    (.setTarget .identity, 5)]

theorem handleAll_isReported_mixedEvents :
    Event.Outlasts standardWindow mixedEvents ∧
      IsReported "base_link" .identity standardWindow mixedEvents
        ((create "base_link" .identity standardWindow).handleAll mixedEvents).1
        ((create "base_link" .identity standardWindow).handleAll mixedEvents).2 ∧
      ((create "base_link" .identity standardWindow).handleAll mixedEvents).2.map Prod.snd =
        [[], [.wrongFrame "base_link" "camera" 0], [.unusablePose 0], [], [], []] := by
  have outlasts : Event.Outlasts standardWindow mixedEvents := by
    simp [Event.Outlasts, mixedEvents, standardWindow, Duration.ofWholeSeconds,
      Duration.perSecond]
  exact ⟨outlasts, handleAll_isReported "base_link" .identity (.inr outlasts), by
    decide +kernel⟩

end Reference
end MotionControl
