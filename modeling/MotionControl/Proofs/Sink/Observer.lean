import Mathlib.Tactic.Common
import MotionControl.Sink

/-!
# A channel and its observer

An observer may receive from a channel at any moment, also between two publications
of one update, and may drop its end for good.  `Observed` lets it act before each
publication, as it has planned, and keeps a record of the sendings: every pose,
and the channel as the pose found it.

A pose is lost exactly if it found the channel full, without capacity or without
an observer.  The others have been received in the order in which they were sent,
or are queued behind those.  What was queued when the observer left stays queued
in this sense; nobody is going to receive it.
-/

namespace MotionControl

variable {α : Type}

/-- What an observer can do at its end of a channel. -/
inductive Observation where
  | receive
  | disconnect

/-- A pose handed to a channel, and the channel at that moment. -/
structure Sending (α : Type) where
  channel : Channel α
  pose : Pose α

/-- Nobody listened, or there was no room. -/
def Sending.isLost (sending : Sending α) : Bool :=
  !sending.channel.connected || sending.channel.capacity == 0 ||
    sending.channel.queue.length == sending.channel.capacity

namespace Sending

theorem isLost_iff (sending : Sending α) :
    sending.isLost = true ↔
      sending.channel.queue.length = sending.channel.capacity ∨
        sending.channel.capacity = 0 ∨ sending.channel.connected = false := by
  simp only [isLost, Bool.or_eq_true, Bool.not_eq_true', beq_iff_eq]
  tauto

/-- A pose that is lost leaves the channel as it was. -/
theorem send_of_isLost {sending : Sending α} (lost : sending.isLost = true) :
    sending.channel.send sending.pose = sending.channel := by
  have refused : ¬ (sending.channel.connected &&
      sending.channel.queue.length < sending.channel.capacity) = true := by
    simp only [Bool.and_eq_true, decide_eq_true_eq, not_and, Nat.not_lt]
    intro listening
    rcases sending.isLost_iff.mp lost with full | none | gone
    · omega
    · omega
    · rw [listening] at gone
      cases gone
  exact if_neg refused

/-- Any other pose joins the end of the queue, and there is an observer. -/
theorem send_of_not_isLost {sending : Sending α} (kept : sending.isLost = false)
    (bound : sending.channel.queue.length ≤ sending.channel.capacity) :
    sending.channel.connected = true ∧
      sending.channel.queue.length < sending.channel.capacity ∧
      sending.channel.send sending.pose =
        { sending.channel with queue := sending.channel.queue ++ [sending.pose] } := by
  have found : ¬ sending.isLost = true := ne_true_of_eq_false kept
  rw [isLost_iff, not_or, not_or] at found
  rcases found with ⟨notFull, -, notGone⟩
  have listening : sending.channel.connected = true := eq_true_of_ne_false notGone
  have room : sending.channel.queue.length < sending.channel.capacity := by omega
  refine ⟨listening, room, if_pos ?_⟩
  simp only [listening, room, decide_true, Bool.and_self]

end Sending

/-- A channel with its observer. -/
structure Observed (α : Type) where
  channel : Channel α
  /-- What the observer will do before each of the next publications. -/
  plan : List (List Observation)
  received : List (Pose α) := []
  /-- What was queued when the observer left. -/
  unread : List (Pose α) := []
  sendings : List (Sending α) := []

namespace Observed

/-- A new channel of the given capacity and an observer with the given plan. -/
def create (capacity : Nat) (plan : List (List Observation)) : Observed α :=
  ⟨{ capacity := capacity }, plan, [], [], []⟩

def observe (observed : Observed α) : Observation → Observed α
  | .receive =>
    match observed.channel.receive with
    | (channel, none) => { observed with channel := channel }
    | (channel, some pose) =>
      { observed with channel := channel, received := observed.received ++ [pose] }
  | .disconnect =>
    { observed with
      channel := observed.channel.disconnect
      unread := observed.unread ++ observed.channel.queue }

def observeAll (observed : Observed α) (observations : List Observation) : Observed α :=
  observations.foldl observe observed

/-- Let the observer act, then send. -/
def publish (observed : Observed α) (pose : Pose α) : Observed α :=
  let observed := observed.observeAll (observed.plan.headD [])
  { observed with
    channel := observed.channel.send pose
    plan := observed.plan.tail
    sendings := observed.sendings ++ [⟨observed.channel, pose⟩] }

instance : Sink α (Observed α) where
  publish := publish

/-- The poses that were queued and not received. -/
def queued (observed : Observed α) : List (Pose α) :=
  observed.unread ++ observed.channel.queue

/-- The poses that were sent and not lost. -/
def kept (observed : Observed α) : List (Pose α) :=
  (observed.sendings.filter (!·.isLost)).map Sending.pose

/-- Every pose is lost, received or queued, and rightly so. -/
structure IsFaithful (observed : Observed α) (capacity : Nat) : Prop where
  capacity_eq : observed.channel.capacity = capacity
  length_le : observed.channel.queue.length ≤ capacity
  queue_nil : observed.channel.connected = false → observed.channel.queue = []
  unread_nil : observed.channel.connected = true → observed.unread = []
  delivered_eq : observed.received ++ observed.queued = observed.kept
  sending_capacity : ∀ sending ∈ observed.sendings, sending.channel.capacity = capacity

theorem create_isFaithful (capacity : Nat) (plan : List (List Observation)) :
    (create capacity plan : Observed α).IsFaithful capacity where
  capacity_eq := rfl
  length_le := Nat.zero_le capacity
  queue_nil := fun _ => rfl
  unread_nil := fun _ => rfl
  delivered_eq := rfl
  sending_capacity := fun _ member => absurd member List.not_mem_nil

/-! ## The observer -/

theorem IsFaithful.observe {observed : Observed α} {capacity : Nat}
    (faithful : observed.IsFaithful capacity) (observation : Observation) :
    (observed.observe observation).IsFaithful capacity := by
  cases observation with
  | receive =>
      cases queue : observed.channel.queue with
      | nil =>
          have idle : observed.observe .receive = observed := by
            simp only [Observed.observe, Channel.receive, queue]
          rw [idle]
          exact faithful
      | cons pose rest =>
          have taken : observed.observe .receive =
              { observed with
                channel := { observed.channel with queue := rest }
                received := observed.received ++ [pose] } := by
            simp only [Observed.observe, Channel.receive, queue]
          -- a channel with a pose in it has an observer, who has left nothing behind
          have listening : observed.channel.connected = true := by
            by_contra gone
            have empty := faithful.queue_nil (eq_false_of_ne_true gone)
            rw [queue] at empty
            cases empty
          have unread := faithful.unread_nil listening
          have bound := faithful.length_le
          have delivered := faithful.delivered_eq
          rw [queue, List.length_cons] at bound
          rw [queued, unread, queue] at delivered
          rw [taken]
          exact {
            capacity_eq := faithful.capacity_eq
            length_le := by change rest.length ≤ capacity; omega
            queue_nil := fun gone => absurd (listening.symm.trans gone) Bool.noConfusion
            unread_nil := faithful.unread_nil
            delivered_eq := by
              rw [queued, unread, List.append_assoc]
              exact delivered
            sending_capacity := faithful.sending_capacity }
  | disconnect =>
      exact {
        capacity_eq := faithful.capacity_eq
        length_le := Nat.zero_le capacity
        queue_nil := fun _ => rfl
        unread_nil := fun listening => absurd listening Bool.noConfusion
        delivered_eq := by
          rw [queued]
          change observed.received ++ (observed.unread ++ observed.channel.queue ++ []) = _
          rw [List.append_nil]
          exact faithful.delivered_eq
        sending_capacity := faithful.sending_capacity }

theorem IsFaithful.observeAll {observed : Observed α} {capacity : Nat}
    (faithful : observed.IsFaithful capacity) (observations : List Observation) :
    (observed.observeAll observations).IsFaithful capacity := by
  induction observations generalizing observed with
  | nil => exact faithful
  | cons observation rest inductionHypothesis =>
      exact inductionHypothesis (faithful.observe observation)

theorem observeAll_sendings (observed : Observed α) (observations : List Observation) :
    (observed.observeAll observations).sendings = observed.sendings := by
  induction observations generalizing observed with
  | nil => rfl
  | cons observation rest inductionHypothesis =>
      have first : (observed.observe observation).sendings = observed.sendings := by
        cases observation with
        | receive => simp only [observe]; split <;> rfl
        | disconnect => rfl
      exact (inductionHypothesis _).trans first

/-! ## Publications -/

theorem kept_snoc (sendings : List (Sending α)) (sending : Sending α) :
    ((sendings ++ [sending]).filter (!·.isLost)).map Sending.pose =
      (sendings.filter (!·.isLost)).map Sending.pose ++
        if sending.isLost then [] else [sending.pose] := by
  cases lost : sending.isLost <;> simp [lost]

theorem IsFaithful.publish {observed : Observed α} {capacity : Nat}
    (faithful : observed.IsFaithful capacity) (pose : Pose α) :
    (observed.publish pose).IsFaithful capacity := by
  have ready := faithful.observeAll (observed.plan.headD [])
  rw [Observed.publish]
  generalize observed.observeAll (observed.plan.headD []) = observed at ready ⊢
  have recorded : ∀ sending ∈ observed.sendings ++ [⟨observed.channel, pose⟩],
      sending.channel.capacity = capacity := by
    intro sending member
    rcases List.mem_append.mp member with early | last
    · exact ready.sending_capacity sending early
    · rw [List.mem_singleton.mp last]
      exact ready.capacity_eq
  have delivered := ready.delivered_eq
  rw [queued, kept] at delivered
  cases lost : (⟨observed.channel, pose⟩ : Sending α).isLost with
  | true =>
      rw [Sending.send_of_isLost lost]
      exact {
        capacity_eq := ready.capacity_eq
        length_le := ready.length_le
        queue_nil := ready.queue_nil
        unread_nil := ready.unread_nil
        delivered_eq := by
          rw [queued, kept, kept_snoc, lost, if_pos rfl, List.append_nil]
          exact delivered
        sending_capacity := recorded }
  | false =>
      have bound : observed.channel.queue.length ≤ observed.channel.capacity := by
        rw [ready.capacity_eq]
        exact ready.length_le
      rcases Sending.send_of_not_isLost lost bound with ⟨listening, room, sent⟩
      rw [sent]
      exact {
        capacity_eq := ready.capacity_eq
        length_le := by
          rw [List.length_append, ← ready.capacity_eq]
          exact room
        queue_nil := fun gone => absurd (listening.symm.trans gone) Bool.noConfusion
        unread_nil := ready.unread_nil
        delivered_eq := by
          rw [queued, kept, kept_snoc, lost, ← delivered]
          simp only [List.append_assoc, Bool.false_eq_true, if_false]
        sending_capacity := recorded }

theorem publish_sendings (observed : Observed α) (pose : Pose α) :
    (observed.publish pose).sendings.map Sending.pose =
      observed.sendings.map Sending.pose ++ [pose] := by
  rw [publish, observeAll_sendings, List.map_append]
  rfl

theorem IsFaithful.foldl_publish {observed : Observed α} {capacity : Nat}
    (faithful : observed.IsFaithful capacity) (poses : List (Pose α)) :
    (poses.foldl Observed.publish observed).IsFaithful capacity := by
  induction poses generalizing observed with
  | nil => exact faithful
  | cons pose rest inductionHypothesis => exact inductionHypothesis (faithful.publish pose)

theorem foldl_publish_sendings (observed : Observed α) (poses : List (Pose α)) :
    (poses.foldl publish observed).sendings.map Sending.pose =
      observed.sendings.map Sending.pose ++ poses := by
  induction poses generalizing observed with
  | nil => exact (List.append_nil _).symm
  | cons pose rest inductionHypothesis =>
      rw [List.foldl_cons, inductionHypothesis, publish_sendings, List.append_assoc]
      rfl

/-- What is kept keeps its order, and nothing is kept twice. -/
theorem kept_sublist (observed : Observed α) :
    observed.kept.Sublist (observed.sendings.map Sending.pose) :=
  List.filter_sublist.map Sending.pose

end Observed
end MotionControl
