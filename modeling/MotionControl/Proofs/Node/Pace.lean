import Mathlib.Tactic.Common
import MotionControl.Node

/-!
# The pace of the loop

Which turns a loop makes is a matter of the clock alone.  They are the turns that are checked
before the run time is over (`NodePlan.timely`), up to the first after which the deadline is no
instant any more (`NodePlan.due`); `NodePlan.Makes` says so.  Of these the node makes the ticks, one
after the other, and nothing else (`Node.turns_eq_ticks`).
-/

namespace MotionControl

namespace NodePlan

/-- The turns before the first one at which the run time is over. -/
def timely (plan : NodePlan) (start : Instant) (turns : List Turn) : List Turn :=
  turns.takeWhile fun turn => plan.runFor.all fun limit =>
    decide (turn.checked.nanoseconds - start.nanoseconds < limit.nanoseconds)

/-- The deadline after some turns, in nanoseconds, given the one before them.  Every turn moves it
by a period, counted from its own end if that comes later. -/
def due (plan : NodePlan) (first : ℕ) (turns : List Turn) : ℕ :=
  turns.foldl (fun due turn => max due turn.ended.nanoseconds + plan.period.nanoseconds) first

/-- A loop with this first deadline makes some of the turns and ends.  It breaks off after the
first turn, or before any, that leaves a deadline which is no instant. -/
structure Makes (plan : NodePlan) (start : Instant) (first : ℕ) (turns made : List Turn)
    (ending : Ending) : Prop where
  made_prefix : made <+: plan.timely start turns
  kept : ∀ front turn back, made = front ++ turn :: back → plan.due first front < Instant.limit
  finished : ending = .finished →
    made = plan.timely start turns ∧ plan.due first made < Instant.limit
  aborted : ending = .aborted → Instant.limit ≤ plan.due first made

/-! ## Deadlines -/

theorem timely_cons (plan : NodePlan) (start : Instant) (turn : Turn) (rest : List Turn) :
    plan.timely start (turn :: rest) =
      if plan.isOver start turn.checked then [] else turn :: plan.timely start rest := by
  have expired : (plan.runFor.all fun limit =>
      decide (turn.checked.nanoseconds - start.nanoseconds < limit.nanoseconds)) =
        !plan.isOver start turn.checked := by
    cases given : plan.runFor with
    | none => simp [isOver, given]
    | some limit =>
        rw [isOver, given, Option.all_some, Option.any_some]
        change _ = !decide (limit.nanoseconds ≤ turn.checked.nanoseconds - start.nanoseconds)
        rw [← decide_not, decide_eq_decide, Nat.not_le]
  rw [timely, List.takeWhile_cons, expired]
  cases plan.isOver start turn.checked with
  | true => rfl
  | false => rfl

namespace Makes

variable {plan : NodePlan} {start : Instant} {first : ℕ} {turns : List Turn}

/-- Without a first deadline no turn is made. -/
theorem of_late (late : Instant.limit ≤ first) : plan.Makes start first turns [] .aborted where
  made_prefix := List.nil_prefix
  kept front turn back split := by simp at split
  finished := nofun
  aborted _ := late

/-- With a first deadline and nothing to do, the loop is at its end. -/
theorem of_timely_nil (below : first < Instant.limit) (none : plan.timely start turns = []) :
    plan.Makes start first turns [] .finished where
  made_prefix := List.nil_prefix
  kept front turn back split := by simp at split
  finished _ := ⟨none.symm, below⟩
  aborted := nofun

/-- A turn in time moves the deadline, and the loop goes on from there. -/
theorem cons {turn : Turn} {made : List Turn} {ending : Ending} (below : first < Instant.limit)
    (early : ¬ plan.isOver start turn.checked = true)
    (makes : plan.Makes start (max first turn.ended.nanoseconds + plan.period.nanoseconds) turns
      made ending) : plan.Makes start first (turn :: turns) (turn :: made) ending := by
  have unfolded := plan.timely_cons start turn turns
  rw [if_neg early] at unfolded
  exact {
    made_prefix := by
      rw [unfolded]
      exact (List.prefix_cons_inj turn).mpr makes.made_prefix
    kept := by
      rintro (_ | ⟨head, front⟩) next back split
      · exact below
      · injection split with same split
        subst same
        exact makes.kept front next back split
    finished := by
      intro finished
      rw [unfolded]
      exact ⟨congrArg _ (makes.finished finished).1, (makes.finished finished).2⟩
    aborted := makes.aborted }

end Makes

end NodePlan

namespace Pace

/-- The pace since this instant and with this deadline; there is none if the deadline is no
instant. -/
def Keeps (last : Instant) (due : ℕ) : Option Pace → Prop
  | none => Instant.limit ≤ due
  | some pace => pace.last = last ∧ pace.due.nanoseconds = due

theorem keeps_after (now last : Instant) (span : Duration) :
    Keeps last (now.nanoseconds + span.nanoseconds)
      ((now.after? span).map fun due => ⟨last, due⟩) := by
  by_cases below : now.nanoseconds + span.nanoseconds < Instant.limit
  · rw [Instant.after?, dif_pos below]
    exact ⟨rfl, rfl⟩
  · rw [Instant.after?, dif_neg below]
    exact Nat.not_lt.mp below

theorem next?_keeps (pace : Pace) (period : Duration) (turn : Turn) :
    Keeps turn.began (max pace.due.nanoseconds turn.ended.nanoseconds + period.nanoseconds)
      (pace.next? period turn) := by
  rw [next?]
  by_cases early : turn.ended < pace.due
  · have reached : max pace.due.nanoseconds turn.ended.nanoseconds = pace.due.nanoseconds :=
      Nat.max_eq_left (Nat.le_of_lt early)
    rw [reached, if_pos early]
    exact keeps_after pace.due turn.began period
  · have reached : max pace.due.nanoseconds turn.ended.nanoseconds = turn.ended.nanoseconds :=
      Nat.max_eq_right (Nat.not_lt.mp early)
    rw [reached, if_neg early]
    exact keeps_after turn.ended turn.began period

end Pace

namespace Node

/-- The ticks of some turns, whatever their deadlines are. -/
def ticks (last : Instant) : List Turn → Node → Node × List LogLine
  | [], node => (node, [])
  | turn :: rest, node =>
    let (node, lines) := node.tick (turn.began.since last) turn.elapsed
    let (node, more) := ticks turn.began rest node
    (node, lines ++ more)

/-- The loop makes the ticks of the turns that it makes. -/
theorem turns_eq_ticks (plan : NodePlan) (start : Instant) (turns : List Turn) {pace : Option Pace}
    {last : Instant} {first : ℕ} (keeps : Pace.Keeps last first pace) (node : Node) :
    ∃ made ending, plan.Makes start first turns made ending ∧
      node.turns plan start pace turns =
        ((node.ticks last made).1, (node.ticks last made).2, ending) := by
  induction turns generalizing pace last first node with
  | nil =>
      cases pace with
      | none => exact ⟨[], .aborted, .of_late keeps, rfl⟩
      | some pace =>
          have below : first < Instant.limit := keeps.2 ▸ pace.due.below
          exact ⟨[], .finished, .of_timely_nil below rfl, rfl⟩
  | cons turn rest inductionHypothesis =>
      cases pace with
      | none => exact ⟨[], .aborted, .of_late keeps, rfl⟩
      | some pace =>
          rcases keeps with ⟨rfl, rfl⟩
          by_cases expired : plan.isOver start turn.checked = true
          · have none : plan.timely start (turn :: rest) = [] := by
              rw [plan.timely_cons, if_pos expired]
            have stopped : node.turns plan start (some pace) (turn :: rest) =
                (node, [], .finished) := by
              rw [turns, if_pos expired]
            exact ⟨[], .finished, .of_timely_nil pace.due.below none, stopped⟩
          · rcases inductionHypothesis (pace.next?_keeps plan.period turn)
                (node.tick (turn.began.since pace.last) turn.elapsed).1 with
              ⟨made, ending, makes, ran⟩
            refine ⟨turn :: made, ending, .cons pace.due.below expired makes, ?_⟩
            simp only [turns, expired, ticks, ran, Bool.false_eq_true, if_false]

end Node
end MotionControl
