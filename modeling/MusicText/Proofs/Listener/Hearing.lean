import MusicText.Listener

/-!
Contract: what a parse makes of its listener.

Owns: the listener behind a parse as what the calls alone make of it, as long as none of
them is interrupted; and the events that a collector keeps.

Does not own: the calls that a parse makes; see `MusicText.Proofs.Parse.Fold`.
-/

namespace MusicText

namespace Listener

/-- Whether a listener takes all the calls of a run without an interruption. -/
def Endures (listener : Listener) (run : Run) : Prop :=
  (listener.follow run.notices).interruption = none

theorem next_follow_of_uninterrupted {listener : Listener} {notices : List Notice}
    (quiet : (listener.follow notices).interruption = none) (result : Except Failure Context) :
    (listener.follow notices).next = listener.receiveAll (⟨notices, result⟩ : Run).calls := by
  induction notices generalizing listener with
  | nil => rfl
  | cons notice rest inductionHypothesis =>
      cases notice with
      | remark content => exact inductionHypothesis quiet
      | call content =>
          rw [follow] at quiet ⊢
          cases interrupted : (receive content listener).interruption with
          | some fault =>
              rw [Reaction.andThen_of_interrupted interrupted, interrupted] at quiet
              exact absurd quiet (by simp)
          | none =>
              simp only [Reaction.andThen, interrupted, Reaction.after] at quiet ⊢
              exact inductionHypothesis quiet

/-- A listener that is not interrupted becomes what the calls make of it, and does not change
how the parse ends. -/
theorem hear_of_endures {listener : Listener} {run : Run} (endures : listener.Endures run) :
    (listener.hear run).listener = listener.receiveAll run.calls
      ∧ (listener.hear run).result = run.result := by
  refine ⟨next_follow_of_uninterrupted endures run.result, ?_⟩
  simp only [hear, show (listener.follow run.notices).interruption = none from endures,
    Run.resultWith]

/-- The remarks of a parse do not touch a listener. -/
theorem follow_calls (listener : Listener) (run : Run) :
    (listener.follow run.notices).next = (listener.follow (run.calls.map .call)).next
      ∧ (listener.follow run.notices).interruption
        = (listener.follow (run.calls.map .call)).interruption := by
  obtain ⟨notices, result⟩ := run
  induction notices generalizing listener with
  | nil => exact ⟨rfl, rfl⟩
  | cons notice rest inductionHypothesis =>
      cases notice with
      | remark content => exact inductionHypothesis listener
      | call content =>
          have called : (⟨.call content :: rest, result⟩ : Run).calls.map Notice.call
              = .call content :: (⟨rest, result⟩ : Run).calls.map .call := rfl
          rw [called, follow, follow]
          cases interrupted : (receive content listener).interruption with
          | some fault =>
              simp only [Reaction.andThen_of_interrupted interrupted, and_self]
          | none =>
              simp only [Reaction.andThen, interrupted]
              exact inductionHypothesis (receive content listener).next

/-- Parses that make the same calls lead a listener into the same state. If they also end alike
up to some view of the end, then so do they as the listener witnesses them. -/
theorem hear_congr {run other : Run} (calls : run.calls = other.calls) (listener : Listener) :
    (listener.hear run).listener = (listener.hear other).listener := by
  simp only [hear, (follow_calls listener run).1, (follow_calls listener other).1, calls]

theorem result_hear_congr {run other : Run} (calls : run.calls = other.calls)
    {View : Type} (view : Except Failure Context → View)
    (ends : view run.result = view other.result) (listener : Listener) :
    view (listener.hear run).result = view (listener.hear other).result := by
  simp only [hear, (follow_calls listener run).2, (follow_calls listener other).2, calls]
  cases (listener.follow (other.calls.map .call)).interruption with
  | some fault => rfl
  | none => exact ends

theorem collector_endures (events : List Event) (run : Run) :
    (Listener.collector events).Endures run := by
  unfold Endures
  generalize run.notices = notices
  induction notices generalizing events with
  | nil => rfl
  | cons notice rest inductionHypothesis =>
      cases notice with
      | remark content => exact inductionHypothesis events
      | call content =>
          rw [follow, receive, Reaction.andThen_quiet]
          exact inductionHypothesis (collect events content)

theorem receiveAll_collector_events (kept events : List Event) :
    receiveAll (.collector kept) (events.map .event) = .collector (kept ++ events) := by
  induction events generalizing kept with
  | nil => simp [receiveAll]
  | cons happening rest inductionHypothesis =>
      have next : receiveAll (.collector kept) ((happening :: rest).map .event)
          = receiveAll (.collector (kept ++ [happening])) (rest.map .event) := rfl
      rw [next, inductionHypothesis, List.append_assoc, List.singleton_append]

theorem receiveAll_append (listener : Listener) (earlier later : List Call) :
    listener.receiveAll (earlier ++ later) = (listener.receiveAll earlier).receiveAll later :=
  List.foldl_append

/-- A collector keeps the events behind a start. -/
theorem receiveAll_collector (kept events : List Event) (ended : Bool) :
    receiveAll (.collector kept)
        (.start :: (events.map .event ++ if ended then [.finish] else []))
      = .collector events := by
  have begun : receiveAll (.collector kept)
        (.start :: (events.map .event ++ if ended then [.finish] else []))
      = receiveAll (.collector []) (events.map .event ++ if ended then [.finish] else []) := rfl
  rw [begun, receiveAll_append, receiveAll_collector_events, List.nil_append]
  cases ended <;> rfl

end Listener

end MusicText
