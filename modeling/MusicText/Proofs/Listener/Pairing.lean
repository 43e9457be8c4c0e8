import MusicText.Proofs.Parse.Fold
import MusicText.Proofs.Score.Building

/-!
Contract: a collector and a builder that hear the same parse.

Owns: the events that interrupt a builder, and the pair as its two members by themselves.

Does not own: groups of other listeners; see `MusicText.Proofs.Listener.Renewal`.

A builder is interrupted by a meter whose length cannot be computed, whatever came before. A
collector is never interrupted and stands in front, so the pair is interrupted exactly
when the builder is, and until then each member becomes what it would become alone.
-/

namespace MusicText

/-- The fault with which an event interrupts a builder. -/
def Event.interruption? (happening : Event) : Option ArithmeticFault :=
  match happening.verdict? with
  | some (.interrupted cause) => some cause
  | _ => none

theorem ScoreBuilder.interruption_receiveEvent (state : ScoreBuilder) (happening : Event) :
    (state.receiveEvent happening).interruption = happening.interruption? := by
  rcases happening.changes_or_judged with ⟨value, rfl⟩ | ⟨value, rfl⟩ | ⟨-, -, verdict, judged⟩
  · exact interruption_openPart { state with track := value }
  · rfl
  · rw [receiveEvent_of_verdict state judged, Event.interruption?, judged]
    cases verdict with
    | accepted element => exact interruption_openPart state
    | rejected warning | interrupted cause => rfl

namespace Listener

/-- A builder is interrupted by the first event that interrupts it anywhere. -/
theorem interruption_follow_builder (state : ScoreBuilder) (calls : List Call) :
    ((builder state).follow (calls.map .call)).interruption
      = (calls.filterMap Call.event?).findSome? Event.interruption? := by
  induction calls generalizing state with
  | nil => rfl
  | cons call rest inductionHypothesis =>
      rw [List.map_cons, follow]
      cases call with
      | start =>
          rw [show receive .start (builder state) = .quiet (.builder .fresh) from rfl,
            Reaction.andThen_quiet]
          exact inductionHypothesis .fresh
      | finish =>
          rw [show receive .finish (builder state) = .quiet (.builder state) from rfl,
            Reaction.andThen_quiet]
          exact inductionHypothesis state
      | event happening =>
          rw [show receive (.event happening) (builder state)
              = (state.receiveEvent happening).map .builder from rfl,
            show (Call.event happening :: rest).filterMap Call.event?
              = happening :: rest.filterMap Call.event? from rfl,
            List.findSome?_cons, ← state.interruption_receiveEvent happening]
          cases interrupted : (state.receiveEvent happening).interruption with
          | some cause =>
              rw [Reaction.andThen_of_interrupted (by exact interrupted)]
              exact interrupted
          | none =>
              simp only [Reaction.andThen, Reaction.map, interrupted, Reaction.after]
              exact inductionHypothesis _

/-! ### The pair -/

/-- A collector in front of a builder. -/
def pair (events : List Event) (state : ScoreBuilder) : Listener :=
  .group [.collector events, .builder state]

theorem receive_pair (events : List Event) (state : ScoreBuilder) (call : Call) :
    receive call (pair events state) = (state.receive call).map (pair (collect events call)) := by
  simp only [pair, receive, receiveEach, Reaction.map, Reaction.quiet, Reaction.after]
  cases (state.receive call).interruption <;> simp

theorem follow_pair (events : List Event) (state : ScoreBuilder) (notices : List Notice) :
    ((pair events state).follow notices).interruption
        = ((builder state).follow notices).interruption
      ∧ ((pair events state).follow notices).remarks
        = ((builder state).follow notices).remarks := by
  induction notices generalizing events state with
  | nil => exact ⟨rfl, rfl⟩
  | cons notice rest inductionHypothesis =>
      cases notice with
      | remark content =>
          obtain ⟨interruption, remarks⟩ := inductionHypothesis events state
          exact ⟨interruption, congrArg ([content] ++ ·) remarks⟩
      | call content =>
          rw [follow, follow, receive_pair]
          rw [show receive content (builder state) = (state.receive content).map .builder from rfl]
          cases interrupted : (state.receive content).interruption with
          | some cause => simp [Reaction.andThen, Reaction.map, interrupted]
          | none =>
              simp only [Reaction.andThen, Reaction.map, interrupted, Reaction.after]
              obtain ⟨interruption, remarks⟩ :=
                inductionHypothesis (collect events content) (state.receive content).next
              exact ⟨interruption, congrArg ((state.receive content).remarks ++ ·) remarks⟩

/-- A pair hears a parse to its end exactly when none of the events interrupts. -/
theorem pair_endures_iff {events : List Event} {state : ScoreBuilder} {run : Run} :
    (pair events state).Endures run
      ↔ ∀ happening ∈ run.events, happening.interruption? = none := by
  rw [Endures, (follow_pair events state _).1, (follow_calls _ run).2, interruption_follow_builder,
    List.findSome?_eq_none_iff]
  rfl

theorem receiveAll_builder_events (events : List Event) :
    receiveAll (.builder .fresh) (events.map .event) = .builder (.ofEvents events) := by
  have since : Call.sinceStart (events.map .event) = events := by
    induction events using List.reverseRecOn with
    | nil => rfl
    | append_singleton earlier happening inductionHypothesis =>
        rw [List.map_append, List.map_singleton, Call.sinceStart_event, inductionHypothesis]
  rw [ScoreBuilder.receiveAll_builder, ScoreBuilder.attend_fresh, since]

theorem receiveAll_pair_events (events : List Event) :
    receiveAll (pair [] .fresh) (events.map .event) = pair events (.ofEvents events) := by
  induction events using List.reverseRecOn with
  | nil => rfl
  | append_singleton earlier happening inductionHypothesis =>
      rw [List.map_append, List.map_singleton, receiveAll_append, inductionHypothesis,
        ← ScoreBuilder.next_receiveEvent]
      exact congrArg Reaction.next (receive_pair _ _ _)

/-- Behind a start a pair has the events in front, and at the back what is built of them. -/
theorem receiveAll_pair (kept events : List Event) (state : ScoreBuilder) (ended : Bool) :
    receiveAll (pair kept state)
        (.start :: (events.map .event ++ if ended then [.finish] else []))
      = pair events (.ofEvents events) := by
  have begun : receiveAll (pair kept state)
        (.start :: (events.map .event ++ if ended then [.finish] else []))
      = receiveAll (pair [] .fresh) (events.map .event ++ if ended then [.finish] else []) := rfl
  rw [begun, receiveAll_append, receiveAll_pair_events]
  cases ended <;> rfl

/-- A builder that is given events one by one, none of which interrupts, becomes what is
built of them. -/
theorem follow_builder_events {events : List Event}
    (spared : ∀ happening ∈ events, happening.interruption? = none) :
    let fed := (builder .fresh).follow ((events.map Call.event).map .call)
    fed.interruption = none ∧ fed.next = .builder (.ofEvents events) := by
  intro fed
  have quiet : fed.interruption = none := by
    rw [interruption_follow_builder, Call.filterMap_event?_map]
    exact List.findSome?_eq_none_iff.2 spared
  have calls : ∀ result, (⟨(events.map Call.event).map .call, result⟩ : Run).calls
      = events.map .event := by
    simp [Run.calls, List.filterMap_map]
  refine ⟨quiet, ?_⟩
  -- No call depends on how a run ends, so any ending serves.
  rw [next_follow_of_uninterrupted quiet (.error (.fault .rootMissing)), calls,
    receiveAll_builder_events]

/-- A run that ends well for a listener ended well by itself, without an interruption. -/
theorem of_hear_ok {listener : Listener} {run : Run} {reached : Context}
    (done : (listener.hear run).result = .ok reached) :
    listener.Endures run ∧ run.result = .ok reached := by
  unfold Endures
  simp only [hear] at done
  cases interrupted : (listener.follow run.notices).interruption with
  | some cause => simp [interrupted, Run.resultWith] at done
  | none =>
      rw [interrupted] at done
      exact ⟨rfl, done⟩

end Listener

end MusicText
