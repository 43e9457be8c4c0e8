import MusicText.Proofs.Parse.Fold

/-!
Contract: listeners that hear several parses of one parser.

Owns: listeners of the same making that have received nothing, the listeners that go back
to that state at a start, and the independence of a parse from those before it.

Does not own: the state a listener is in behind one parse; see
`MusicText.Proofs.Listener.Hearing`.

A parse may be interrupted or fail anywhere and leave its listener in the middle of a text.
What is kept through all of that is the making of the listener, and a start brings back the
rest. With a default that is refused there is no start, and then the listener is not touched
either.
-/

namespace MusicText

namespace Listener

/-! ### Listeners that forget -/

/-- Whether a start makes a listener forget what it received before. -/
inductive Forgetful : Listener → Prop
  | silent : Forgetful .silent
  | collector (events : List Event) : Forgetful (.collector events)
  | builder (state : ScoreBuilder) : Forgetful (.builder state)
  | group {members : List Listener} (each : ∀ member ∈ members, Forgetful member) :
      Forgetful (.group members)

mutual

/-- A listener of the same making that has received nothing. -/
def renewed : Listener → Listener
  | .silent => .silent
  | .collector _ => .collector []
  | .recorder _ => .recorder []
  | .builder _ => .builder .fresh
  | .group members => .group (renewedEach members)

def renewedEach : List Listener → List Listener
  | [] => []
  | member :: rest => renewed member :: renewedEach rest

end

/-- Whether a listener forgets, and is of the making of another that has received nothing. -/
structure Renews (fresh used : Listener) : Prop where
  forgetful : used.Forgetful
  renewed_eq : used.renewed = fresh

/-! ### One call -/

theorem Renews.group_nil : Renews (.group []) (.group []) :=
  ⟨.group (by simp), rfl⟩

theorem Renews.group_cons {fresh used : Listener} {freshRest usedRest : List Listener}
    (first : Renews fresh used) (others : Renews (.group freshRest) (.group usedRest)) :
    Renews (.group (fresh :: freshRest)) (.group (used :: usedRest)) := by
  obtain ⟨forgetful, renewedFirst⟩ := first
  cases others.forgetful with
  | group each =>
      have same : renewedEach usedRest = freshRest := Listener.group.inj others.renewed_eq
      refine ⟨.group (List.forall_mem_cons.2 ⟨forgetful, each⟩), ?_⟩
      rw [renewed, renewedEach, renewedFirst, same]

/-- The members of a group that are interrupted before they receive a call stay what they
were. -/
theorem renews_receiveEach {call : Call} {members : List Listener}
    (each : ∀ member ∈ members, Forgetful member)
    (changed : ∀ member ∈ members, Renews member.renewed (receive call member).next) :
    Renews (.group (renewedEach members)) (.group (receiveEach call members).next) := by
  induction members with
  | nil => exact .group_nil
  | cons member rest inductionHypothesis =>
      obtain ⟨-, eachRest⟩ := List.forall_mem_cons.1 each
      obtain ⟨first, changedRest⟩ := List.forall_mem_cons.1 changed
      simp only [receiveEach]
      cases (receive call member).interruption with
      | some fault => exact first.group_cons ⟨.group eachRest, rfl⟩
      | none => exact first.group_cons (inductionHypothesis eachRest changedRest)

variable {listener : Listener}

/-- A call changes what a listener holds, but not of which making it is. -/
theorem renews_receive (forgetful : listener.Forgetful) (call : Call) :
    Renews listener.renewed (receive call listener).next := by
  induction forgetful with
  | silent => exact ⟨.silent, rfl⟩
  | collector events => exact ⟨.collector _, rfl⟩
  | builder state => exact ⟨.builder _, rfl⟩
  | @group members each inductionHypothesis =>
      exact renews_receiveEach each inductionHypothesis

theorem receive_start (forgetful : listener.Forgetful) :
    receive .start listener = .quiet listener.renewed := by
  induction forgetful with
  | silent => rfl
  | collector events => rfl
  | builder state => rfl
  | @group members each inductionHypothesis =>
      have started : receiveEach .start members = .quiet (renewedEach members) := by
        clear each
        induction members with
        | nil => rfl
        | cons member rest startedRest =>
            have first := inductionHypothesis member (by simp)
            have others := startedRest fun other inRest =>
              inductionHypothesis other (List.mem_cons_of_mem member inRest)
            simp only [receiveEach, first, others]
            rfl
      rw [receive, started]
      rfl

/-! ### Parses -/

theorem Renews.receive {fresh used : Listener} (renews : Renews fresh used) (call : Call) :
    Renews fresh (receive call used).next :=
  renews.renewed_eq ▸ renews_receive renews.forgetful call

/-- Whatever a listener is told, a start makes the same of it as before. -/
theorem Renews.follow {fresh used : Listener} (renews : Renews fresh used)
    (notices : List Notice) : Renews fresh (used.follow notices).next := by
  induction notices generalizing used with
  | nil => exact renews
  | cons notice rest inductionHypothesis =>
      cases notice with
      | remark content => exact inductionHypothesis renews
      | call content =>
          rw [Listener.follow]
          cases interrupted : (Listener.receive content used).interruption with
          | some fault =>
              rw [Reaction.andThen_of_interrupted interrupted]
              exact renews.receive content
          | none =>
              simp only [Reaction.andThen, interrupted]
              exact inductionHypothesis (renews.receive content)

/-- What a listener becomes by the parses of several texts, one after the other. -/
def hearAll (listener : Listener) (parser : Parser) (history : List Text) : Listener :=
  history.foldl (fun current music => (current.hear (parser.run music)).listener) listener

theorem Renews.hearAll {fresh used : Listener} (renews : Renews fresh used) (parser : Parser)
    (history : List Text) : Renews fresh (used.hearAll parser history) := by
  induction history generalizing used with
  | nil => exact renews
  | cons music rest inductionHypothesis => exact inductionHypothesis (renews.follow _)

theorem Renews.follow_start {fresh used : Listener} (renews : Renews fresh used)
    (rest : List Notice) : used.follow (.call .start :: rest) = fresh.follow rest := by
  rw [Listener.follow, receive_start renews.forgetful, renews.renewed_eq, Reaction.andThen_quiet]

/-- Listeners of one making that has received nothing hear the same parse alike, if it starts. -/
theorem Renews.hear_eq {fresh used other : Listener} (renews : Renews fresh used)
    (renewsOther : Renews fresh other) (rest : Run) :
    used.hear (rest.after [.call .start]) = other.hear (rest.after [.call .start]) := by
  simp only [hear, Run.after, List.singleton_append, renews.follow_start,
    renewsOther.follow_start]

theorem renews_renewed (forgetful : listener.Forgetful) :
    Renews listener.renewed listener.renewed := by
  have again := renews_receive forgetful .start
  rwa [receive_start forgetful] at again

theorem hear_of_invalid {parser : Parser} {failure : Failure}
    (invalid : Context.ofOptions parser.options = .error failure) (other : Listener) (music : Text) :
    other.hear (parser.run music) = ⟨other, [], .error failure⟩ := by
  rw [Parser.run_of_invalid invalid]
  rfl

theorem hearAll_of_invalid {parser : Parser} {failure : Failure}
    (invalid : Context.ofOptions parser.options = .error failure) (other : Listener)
    (history : List Text) : other.hearAll parser history = other := by
  induction history with
  | nil => rfl
  | cons music rest inductionHypothesis =>
      rw [hearAll, List.foldl_cons, hear_of_invalid invalid]
      exact inductionHypothesis

theorem exists_ofOptions_error {options : Options} {cause : Failure}
    (malformed : Context.initialKey options = .error cause
      ∨ Context.initialMeter options = .error cause) :
    ∃ failure, Context.ofOptions options = .error failure := by
  unfold Context.ofOptions
  cases key : Context.initialKey options with
  | error failure => exact ⟨failure, rfl⟩
  | ok initial =>
      rcases malformed with badKey | badMeter
      · simp [key] at badKey
      · exact ⟨cause, by simp only [badMeter]⟩

/-- A start empties the score and forgets the places of all voices, the current voice and the
current layer. So a builder finds no part of an earlier parse. -/
theorem receive_start_builder (state : ScoreBuilder) :
    state.receive .start = .quiet ⟨⟨[]⟩, [], 0, 0⟩
      ∧ ∀ track, (state.receive .start).next.part? track = none :=
  ⟨rfl, fun _ => rfl⟩

/-- A listener that forgets hears a parse behind any others as if it were fresh: it goes into the
same state with the same remarks, and the parse ends alike. For a builder this state is the
score, the places of the parts, the current voice and the current layer, which a start brings back
to nothing. If a default is refused, then all parses fail alike without a call, and every listener
stays as it is. -/
theorem hear_forgets_history (forgetful : listener.Forgetful) (parser : Parser)
    (history : List Text) (music : Text) :
    let used := listener.hearAll parser history
    (∀ state : ScoreBuilder, state.receive .start = .quiet ⟨⟨[]⟩, [], 0, 0⟩
        ∧ ∀ track, (state.receive .start).next.part? track = none)
      ∧ (listener.renewed = listener →
        used.hear (parser.run music) = listener.hear (parser.run music))
      ∧ (∀ context, Context.ofOptions parser.options = .ok context →
          used.hear (parser.run music) = listener.renewed.hear (parser.run music))
      ∧ ∀ cause, Context.initialKey parser.options = .error cause
            ∨ Context.initialMeter parser.options = .error cause →
          ∃ failure, ∀ (other : Listener) (text : Text),
            parser.run text = ⟨[], .error failure⟩
              ∧ other.hear (parser.run text) = ⟨other, [], .error failure⟩
              ∧ other.hearAll parser history = other := by
  intro used
  have alike : ∀ context, Context.ofOptions parser.options = .ok context →
      used.hear (parser.run music) = listener.renewed.hear (parser.run music) := by
    intro context valid
    have renews : Renews listener.renewed used := Renews.hearAll ⟨forgetful, rfl⟩ parser history
    rw [Parser.run_of_valid valid]
    exact renews.hear_eq (renews_renewed forgetful) _
  refine ⟨receive_start_builder, ?fresh, alike, ?malformed⟩
  case fresh =>
    intro isFresh
    cases started : Context.ofOptions parser.options with
    | ok context => exact (alike context started).trans (by rw [isFresh])
    | error failure =>
        have unchanged : used = listener := hearAll_of_invalid started listener history
        rw [unchanged]
  case malformed =>
    intro cause malformed
    obtain ⟨failure, invalid⟩ := exists_ofOptions_error malformed
    exact ⟨failure, fun other text => ⟨Parser.run_of_invalid invalid text,
      hear_of_invalid invalid other text, hearAll_of_invalid invalid other history⟩⟩

theorem hear_forgets_history_sample :
    let listener : Listener := .group [.collector [], .builder .fresh]
    let parser := Parser.usual { strict := .boolean true }
    let used := listener.hearAll parser ["V0 V1 V2".toText, "L2 oops".toText, "TIME:0/4".toText]
    listener.Forgetful ∧ listener.renewed = listener
      ∧ (parser.run "L2 oops".toText).result
          = .error (.token ⟨.unknownToken "oops".toText, "oops".toText, 3⟩)
      ∧ used.hear (parser.run "V5".toText) = listener.hear (parser.run "V5".toText)
      ∧ ∃ state : ScoreBuilder, (used.hear (parser.run "V5".toText)).listener
            = .group [.collector [.track 5], .builder state]
          ∧ state.score.parts = [.ofVoice 5] ∧ state.part? 5 = some (.ofVoice 5)
          ∧ state.part? 0 = none := by
  intro listener parser used
  have forgetful : Forgetful (.group [.collector [], .builder .fresh]) :=
    .group (List.forall_mem_cons.2 ⟨.collector [],
      List.forall_mem_singleton.2 (.builder .fresh)⟩)
  have same : used.hear (parser.run "V5".toText) = listener.hear (parser.run "V5".toText) :=
    (hear_forgets_history forgetful _ _ _).2.1 rfl
  let calls : List Call := [.start, .event (.track 5), .finish]
  have told : (parser.run "V5".toText).calls
      = (⟨calls.map .call, (parser.run "V5".toText).result⟩ : Run).calls :=
    (Parser.calls_run (by rfl) (by rfl) _).trans (by rfl)
  refine ⟨forgetful, rfl, (Parser.result_run (by rfl) (by rfl) _).trans (by rfl), same, ?_⟩
  rw [same, hear_congr told]
  exact ⟨⟨⟨[.ofVoice 5]⟩, [(5, 0)], 5, 0⟩, rfl, rfl, rfl, rfl⟩

end Listener

end MusicText
