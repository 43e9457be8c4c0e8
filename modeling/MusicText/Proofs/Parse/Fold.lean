import MusicText.Proofs.Listener.Hearing
import MusicText.Proofs.Token.Effect

/-!
Contract: a parse as a fold over the tokens of its text.

Owns: the fold, in which every token is read by itself, and the agreement of a parse with
it.

Does not own: why and where a parse fails; see `MusicText.Proofs.Parse.Failure`.

The parse goes through the text by positions and hands the recognisers all that remains.
The fold goes through the list of tokens and hands them one token at a time. The two differ
only in what they quote when they remark that a token is claimed.
-/

namespace MusicText

open MusicText.Text MusicText.Token MusicText.Token.Placed

/-! ### Runs -/

@[simp]
theorem Call.filterMap_event?_map (events : List Event) :
    (events.map Call.event).filterMap Call.event? = events := by
  rw [List.filterMap_map]
  exact List.filterMap_some

namespace Run

/-- A run without the remarks that tokens are claimed. -/
def withoutClaims (run : Run) : Run :=
  { run with notices := run.notices.filter (!·.isClaim) }

/-- A run whose end is called out, unless a token failed. -/
def finished (run : Run) : Run :=
  match run.result with
  | .error _ => run
  | .ok _ => { run with notices := run.notices ++ [.call .finish] }

def events (run : Run) : List Event :=
  run.calls.filterMap Call.event?

theorem withoutClaims_after (earlier : List Notice) (run : Run) :
    (run.after earlier).withoutClaims
      = run.withoutClaims.after (earlier.filter (!·.isClaim)) := by
  simp [withoutClaims, after]

theorem finished_after (earlier : List Notice) (run : Run) :
    (run.after earlier).finished = run.finished.after earlier := by
  obtain ⟨notices, result⟩ := run
  cases result <;> simp [finished, after]

theorem result_finished (run : Run) : run.finished.result = run.result := by
  unfold finished
  split <;> rfl

theorem events_of_calls_eq {run : Run} {events : List Event} {ended : Bool}
    (called : run.calls = .start :: (events.map .event ++ if ended then [.finish] else [])) :
    run.events = events := by
  rw [Run.events, called, List.filterMap_cons, List.filterMap_append, Call.filterMap_event?_map]
  cases ended <;> simp [Call.event?]

theorem mem_calls {run : Run} {content : Call} :
    content ∈ run.calls ↔ .call content ∈ run.notices := by
  simp only [calls, List.mem_filterMap]
  constructor
  · rintro ⟨notice, member, same⟩
    cases notice with
    | call other =>
        obtain rfl : other = content := by simpa using same
        exact member
    | remark other => simp at same
  · intro member
    exact ⟨_, member, rfl⟩

/-- A run that makes no calls but those of events makes the calls of its events. -/
theorem calls_eq_map_events {run : Run}
    (only : ∀ content ∈ run.calls, ∃ happening, content = .event happening) :
    run.calls = run.events.map .event := by
  unfold events
  generalize run.calls = calls at only ⊢
  induction calls with
  | nil => rfl
  | cons content rest inductionHypothesis =>
      obtain ⟨happening, rfl⟩ := only content (by simp)
      simp only [Call.event?, List.filterMap_cons, List.map_cons]
      rw [← inductionHypothesis fun other member => only other (List.mem_cons_of_mem _ member)]

theorem calls_finished (run : Run) :
    run.finished.calls = run.calls ++ if run.result.isOk then [.finish] else [] := by
  obtain ⟨notices, result⟩ := run
  cases result <;> simp [finished, calls, Except.isOk, Except.toBool]

theorem calls_after (earlier : List Notice) (run : Run) :
    (run.after earlier).calls = (⟨earlier, run.result⟩ : Run).calls ++ run.calls := by
  simp [calls, after]

theorem events_after (earlier : List Notice) (run : Run) :
    (run.after earlier).events = (⟨earlier, run.result⟩ : Run).events ++ run.events := by
  rw [events, calls_after, List.filterMap_append]
  rfl

/-- Remarks are no calls. -/
theorem calls_withoutClaims (run : Run) : run.withoutClaims.calls = run.calls := by
  simp only [calls, withoutClaims, List.filterMap_filter]
  congr 1
  funext notice
  cases notice with
  | call content => rfl
  | remark content => cases content <;> rfl

end Run

/-! ### The fold -/

namespace Parser

/-- Reads one more token by itself, unless an earlier one failed. -/
def readNext (parser : Parser) (run : Run) (token : Placed) : Run :=
  match run.result with
  | .error _ => run
  | .ok context =>
      let outcome := parser.readToken token.text context
      match outcome.result with
      | .error failure => ⟨run.notices ++ outcome.notices, .error (failure.placed token.position)⟩
      | .ok _ => ⟨run.notices ++ outcome.notices, .ok outcome.context⟩

/-- Reads tokens from left to right, each by itself, until one fails. -/
def readAll (parser : Parser) (tokens : List Placed) (context : Context) : Run :=
  tokens.foldl parser.readNext ⟨[], .ok context⟩

variable (parser : Parser)

theorem foldl_readNext_of_error {run : Run} {failure : Failure}
    (failed : run.result = .error failure) (tokens : List Placed) :
    tokens.foldl parser.readNext run = run := by
  induction tokens with
  | nil => rfl
  | cons token rest inductionHypothesis =>
      have unchanged : parser.readNext run token = run := by simp [readNext, failed]
      rw [List.foldl_cons, unchanged, inductionHypothesis]

theorem readNext_after (earlier : List Notice) (run : Run) (token : Placed) :
    parser.readNext (run.after earlier) token = (parser.readNext run token).after earlier := by
  obtain ⟨notices, result⟩ := run
  cases result with
  | error failure => rfl
  | ok context =>
      simp only [readNext, Run.after]
      cases (parser.readToken token.text context).result <;> simp [List.append_assoc]

theorem foldl_readNext_after (earlier : List Notice) (tokens : List Placed) (run : Run) :
    tokens.foldl parser.readNext (run.after earlier)
      = (tokens.foldl parser.readNext run).after earlier := by
  induction tokens generalizing run with
  | nil => rfl
  | cons token rest inductionHypothesis =>
      rw [List.foldl_cons, readNext_after, inductionHypothesis, List.foldl_cons]

theorem readAll_nil (context : Context) : parser.readAll [] context = ⟨[], .ok context⟩ :=
  rfl

theorem readAll_cons_of_error {token : Placed} {context : Context} {failure : Failure}
    (failed : (parser.readToken token.text context).result = .error failure)
    (rest : List Placed) :
    parser.readAll (token :: rest) context =
      ⟨(parser.readToken token.text context).notices,
        .error (failure.placed token.position)⟩ := by
  have read : parser.readNext ⟨[], .ok context⟩ token =
      ⟨(parser.readToken token.text context).notices,
        .error (failure.placed token.position)⟩ := by
    simp [readNext, failed]
  rw [readAll, List.foldl_cons, read, foldl_readNext_of_error parser rfl]

/-- A token that is read is followed by the others in the state that it leaves. -/
theorem readAll_cons_of_ok {token : Placed} {context : Context} {consumed : Int}
    (done : (parser.readToken token.text context).result = .ok consumed)
    (rest : List Placed) :
    parser.readAll (token :: rest) context =
      (parser.readAll rest (parser.readToken token.text context).context).after
        (parser.readToken token.text context).notices := by
  have read : parser.readNext ⟨[], .ok context⟩ token =
      (⟨[], .ok (parser.readToken token.text context).context⟩ : Run).after
        (parser.readToken token.text context).notices := by
    simp [readNext, done, Run.after]
  rw [readAll, List.foldl_cons, read, foldl_readNext_after]
  rfl

/-! ### The parse and the fold -/

variable {parser} in
theorem run_of_valid {context : Context} (valid : Context.ofOptions parser.options = .ok context)
    (music : Text) :
    parser.run music = (parser.runFrom 0 music context).after [.call .start] := by
  simp only [run, valid]

variable {parser} in
/-- With an invalid default no music is read, and the listener is not told of anything. -/
theorem run_of_invalid {failure : Failure}
    (invalid : Context.ofOptions parser.options = .error failure) (music : Text) :
    parser.run music = ⟨[], .error failure⟩ := by
  simp only [run, invalid]

variable (options : Options)

/-- In the usual parse, all the remaining music has the effect of its first token, but for
the claim. -/
theorem readToken_agrees (remaining : Text) (context : Context) :
    ((usual options).readToken remaining context).withoutClaim
      = ((usual options).readToken (first remaining) context).withoutClaim := by
  rw [withoutClaim_readToken, withoutClaim_readToken, first_first]

/-- A reading without the claim is one of the effects of the token. -/
theorem does_readToken {token : Text} (unspaced : ∀ c ∈ token, isPart c) (context : Context) :
    ∃ outcome, Does options token context outcome ∧
      ((usual options).readToken token context).withoutClaim = outcome.withoutClaim := by
  refine ⟨_, does_effect unspaced, ?_⟩
  rw [withoutClaim_readToken, first_eq_self unspaced]

/-- Outcomes that differ in claims only report the same events. -/
theorem events_of_withoutClaim_eq {outcome other : Outcome}
    (same : outcome.withoutClaim = other.withoutClaim) (result ending : Except Failure Context) :
    (⟨outcome.notices, result⟩ : Run).events = (⟨other.notices, ending⟩ : Run).events := by
  have notices : outcome.notices.filter (!·.isClaim) = other.notices.filter (!·.isClaim) :=
    congrArg Outcome.notices same
  rw [Run.events, Run.events, ← Run.calls_withoutClaims, Run.withoutClaims, notices,
    ← Run.calls_withoutClaims ⟨other.notices, ending⟩]
  rfl

/-- A token that is accepted with one event is read, and calls out this event. -/
theorem readToken_of_accepted {token : Text} {context next : Context} {happening : Event}
    (unspaced : ∀ c ∈ token, isPart c) (remarks : List Remark)
    (accepted : effect options token context
      = .accepted next (remarks.map .remark ++ [.call (.event happening)]) token) :
    let outcome := (usual options).readToken token context
    (∃ consumed, outcome.result = .ok consumed) ∧ outcome.context = next
      ∧ (⟨outcome.notices, .ok outcome.context⟩ : Run).events = [happening] := by
  intro outcome
  have same := withoutClaim_readToken options token context
  rw [first_eq_self unspaced, accepted] at same
  refine ⟨⟨_, congrArg Outcome.result same⟩, congrArg Outcome.context same, ?_⟩
  rw [events_of_withoutClaim_eq same _ (.ok next)]
  simp [Outcome.accepted, Run.events, Run.calls, Call.event?]

/-- A reading of the remaining music moves past the first token and the space behind it. -/
theorem advance_of_readToken {remaining : Text} {context : Context} {consumed : Int}
    (done : ((usual options).readToken remaining context).result = .ok consumed) :
    advance consumed = (first remaining).length + 1 := by
  obtain ⟨outcome, does, same⟩ :=
    does_readToken options (fun c (member : c ∈ first remaining) => isPart_of_mem_first member)
      context
  have read : outcome.result = .ok consumed := by
    rw [← done]
    exact ((congrArg Outcome.result (readToken_agrees options remaining context)).trans
      (congrArg Outcome.result same)).symm
  have counted := does.consumed_eq read
  simp only [advance, counted]
  omega

theorem runFrom_of_error {c : CodePoint} {rest : Text} {context : Context} {failure : Failure}
    (solid : isBlank c = false)
    (failed : ((usual options).readToken (c :: rest) context).result = .error failure)
    (position : Nat) :
    (usual options).runFrom position (c :: rest) context =
      ⟨((usual options).readToken (c :: rest) context).notices,
        .error (failure.placed position)⟩ := by
  rw [runFrom, if_neg (by simp [solid])]
  simp only [failed]

theorem runFrom_of_ok {c : CodePoint} {rest : Text} {context : Context} {consumed : Int}
    (solid : isBlank c = false)
    (done : ((usual options).readToken (c :: rest) context).result = .ok consumed)
    (position : Nat) :
    (usual options).runFrom position (c :: rest) context =
      ((usual options).runFrom (position + ((first (c :: rest)).length + 1))
        ((c :: rest).drop ((first (c :: rest)).length + 1))
        ((usual options).readToken (c :: rest) context).context).after
          ((usual options).readToken (c :: rest) context).notices := by
  rw [runFrom, if_neg (by simp [solid])]
  simp only [done, advance_of_readToken options done]

/-- The parse from a position on is the fold over the tokens from there on. -/
theorem withoutClaims_runFrom (position : Nat) (music : Text) (context : Context) :
    ((usual options).runFrom position music context).withoutClaims
      = ((usual options).readAll (sequenceFrom position music) context).finished.withoutClaims := by
  induction position, music using sequence_induction generalizing context with
  | empty position =>
      rw [runFrom, sequenceFrom_nil, readAll_nil]
      rfl
  | blank position c rest blank inductionHypothesis =>
      rw [runFrom, if_pos blank, sequenceFrom_blank blank]
      exact inductionHypothesis context
  | token position c rest solid inductionHypothesis =>
      -- The parse reads all of the remaining music here, the fold only the token in front. Both
      -- give the same result, and the same state to go on with behind the space.
      have agrees := readToken_agrees options (c :: rest) context
      have sameResult := congrArg Outcome.result agrees
      have sameContext := congrArg Outcome.context agrees
      have sameNotices := congrArg Outcome.notices agrees
      simp only [Outcome.withoutClaim] at sameResult sameContext sameNotices
      rw [sequenceFrom_token solid]
      cases read : ((usual options).readToken (c :: rest) context).result with
      | error failure =>
          rw [runFrom_of_error options solid read, readAll_cons_of_error _ (sameResult ▸ read)]
          simp only [Run.withoutClaims, Run.finished, sameNotices]
      | ok consumed =>
          rw [runFrom_of_ok options solid read, readAll_cons_of_ok _ (sameResult ▸ read),
            Run.finished_after, Run.withoutClaims_after, Run.withoutClaims_after,
            inductionHypothesis, sameContext, sameNotices]

/-- Every notice of a fold, apart from the claims, is given by one of the tokens. -/
theorem exists_does_of_notice {tokens : List Placed} {context : Context} {notice : Notice}
    (unspaced : ∀ token ∈ tokens, ∀ c ∈ token.text, isPart c) (unclaimed : notice.isClaim = false)
    (member : notice ∈ ((usual options).readAll tokens context).notices) :
    ∃ token ∈ tokens, ∃ reached outcome,
      Does options token.text reached outcome ∧ notice ∈ outcome.notices := by
  induction tokens generalizing context with
  | nil => simp [readAll_nil] at member
  | cons token rest inductionHypothesis =>
      have own : notice ∈ ((usual options).readToken token.text context).notices →
          ∃ outcome, Does options token.text context outcome ∧ notice ∈ outcome.notices := by
        intro given
        obtain ⟨outcome, does, same⟩ := does_readToken options (unspaced token (by simp)) context
        have kept : notice ∈ outcome.withoutClaim.notices := by
          rw [← same]
          exact List.mem_filter.2 ⟨given, by simp [unclaimed]⟩
        exact ⟨outcome, does, (List.mem_filter.1 kept).1⟩
      cases read : ((usual options).readToken token.text context).result with
      | error failure =>
          rw [readAll_cons_of_error _ read] at member
          exact ⟨token, by simp, context, own member⟩
      | ok consumed =>
          rw [readAll_cons_of_ok _ read, Run.after, List.mem_append] at member
          rcases member with inFirst | later
          · exact ⟨token, by simp, context, own inFirst⟩
          · obtain ⟨other, inRest, found⟩ := inductionHypothesis
              (fun other inRest => unspaced other (List.mem_cons_of_mem _ inRest)) later
            exact ⟨other, List.mem_cons_of_mem _ inRest, found⟩

theorem exists_does_of_call {tokens : List Placed} {context : Context} {content : Call}
    (unspaced : ∀ token ∈ tokens, ∀ c ∈ token.text, isPart c)
    (member : content ∈ ((usual options).readAll tokens context).calls) :
    ∃ token ∈ tokens, ∃ reached outcome,
      Does options token.text reached outcome ∧ .call content ∈ outcome.notices :=
  exists_does_of_notice options unspaced rfl (Run.mem_calls.1 member)

/-- A fold over tokens calls out its events and nothing else. -/
theorem calls_readAll {tokens : List Placed} (context : Context)
    (unspaced : ∀ token ∈ tokens, ∀ c ∈ token.text, isPart c) :
    ((usual options).readAll tokens context).calls
      = ((usual options).readAll tokens context).events.map .event := by
  apply Run.calls_eq_map_events
  intro content member
  obtain ⟨token, -, reached, outcome, does, called⟩ := exists_does_of_call options unspaced member
  exact does.exists_event_of_call called

variable {options}

/-- A parse is the fold between the calls of start and finish. -/
theorem withoutClaims_run {key : Key} {meter : Meter}
    (keyRead : Context.initialKey options = .ok key)
    (meterRead : Context.initialMeter options = .ok meter) (music : Text) :
    ((usual options).run music).withoutClaims
      = (((usual options).readAll (sequence music)
          ⟨key, meter, .builtIn⟩).finished.withoutClaims).after [.call .start] := by
  have valid : Context.ofOptions (usual options).options = .ok ⟨key, meter, .builtIn⟩ := by
    simp [Context.ofOptions, usual, keyRead, meterRead]
  rw [run_of_valid valid, Run.withoutClaims_after, withoutClaims_runFrom]
  rfl

theorem result_run {key : Key} {meter : Meter}
    (keyRead : Context.initialKey options = .ok key)
    (meterRead : Context.initialMeter options = .ok meter) (music : Text) :
    ((usual options).run music).result
      = ((usual options).readAll (sequence music) ⟨key, meter, .builtIn⟩).result := by
  have agrees := congrArg Run.result (withoutClaims_run keyRead meterRead music)
  simpa only [Run.withoutClaims, Run.after, Run.result_finished] using agrees

/-- The listener is told of the start, of the events of the tokens in order, and of the end
unless a token fails. -/
theorem calls_run {key : Key} {meter : Meter}
    (keyRead : Context.initialKey options = .ok key)
    (meterRead : Context.initialMeter options = .ok meter) (music : Text) :
    let fold := (usual options).readAll (sequence music) ⟨key, meter, .builtIn⟩
    ((usual options).run music).calls
      = .start :: (fold.events.map .event ++ if fold.result.isOk then [.finish] else []) := by
  intro fold
  have unspaced : ∀ token ∈ sequence music, ∀ c ∈ token.text, isPart c :=
    fun _ member => unspaced_of_mem member
  have agrees := congrArg Run.calls (withoutClaims_run keyRead meterRead music)
  rw [Run.calls_withoutClaims, Run.calls_after, Run.calls_withoutClaims, Run.calls_finished,
    calls_readAll options _ unspaced] at agrees
  exact agrees

theorem exists_of_ofOptions_ok {context : Context} (valid : Context.ofOptions options = .ok context) :
    ∃ key meter, Context.initialKey options = .ok key ∧ Context.initialMeter options = .ok meter
      ∧ context = ⟨key, meter, .builtIn⟩ := by
  unfold Context.ofOptions at valid
  cases keyRead : Context.initialKey options with
  | error failure => simp [keyRead] at valid
  | ok key =>
      cases meterRead : Context.initialMeter options with
      | error failure => simp [keyRead, meterRead] at valid
      | ok meter =>
          simp only [keyRead, meterRead] at valid
          exact ⟨key, meter, rfl, rfl, (Except.ok.inj valid).symm⟩

/-- A parse that begins is the fold, as far as its end and its calls go. -/
theorem run_eq_readAll_of_valid {context : Context}
    (valid : Context.ofOptions options = .ok context) (music : Text) :
    let fold := (usual options).readAll (sequence music) context
    ((usual options).run music).result = fold.result
      ∧ ((usual options).run music).calls
        = .start :: (fold.events.map .event ++ if fold.result.isOk then [.finish] else []) := by
  obtain ⟨key, meter, keyRead, meterRead, rfl⟩ := exists_of_ofOptions_ok valid
  exact ⟨result_run keyRead meterRead music, calls_run keyRead meterRead music⟩

/-- Parses with the same defaults make the same calls and end alike in some view, if the folds
over their tokens do. -/
theorem run_congr {other : Options} {music text : Text} {View : Type}
    (view : Except Failure Context → View)
    (tellsFailure : ∀ {one two}, view one = view two → one.isOk = two.isOk)
    (same : Context.ofOptions other = Context.ofOptions options)
    (alike : ∀ context,
      ((usual other).readAll (sequence text) context).calls
          = ((usual options).readAll (sequence music) context).calls
        ∧ view ((usual other).readAll (sequence text) context).result
          = view ((usual options).readAll (sequence music) context).result) :
    ((usual other).run text).calls = ((usual options).run music).calls
      ∧ view ((usual other).run text).result = view ((usual options).run music).result := by
  cases started : Context.ofOptions options with
  | error failure =>
      rw [run_of_invalid (by exact same.trans started), run_of_invalid (by exact started)]
      exact ⟨rfl, rfl⟩
  | ok context =>
      obtain ⟨result, calls⟩ := run_eq_readAll_of_valid started music
      obtain ⟨otherResult, otherCalls⟩ := run_eq_readAll_of_valid (same.trans started) text
      obtain ⟨sameCalls, sameResult⟩ := alike context
      rw [result, calls, otherResult, otherCalls, Run.events, sameCalls, tellsFailure sameResult]
      exact ⟨rfl, sameResult⟩

/-- A parse with valid defaults is the fold over the tokens of the music. The tokens are the
pieces between spaces without the blanks in front; they stand one behind the other, every
character that is not blank belongs to exactly one of them, and none has an effect that
depends on what follows it. A
listener that is never interrupted receives the start, the events of the tokens in order,
and the end exactly when no token fails. -/
theorem run_refines_readAll {key : Key} {meter : Meter}
    (keyRead : Context.initialKey options = .ok key)
    (meterRead : Context.initialMeter options = .ok meter) (music : Text) :
    let run := (usual options).run music
    let tokens := sequence music
    let fold := (usual options).readAll tokens ⟨key, meter, .builtIn⟩
    tokens.map Placed.text
        = ((pieces (· == ' ') music).map (·.dropWhile isBlank)).filter (· ≠ [])
      ∧ (tokens.Pairwise fun earlier later =>
          earlier.position + earlier.text.length < later.position)
      ∧ (∀ place c, music[place]? = some c → isBlank c = false →
          ∃! token, token ∈ tokens ∧ token.Covers place)
      ∧ (∀ token ∈ tokens, token.text = first (music.drop token.position))
      ∧ (∀ text rest context, (∀ c ∈ text, isPart c) →
          ((usual options).readToken (text ++ .scalar ' ' :: rest) context).withoutClaim
            = ((usual options).readToken text context).withoutClaim)
      ∧ run.calls
          = .start :: (fold.events.map .event ++ if fold.result.isOk then [.finish] else [])
      ∧ run.result = fold.result
      ∧ ∀ listener : Listener, listener.Endures run →
          (listener.hear run).listener = listener.receiveAll run.calls
            ∧ (listener.hear run).result = fold.result := by
  intro run tokens fold
  refine ⟨map_text_ofPieces 0 _, pairwise_sequenceFrom 0 music, ?covered, ?there, ?alone,
    calls_run keyRead meterRead music, result_run keyRead meterRead music, ?heard⟩
  case covered =>
    intro place c character solid
    have found := existsUnique_covers 0 character solid
    rw [Nat.zero_add] at found
    exact found
  case there =>
    intro token member
    exact text_eq_first_drop member
  case alone =>
    intro text rest context unspaced
    rw [readToken_agrees, first_append_space unspaced]
  case heard =>
    intro listener endures
    have heard := Listener.hear_of_endures endures
    exact ⟨heard.1, heard.2.trans (result_run keyRead meterRead music)⟩

theorem run_refines_readAll_sample :
    Context.initialKey {} = .ok ⟨⟨60, some "C".toText⟩, .major⟩
      ∧ Context.initialMeter {} = .ok ⟨4, 4, by decide, by decide⟩
      ∧ ((usual {}).run "\tV1  \nI7 KEY:Gmaj ".toText).calls
          = [.start, .event (.track 1), .event (.instrument 7), .event (.key 7 1), .finish] := by
  refine ⟨by rfl, by rfl, ?_⟩
  exact (run_refines_readAll (by rfl) (by rfl) _).2.2.2.2.2.1.trans (by rfl)

end Parser

end MusicText
