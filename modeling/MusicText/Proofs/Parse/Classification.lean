import Mathlib.Data.List.Find
import MusicText.Proofs.Parse.Dispatch
import MusicText.Proofs.Parse.Leniency
import MusicText.Proofs.Parse.Single
import MusicText.Proofs.Token.Reading

/-!
Contract: what the kind of a token says about its parse.

Owns: the path of unknown tokens, the answers of the recognisers, which of them the kind of a
token foretells, and the dispatches of a parse with the usual recognisers.

Does not own: the values that events carry; see `MusicText.Proofs.Token.Effect`.

The kind is told from the token alone, and a parse dispatches all the remaining music. Both ask
the same recognisers in the same order, and no recogniser looks behind the first space to decide
whether it accepts.
-/

namespace MusicText

open MusicText.Text MusicText.Token MusicText.Token.Placed

/-! ### Failures of recognisers -/

/-- Whether a failure says that no recogniser takes the token. -/
def Failure.isOfUnknownToken : Failure → Bool
  | .token ⟨.unknownToken _, _, _⟩ => true
  | .token _ | .fault _ | .notText _ _ => false

theorem Failure.isOfUnknownToken_placed (position : Nat) (failure : Failure) :
    (failure.placed position).isOfUnknownToken = failure.isOfUnknownToken := by
  cases failure with
  | token located => cases located with | mk defect token place => cases defect <;> rfl
  | fault cause | notText kind operation => rfl

namespace Token

variable {failure : Failure}

theorem isOfUnknownToken_of_valueOf {definitions : Definitions} {identifier : Text}
    (refused : Value.valueOf definitions identifier = .error failure) :
    failure.isOfUnknownToken = false := by
  obtain ⟨-, unresolved⟩ := resolve_of_valueOf_error refused
  unfold Value.resolve at unresolved
  split at unresolved
  · split at unresolved
    · cases unresolved
    · exact Except.error.inj unresolved ▸ rfl
  · simp only at unresolved
    split at unresolved
    · exact Except.error.inj unresolved ▸ rfl
    · split at unresolved
      · cases unresolved
      · exact Except.error.inj unresolved ▸ rfl
      · exact Except.error.inj unresolved ▸ rfl

theorem isOfUnknownToken_of_readKey {text : Text}
    (refused : Signature.readKey text = .error failure) : failure.isOfUnknownToken = false := by
  unfold Signature.readKey at refused
  split at refused
  · exact Except.error.inj refused ▸ rfl
  · split at refused
    · simp only [Signature.countedKey] at refused
      split at refused
      · exact Except.error.inj refused ▸ rfl
      · split at refused
        · exact Except.error.inj refused ▸ rfl
        · cases refused
    · split at refused
      · exact Except.error.inj refused ▸ rfl
      · cases refused

variable {recogniser : Recogniser} {music : Text} {context : Context}

theorem isOfUnknownToken_of_readKeyToken {token : Text}
    (refused : (Signature.readKeyToken token context).result = .error failure) :
    failure.isOfUnknownToken = false := by
  unfold Signature.readKeyToken at refused
  split at refused
  · rename_i cause read
    obtain rfl : cause = failure := Except.error.inj refused
    exact isOfUnknownToken_of_readKey read
  · cases refused

theorem isOfUnknownToken_of_readMeterToken {token : Text}
    (refused : (Signature.readMeterToken token context).result = .error failure) :
    failure.isOfUnknownToken = false := by
  simp only [Signature.readMeterToken] at refused
  split at refused
  · exact Except.error.inj refused ▸ rfl
  · split at refused
    · exact Except.error.inj refused ▸ rfl
    · cases refused

/-- No recogniser refuses a token as unknown. -/
theorem isOfUnknownToken_of_read (usual : recogniser ∈ Parser.usualRecognisers)
    (refused : (recogniser.read music context).result = .error failure) :
    failure.isOfUnknownToken = false := by
  rcases eq_value_or_eq_signature usual with rfl | rfl
  · simp only [Value.recogniser, Value.read] at refused
    split at refused
    · cases refused
    · split at refused
      · rename_i cause read
        obtain rfl : cause = failure := Except.error.inj refused
        exact isOfUnknownToken_of_valueOf read
      · cases refused
  · simp only [Signature.recogniser, Signature.read] at refused
    split at refused
    · exact isOfUnknownToken_of_readKeyToken refused
    · split at refused
      · exact isOfUnknownToken_of_readMeterToken refused
      · cases refused

/-! ### Kinds -/

theorem accepts_first (usual : recogniser ∈ Parser.usualRecognisers) (music : Text) :
    recogniser.accepts (first music) = recogniser.accepts music := by
  rcases eq_value_or_eq_signature usual with rfl | rfl
  · simp only [Value.recogniser, markerOf?_first]
  · simp only [Signature.recogniser, beginsWithKey_first, beginsWithMeter_first]

theorem kind_first (usual : recogniser ∈ Parser.usualRecognisers) (music : Text) :
    recogniser.kind (first music) = recogniser.kind music := by
  rcases eq_value_or_eq_signature usual with rfl | rfl
  · simp only [Value.recogniser, markerOf?_first]
  · simp only [Signature.recogniser, Signature.kind, beginsWithKey_first, beginsWithMeter_first]

/-- A recogniser knows the kinds of all tokens that it accepts. -/
theorem kind_ne_unknown (usual : recogniser ∈ Parser.usualRecognisers)
    (own : recogniser.accepts music = true) : recogniser.kind music ≠ .unknown := by
  rcases eq_value_or_eq_signature usual with rfl | rfl
  · obtain ⟨marker, found⟩ := Option.isSome_iff_exists.1 own
    simp only [Value.recogniser, found, Option.map_some, Option.getD_some]
    cases marker <;> decide
  · simp only [Signature.recogniser, Signature.kind] at own ⊢
    by_cases key : Signature.beginsWithKey music = true
    · rw [if_pos key]
      decide
    · have meter : Signature.beginsWithMeter music = true := by simpa [key] using own
      rw [if_neg key, if_pos meter]
      decide

end Token

namespace Parser

variable {options : Options} {recogniser : Recogniser} {text : Text}

theorem usual_of_recogniserOf? (found : (usual options).recogniserOf? text = some recogniser) :
    recogniser ∈ usualRecognisers ∧ recogniser.accepts text = true :=
  ⟨List.mem_of_find?_eq_some found, (List.find?_eq_some_iff_append.1 found).1⟩

/-- The remaining music is dispatched to the recogniser of its first token. -/
theorem recogniserOf?_first (options : Options) (music : Text) :
    (usual options).recogniserOf? (first music) = (usual options).recogniserOf? music := by
  apply List.find?_congr
  intro recogniser member
  exact accepts_first member music

theorem kindOf_of_recogniserOf? {parser : Parser}
    (found : parser.recogniserOf? text = some recogniser) :
    parser.kindOf text = recogniser.kind text := by
  simp only [kindOf, found]

theorem familiar_of_recogniserOf? (found : (usual options).recogniserOf? text = some recogniser) :
    isForeign text = false := by
  refine Bool.eq_false_iff.2 fun foreign => ?_
  rw [recogniserOf?_eq_none_iff.2 foreign] at found
  cases found

theorem kindOf_eq_unknown_iff : (usual options).kindOf text = .unknown ↔ isForeign text := by
  cases found : (usual options).recogniserOf? text with
  | none => exact iff_of_true (by simp only [kindOf, found]) (recogniserOf?_eq_none_iff.1 found)
  | some recogniser =>
      obtain ⟨member, own⟩ := usual_of_recogniserOf? found
      rw [kindOf_of_recogniserOf? found, familiar_of_recogniserOf? found]
      exact iff_of_false (kind_ne_unknown member own) Bool.false_ne_true

end Parser

/-! ### The two paths of a token -/

/-- What a run shows: the events and the warnings in order, and how it ends. -/
structure Shown where
  events : List Event
  warnings : List Remark
  result : Except Failure Context

def Run.shown (run : Run) : Shown :=
  ⟨run.events, run.warnings, run.result⟩

/-- The path of unknown tokens. A strict parse fails at the token, a lenient one warns of it and
goes on. No event is reported. -/
inductive PassesUnknown (options : Options) (token : Placed) : Shown → Prop
  | refused (strict : options.isStrict = true) :
      PassesUnknown options token
        ⟨[], [], .error (.token ⟨.unknownToken token.text, token.text, token.position⟩)⟩
  | warned (lenient : options.isStrict = false) (next : Context) :
      PassesUnknown options token ⟨[], [.tokenUnknown token.text], .ok next⟩

/-- The answer of a recogniser to a token of a kind: one event of this kind, or the failure of its
own reading, which is none of an unknown token. -/
inductive AnswersAs (kind : TokenKind) (position : Nat) (reading : Outcome) : Shown → Prop
  | reported (happening : Event) (kind_eq : happening.kind = kind) (next : Context) :
      AnswersAs kind position reading ⟨[happening], [], .ok next⟩
  | refused (failure : Failure) (own : reading.result = .error failure)
      (familiar : failure.isOfUnknownToken = false) :
      AnswersAs kind position reading ⟨[], [], .error (failure.placed position)⟩

theorem AnswersAs.not_passesUnknown {kind : TokenKind} {position : Nat} {reading : Outcome}
    {options : Options} {token : Placed} {shown : Shown}
    (answers : AnswersAs kind position reading shown) : ¬ PassesUnknown options token shown := by
  intro passes
  cases answers with
  | reported => cases passes
  | refused failure own familiar =>
      generalize sameResult : (Except.error (failure.placed position) : Except Failure Context)
        = result at passes
      cases passes with
      | refused =>
          have unplaced := failure.isOfUnknownToken_placed position
          rw [Except.error.inj sameResult, familiar] at unplaced
          cases unplaced

/-- Whether a token that is read in some state shows what its kind foretells: the path of unknown
tokens exactly when the kind is unknown, else the answer of the recogniser that the token is
classified by. -/
structure Foretold (options : Options) (token : Placed) (context : Context) (shown : Shown) :
    Prop where
  unknown_iff :
    (Parser.usual options).kindOf token.text = .unknown ↔ PassesUnknown options token shown
  answered : (Parser.usual options).kindOf token.text ≠ .unknown →
    ∃ recogniser ∈ Parser.usualRecognisers,
      (Parser.usual options).recogniserOf? token.text = some recogniser
        ∧ AnswersAs ((Parser.usual options).kindOf token.text) token.position
            (recogniser.read token.text context) shown

/-- A token that does not fail reports an event of its kind, unless it is unknown. -/
theorem Foretold.map_kind_events {options : Options} {token : Placed} {context : Context}
    {shown : Shown} (foretold : Foretold options token context shown)
    (done : shown.result.isOk) :
    shown.events.map Event.kind
      = [(Parser.usual options).kindOf token.text].filter fun kind => kind ≠ .unknown := by
  by_cases unknown : (Parser.usual options).kindOf token.text = .unknown
  · have passes := foretold.unknown_iff.1 unknown
    rw [unknown]
    cases passes with
    | refused strict => cases done
    | warned lenient next => rfl
  · obtain ⟨recogniser, -, -, answers⟩ := foretold.answered unknown
    rw [List.filter_cons_of_pos (by simpa using unknown), List.filter_nil]
    cases answers with
    | reported happening kindEq next => rw [List.map_singleton, kindEq]
    | refused failure own familiar => cases done

/-! ### One dispatch -/

namespace Dispatch

/-- What a dispatch adds to the run of a parse: its notices, and the state that it leaves or its
failure with the place of the token. -/
def part (dispatch : Dispatch) : Run :=
  ⟨dispatch.outcome.notices,
    match dispatch.outcome.result with
    | .error failure => .error (failure.placed dispatch.position)
    | .ok _ => .ok dispatch.outcome.context⟩

/-- The token at which music is dispatched. -/
def token (music : Text) (dispatch : Dispatch) : Placed :=
  ⟨dispatch.position, first (music.drop dispatch.position)⟩

end Dispatch

namespace Parser

variable {options : Options} {recogniser : Recogniser} {music : Text} {context : Context}

theorem readToken_of_recogniserOf? {parser : Parser}
    (found : parser.recogniserOf? music = some recogniser) (context : Context) :
    parser.readToken music context
      = { recogniser.read music context with
          notices :=
            .remark (.tokenClaimed recogniser.name (music.take openingLength))
              :: (recogniser.read music context).notices } := by
  rw [readToken, found]

/-- The remaining music is read without a warning if it does not begin with a foreign token. -/
theorem warnings_readToken_of_remaining (familiar : isForeign music = false) (options : Options)
    (context : Context) (result : Except Failure Context) :
    (⟨((usual options).readToken music context).notices, result⟩ : Run).warnings = [] := by
  have agrees := congrArg Outcome.notices (readToken_agrees options music context)
  simp only [Outcome.withoutClaim] at agrees
  rw [← Run.warnings_withoutClaims, Run.withoutClaims, agrees]
  refine (Run.warnings_withoutClaims
    ⟨((usual options).readToken (first music) context).notices, result⟩).trans ?_
  exact warnings_readToken_of_familiar (fun _ => isPart_of_mem_first)
    ((isForeign_first music).trans familiar) options context result

theorem passesUnknown_of_foreign (foreign : isForeign music) (position : Nat) :
    PassesUnknown options ⟨position, first music⟩
      (Dispatch.part ⟨position, context, (usual options).readToken music context⟩).shown := by
  rw [readToken_of_foreign foreign]
  cases strict : options.isStrict with
  | true =>
      rw [passUnknown_strict strict]
      exact .refused strict
  | false =>
      rw [passUnknown_lenient strict]
      exact .warned strict context

theorem answersAs_of_recogniserOf? (found : (usual options).recogniserOf? music = some recogniser)
    (position : Nat) (context : Context) :
    AnswersAs (recogniser.kind music) position (recogniser.read music context)
      (Dispatch.part ⟨position, context, (usual options).readToken music context⟩).shown := by
  obtain ⟨member, own⟩ := usual_of_recogniserOf? found
  have unwarned :=
    warnings_readToken_of_remaining (familiar_of_recogniserOf? found) options context
  have answers := answers_read member own context
  have refusal : ∀ failure, (recogniser.read music context).result = .error failure →
      failure.isOfUnknownToken = false := fun _ => isOfUnknownToken_of_read member
  rw [readToken_of_recogniserOf? found] at unwarned ⊢
  -- All that is left of the reading is what its answer says.
  generalize recogniser.read music context = outcome at answers refusal unwarned ⊢
  cases answers with
  | reported happening kindEq result calls changes =>
      simp only [Run.shown, Dispatch.part, result, unwarned]
      have told : (⟨.remark (.tokenClaimed recogniser.name (music.take openingLength))
          :: outcome.notices, .ok outcome.context⟩ : Run).events = [happening] :=
        congrArg (List.filterMap Call.event?) calls
      rw [told]
      exact .reported happening kindEq _
  | refused failure => exact .refused failure rfl (refusal failure rfl)

/-- Every dispatch shows what the kind of the token in front foretells. -/
theorem foretold_part (options : Options) (music : Text) (position : Nat) (context : Context) :
    Foretold options ⟨position, first music⟩ context
      (Dispatch.part ⟨position, context, (usual options).readToken music context⟩).shown := by
  by_cases foreign : isForeign music = true
  · have unknown : (usual options).kindOf (first music) = .unknown :=
      kindOf_eq_unknown_iff.2 ((isForeign_first music).trans foreign)
    exact ⟨iff_of_true unknown (passesUnknown_of_foreign foreign position),
      fun known => absurd unknown known⟩
  · have known : (usual options).kindOf (first music) ≠ .unknown := by
      rwa [ne_eq, kindOf_eq_unknown_iff, isForeign_first]
    obtain ⟨recogniser, found⟩ :
        ∃ recogniser, (usual options).recogniserOf? music = some recogniser := by
      rw [← Option.isSome_iff_exists, Option.isSome_iff_ne_none, ne_eq, recogniserOf?_eq_none_iff]
      exact foreign
    have answers := answersAs_of_recogniserOf? found position context
    obtain ⟨member, -⟩ := usual_of_recogniserOf? found
    rw [← recogniserOf?_first] at found
    rw [← kind_first member, ← kindOf_of_recogniserOf? found, ← read_first member] at answers
    exact ⟨iff_of_false known answers.not_passesUnknown,
      fun _ => ⟨recogniser, member, found, answers⟩⟩

/-! ### Music that is one token -/

theorem shown_started_finished (run : Run) :
    (run.finished.after [.call .start]).shown = run.shown := by
  have events : (run.finished.after [.call .start]).events = run.events := by
    rw [Run.events_after, show (⟨[.call .start], run.finished.result⟩ : Run).events = [] from rfl,
      List.nil_append, Run.events, Run.calls_finished, List.filterMap_append, Run.events]
    split <;> simp [Call.event?]
  have warnings : (run.finished.after [.call .start]).warnings = run.warnings := by
    rw [Run.warnings_after, Run.warnings_finished]
    rfl
  have result : (run.finished.after [.call .start]).result = run.result :=
    Run.result_finished run
  rw [Run.shown, events, warnings, result, Run.shown]

variable {initial : Context}

/-- A parse of one token is its dispatch between the start and the end. -/
theorem run_of_single {token : Text} (valid : Context.ofOptions options = .ok initial)
    (single : IsSingle token) :
    (usual options).run token
      = (Dispatch.part ⟨0, initial, (usual options).readToken token initial⟩).finished.after
          [.call .start] := by
  obtain ⟨unspaced, c, begins, solid⟩ := single
  cases token with
  | nil => cases begins
  | cons d rest =>
      obtain rfl : d = c := Option.some.inj begins
      rw [run_of_valid valid]
      cases read : ((usual options).readToken (d :: rest) initial).result with
      | error failure =>
          rw [runFrom_of_error options solid read]
          simp only [Dispatch.part, read, Run.finished]
      | ok consumed =>
          rw [runFrom_of_ok options solid read, first_eq_self unspaced,
            List.drop_eq_nil_of_le (Nat.le_succ _), runFrom_nil]
          simp only [Dispatch.part, read, Run.finished, Run.after]

theorem calls_run_of_valid (valid : Context.ofOptions options = .ok initial) (music : Text) :
    let run := (usual options).run music
    run.calls = .start :: (run.events.map .event ++ if run.result.isOk then [.finish] else []) := by
  intro run
  obtain ⟨result, calls⟩ := run_eq_readAll_of_valid valid music
  have events := Run.events_of_calls_eq calls
  rw [events, result, calls]

/-! ### The dispatches of a parse -/

variable {position : Nat} {dispatches : List Dispatch} {run : Run}

theorem sequenceFrom_drop (music : Text) (position distance : Nat) :
    sequenceFrom (position + distance) ((music.drop position).drop distance)
      = sequenceFrom (min (position + distance) music.length)
          (music.drop (min (position + distance) music.length)) := by
  refine drop_clamped sequenceFrom ?_ music position distance
  intro one two
  rw [sequenceFrom_nil, sequenceFrom_nil]

/-- The dispatches are the tokens that are reached. -/
theorem Walks.map_token (walks : (usual options).Walks music position context dispatches run) :
    dispatches.map (Dispatch.token music)
      = (usual options).reached (sequenceFrom position (music.drop position)) context := by
  induction walks with
  | ended context =>
      rw [List.drop_length, sequenceFrom_nil]
      rfl
  | passed there blank rest inductionHypothesis =>
      rw [inductionHypothesis, drop_eq_cons there, sequenceFrom_blank blank]
  | @failed position c context outcome failure there solid handles failed =>
      obtain rfl := handles_iff.1 handles
      have refused : ((usual options).readToken (first (music.drop position)) context).result
          = .error failure :=
        (congrArg Outcome.result (readToken_agrees options _ context)).symm.trans failed
      rw [drop_eq_cons there] at refused
      rw [List.map_singleton, Dispatch.token, drop_eq_cons there, sequenceFrom_token solid,
        reached_cons_of_error refused]
  | @went position c context outcome consumed dispatches run there solid handles done rest
      inductionHypothesis =>
      obtain rfl := handles_iff.1 handles
      have agrees := readToken_agrees options (music.drop position) context
      have read : ((usual options).readToken (first (music.drop position)) context).result
          = .ok consumed := (congrArg Outcome.result agrees).symm.trans done
      have next : ((usual options).readToken (music.drop position) context).context
          = ((usual options).readToken (first (music.drop position)) context).context := by
        have sameContext := congrArg Outcome.context agrees
        exact sameContext
      -- The loop goes on where the list of tokens does, except that it stops at the end.
      have moved : (max consumed 1).toNat = (first (music.drop position)).length + 1 :=
        advance_of_readToken options done
      rw [List.map_cons, inductionHypothesis, moved, ← sequenceFrom_drop, next]
      rw [drop_eq_cons there] at read ⊢
      rw [sequenceFrom_token solid, reached_cons_of_ok read]
      rw [Dispatch.token, drop_eq_cons there]

theorem Walks.isSingle_token {parser : Parser}
    (walks : parser.Walks music position context dispatches run) :
    ∀ dispatch ∈ dispatches, IsSingle (dispatch.token music).text := by
  intro dispatch member
  obtain ⟨-, c, there, solid⟩ := walks.solid dispatch member
  refine ⟨fun _ => isPart_of_mem_first, c, ?_, solid⟩
  rw [Dispatch.token, drop_eq_cons there, first_cons solid]
  rfl

theorem Walks.events_eq {parser : Parser}
    (walks : parser.Walks music position context dispatches run) :
    run.events = dispatches.flatMap fun dispatch => dispatch.part.events := by
  induction walks with
  | ended context => rfl
  | passed there blank rest inductionHypothesis => exact inductionHypothesis
  | failed there solid handles failed => exact (List.append_nil _).symm
  | went there solid handles done rest inductionHypothesis =>
      rw [Run.events_after, inductionHypothesis]
      rfl

theorem Walks.warnings_eq {parser : Parser}
    (walks : parser.Walks music position context dispatches run) :
    run.warnings = dispatches.flatMap fun dispatch => dispatch.part.warnings := by
  induction walks with
  | ended context => rfl
  | passed there blank rest inductionHypothesis => exact inductionHypothesis
  | failed there solid handles failed => exact (List.append_nil _).symm
  | went there solid handles done rest inductionHypothesis =>
      rw [Run.warnings_after, inductionHypothesis]
      rfl

/-- A parse fails as one of its dispatches does. -/
theorem Walks.result_eq_error_iff {parser : Parser}
    (walks : parser.Walks music position context dispatches run) {failure : Failure} :
    run.result = .error failure
      ↔ ∃ dispatch ∈ dispatches, dispatch.part.result = .error failure := by
  induction walks with
  | ended context => simp
  | passed there blank rest inductionHypothesis => exact inductionHypothesis
  | failed there solid handles failed => simp [Dispatch.part, failed]
  | @went position _ context outcome _ _ _ there solid handles done rest inductionHypothesis =>
      have succeeds : (⟨position, context, outcome⟩ : Dispatch).part.result ≠ .error failure := by
        simp [Dispatch.part, done]
      rw [List.exists_mem_cons_iff, or_iff_right succeeds]
      exact inductionHypothesis

/-! ### Kinds and events -/

/-- Every dispatch shows what the kind of its token foretells. -/
theorem Walks.foretold (walks : (usual options).Walks music position context dispatches run) :
    ∀ dispatch ∈ dispatches,
      Foretold options (dispatch.token music) dispatch.context dispatch.part.shown := by
  rintro ⟨place, reached, outcome⟩ member
  have handled : outcome = (usual options).readToken (music.drop place) reached :=
    handles_iff.1 (walks.handles _ member)
  rw [handled]
  exact foretold_part options (music.drop place) place reached

theorem Walks.map_kind_events (walks : (usual options).Walks music position context dispatches run)
    (done : run.result.isOk) :
    run.events.map Event.kind
      = ((dispatches.map (Dispatch.token music)).map fun token =>
          (usual options).kindOf token.text).filter fun kind => kind ≠ .unknown := by
  have reads : ∀ dispatch ∈ dispatches, dispatch.part.shown.result.isOk := by
    intro dispatch member
    show dispatch.part.result.isOk
    cases ended : dispatch.part.result with
    | ok next => rfl
    | error failure =>
        rw [walks.result_eq_error_iff.2 ⟨dispatch, member, ended⟩] at done
        cases done
  calc run.events.map Event.kind
      = dispatches.flatMap fun dispatch => dispatch.part.events.map Event.kind := by
        rw [walks.events_eq, List.map_flatMap]
    _ = dispatches.flatMap fun dispatch =>
          [(usual options).kindOf (dispatch.token music).text].filter (· ≠ .unknown) :=
        List.flatMap_congr fun dispatch member =>
          (walks.foretold dispatch member).map_kind_events (reads dispatch member)
    _ = ((dispatches.map (Dispatch.token music)).map fun token =>
          (usual options).kindOf token.text).filter (· ≠ .unknown) := by
        rw [← List.filter_flatMap, ← List.map_eq_flatMap, List.map_map]
        rfl

/-- The kind of a token foretells its parse. A token of unknown kind takes the path of unknown
tokens, and no other token does: a recogniser answers that with one event of its kind, or refuses
it. This is what a parse of the token alone shows, and the listener is told of nothing else
between the start and the end. It is also what a longer parse shows at each of its dispatches,
where the remaining music is matched and not the token. The dispatches are the tokens that are
reached. Their events and warnings are those of the parse, which fails exactly if one of them
does; otherwise it reports the kinds of all tokens in order, without those that are unknown. With
an invalid default no token is parsed at all. -/
theorem kindOf_foretells_parse (options : Options) :
    (∀ failure, Context.ofOptions options = .error failure →
      ∀ music, (usual options).run music = ⟨[], .error failure⟩)
      ∧ ∀ initial, Context.ofOptions options = .ok initial →
        (∀ token, IsSingle token →
          let run := (usual options).run token
          Foretold options ⟨0, token⟩ initial run.shown
            ∧ run.calls
              = .start :: (run.events.map .event ++ if run.result.isOk then [.finish] else []))
          ∧ ∀ music,
            let run := (usual options).run music
            ∃ dispatches looped, (usual options).Walks music 0 initial dispatches looped
              ∧ run = looped.after [.call .start]
              ∧ dispatches.map (Dispatch.token music)
                = (usual options).reached (sequence music) initial
              ∧ (∀ dispatch ∈ dispatches,
                  let token := dispatch.token music
                  IsSingle token.text
                    ∧ (usual options).recogniserOf? (music.drop dispatch.position)
                      = (usual options).recogniserOf? token.text
                    ∧ Foretold options token dispatch.context dispatch.part.shown)
              ∧ run.events = dispatches.flatMap (fun dispatch => dispatch.part.events)
              ∧ run.warnings = dispatches.flatMap (fun dispatch => dispatch.part.warnings)
              ∧ (∀ failure, run.result = .error failure
                  ↔ ∃ dispatch ∈ dispatches, dispatch.part.result = .error failure)
              ∧ (run.result.isOk →
                  run.events.map Event.kind
                    = ((sequence music).map fun token => (usual options).kindOf token.text).filter
                        fun kind => kind ≠ .unknown) := by
  refine ⟨fun failure invalid music => run_of_invalid invalid music, ?_⟩
  intro initial valid
  refine ⟨?alone, ?within⟩
  case alone =>
    intro token single run
    refine ⟨?_, calls_run_of_valid valid token⟩
    have foretold := foretold_part options token 0 initial
    rw [first_eq_self single.unspaced] at foretold
    show Foretold _ _ _ ((usual options).run token).shown
    rw [run_of_single valid single, shown_started_finished]
    exact foretold
  case within =>
    intro music run
    obtain ⟨dispatches, looped, walks⟩ :=
      exists_walks (usual options) music (Nat.zero_le _) initial
    have run_eq : run = looped.after [.call .start] := by
      rw [walks.run_eq, List.drop_zero]
      exact run_of_valid valid music
    have events : run.events = looped.events := by
      rw [run_eq, Run.events_after]
      rfl
    refine ⟨dispatches, looped, walks, run_eq, walks.map_token, ?dispatched,
      events.trans walks.events_eq, ?warned, ?fails, ?kinds⟩
    case dispatched =>
      intro dispatch member
      exact ⟨walks.isSingle_token dispatch member, (recogniserOf?_first options _).symm,
        walks.foretold dispatch member⟩
    case warned =>
      rw [run_eq, Run.warnings_after, walks.warnings_eq]
      rfl
    case fails =>
      intro failure
      rw [run_eq]
      exact walks.result_eq_error_iff
    case kinds =>
      intro done
      have fold := (run_eq_readAll_of_valid valid music).1
      have reached : dispatches.map (Dispatch.token music) = sequence music := by
        rw [walks.map_token, List.drop_zero]
        exact reached_of_isOk (fold ▸ done)
      rw [run_eq] at done
      rw [events, walks.map_kind_events done, reached]

/-- The mark of a key without its colon, which no recogniser takes, and a voice. -/
theorem kindOf_foretells_parse_sample :
    let options : Options := { strict := .boolean true }
    let initial : Context :=
      ⟨⟨⟨60, some "C".toText⟩, .major⟩, ⟨4, 4, by decide, by decide⟩, .builtIn⟩
    let music := "V1 TIME:3/4 I7".toText
    Context.ofOptions options = .ok initial
      ∧ IsSingle "KEY".toText ∧ (usual options).kindOf "KEY".toText = .unknown
      ∧ PassesUnknown options ⟨0, "KEY".toText⟩ ((usual options).run "KEY".toText).shown
      ∧ IsSingle "V1".toText
      ∧ ((usual options).run "V1".toText).events.map Event.kind = [.voice]
      ∧ (usual options).recogniserOf? music = (usual options).recogniserOf? "V1".toText
      ∧ ((usual options).run music).result.isOk
      ∧ ((usual options).run music).events.map Event.kind
        = [.voice, .timeSignature, .instrument] := by
  intro options initial music
  have valid : Context.ofOptions options = .ok initial := by rfl
  have unknown : IsSingle "KEY".toText := ⟨by decide, 'K', rfl, by decide⟩
  have voice : IsSingle "V1".toText := ⟨by decide, 'V', rfl, by decide⟩
  obtain ⟨alone, within⟩ := (kindOf_foretells_parse options).2 initial valid
  obtain ⟨dispatches, looped, -, -, -, -, -, -, -, kinds⟩ := within music
  have done : ((usual options).run music).result.isOk := by
    rw [(run_eq_readAll_of_valid valid music).1]
    rfl
  have read : ((usual options).run "V1".toText).shown.result.isOk := by
    rw [Run.shown, (run_eq_readAll_of_valid valid "V1".toText).1]
    rfl
  exact ⟨valid, unknown, by rfl, (alone _ unknown).1.unknown_iff.1 (by rfl), voice,
    (alone _ voice).1.map_kind_events read, by rfl, done, (kinds done).trans (by rfl)⟩

end Parser

end MusicText
