import MusicText.Proofs.Token.Effect

/-!
Contract: one reading by a recogniser.

Owns: the kinds of events, the part of a state that a kind may change, and the three
things that a reading can be: nothing, one reported event, or a refusal.

Does not own: tokens that no recogniser accepts; see `MusicText.Proofs.Parse.Leniency`.

A recogniser is offered all the remaining music in any state, whatever is defined there.
-/

namespace MusicText

open MusicText.Text

/-- The kind of the tokens that report an event. -/
def Event.kind : Event → TokenKind
  | .instrument _ => .instrument
  | .layer _ => .layer
  | .track _ => .voice
  | .key _ _ => .keySignature
  | .meter _ _ => .timeSignature

/-- The calls to the listener among the notices of a reading. -/
def Outcome.calls (outcome : Outcome) : List Call :=
  outcome.notices.filterMap fun notice =>
    match notice with
    | .call content => some content
    | .remark _ => none

/-- Whether nothing has changed in a state but the part that a kind of tokens sets. -/
structure Context.ChangesOnly (kind : TokenKind) (before after : Context) : Prop where
  definitions_eq : after.definitions = before.definitions
  key_eq : kind ≠ .keySignature → after.key = before.key
  meter_eq : kind ≠ .timeSignature → after.meter = before.meter

namespace Token

/-- The answers to a token of a kind at the beginning of the remaining music: it reports one
event of its kind and is consumed up to the separator, or it is refused. -/
inductive Answers (kind : TokenKind) (music : Text) (context : Context) : Outcome → Prop
  | reported {outcome : Outcome} (happening : Event) (kind_eq : happening.kind = kind)
      (result_eq : outcome.result = .ok (nextOrEnd music [.scalar ' '] 0 + 1))
      (calls_eq : outcome.calls = [.event happening])
      (changes : context.ChangesOnly kind outcome.context) : Answers kind music context outcome
  | refused (failure : Failure) : Answers kind music context (.refused context failure)

theorem length_first (music : Text) :
    (first music).length = nextOrEnd music [.scalar ' '] 0 :=
  (nextOrEnd_singleton _ music).symm

/-- Remarks in front of the report of an event are no calls. -/
theorem calls_accepted (context : Context) (remarks : List Remark) (happening : Event)
    (token : Text) :
    (Outcome.accepted context (remarks.map .remark ++ [.call (.event happening)]) token).calls
      = [.event happening] := by
  simp [Outcome.accepted, Outcome.calls]

variable {music : Text} {context : Context}

/-- A token that is accepted with a report of its kind is answered. -/
theorem answers_of_accepted {kind : TokenKind} {after : Context} {happening : Event}
    (kind_eq : happening.kind = kind) (changes : context.ChangesOnly kind after)
    (remarks : List Remark) :
    Answers kind music context
      (.accepted after (remarks.map .remark ++ [.call (.event happening)]) (first music)) := by
  refine .reported happening kind_eq ?_ (calls_accepted _ _ _ _) changes
  rw [Outcome.accepted, length_first]

theorem answers_value {marker : Marker} (found : Value.markerOf? music = some marker) :
    Answers (Value.recogniser.kind music) music context (Value.read music context) := by
  have kind : Value.recogniser.kind music = marker.kind := by
    simp [Value.recogniser, found]
  simp only [Value.read, found, kind]
  cases Value.valueOf context.definitions (first music).tail with
  | error failure => exact .refused failure
  | ok value =>
      have reports : (marker.event value).kind = marker.kind := by cases marker <;> rfl
      exact answers_of_accepted reports ⟨rfl, fun _ => rfl, fun _ => rfl⟩ []

theorem answers_key :
    Answers .keySignature music context (Signature.readKeyToken (first music) context) := by
  unfold Signature.readKeyToken
  cases Signature.readKey ((first music).drop Signature.keyMark.length) with
  | error failure => exact .refused failure
  | ok found =>
      have reports : (Signature.keyEvent found.1).kind = .keySignature := rfl
      have changes : context.ChangesOnly .keySignature { context with key := found.1 } :=
        ⟨rfl, fun other => absurd rfl other, fun _ => rfl⟩
      exact answers_of_accepted reports changes found.2

theorem answers_meter :
    Answers .timeSignature music context (Signature.readMeterToken (first music) context) := by
  unfold Signature.readMeterToken
  simp only
  cases cutAt? '/' ((first music).drop Signature.meterMark.length) with
  | none => exact .refused _
  | some sides =>
      simp only
      cases Meter.ofPartTexts sides.1 sides.2 with
      | error fault => exact .refused _
      | ok meter =>
          have reports : (Signature.meterEvent meter).kind = .timeSignature := rfl
          have changes : context.ChangesOnly .timeSignature { context with meter := meter } :=
            ⟨rfl, fun _ => rfl, fun other => absurd rfl other⟩
          exact answers_of_accepted reports changes []

theorem answers_signature (own : Signature.recogniser.accepts music = true) :
    Answers (Signature.recogniser.kind music) music context (Signature.read music context) := by
  simp only [Signature.recogniser, Signature.kind, Signature.read] at own ⊢
  by_cases key : Signature.beginsWithKey music = true
  · rw [if_pos key, if_pos key]
    exact answers_key
  · have meter : Signature.beginsWithMeter music = true := by simpa [key] using own
    rw [if_neg key, if_neg key, if_pos meter, if_pos meter]
    exact answers_meter

variable {recogniser : Recogniser}

theorem eq_value_or_eq_signature (usual : recogniser ∈ Parser.usualRecognisers) :
    recogniser = Value.recogniser ∨ recogniser = Signature.recogniser := by
  simpa [Parser.usualRecognisers] using usual

theorem answers_read (usual : recogniser ∈ Parser.usualRecognisers)
    (own : recogniser.accepts music = true) (context : Context) :
    Answers (recogniser.kind music) music context (recogniser.read music context) := by
  rcases eq_value_or_eq_signature usual with rfl | rfl
  · obtain ⟨marker, found⟩ := Option.isSome_iff_exists.1 own
    exact answers_value found
  · exact answers_signature own

theorem read_eq_ignored (usual : recogniser ∈ Parser.usualRecognisers)
    (foreign : recogniser.accepts music = false) (context : Context) :
    recogniser.read music context = .ignored context := by
  rcases eq_value_or_eq_signature usual with rfl | rfl
  · have unmarked : Value.markerOf? music = none := by simpa [Value.recogniser] using foreign
    simp only [Value.recogniser, Value.read, unmarked]
  · obtain ⟨noKey, noMeter⟩ := Bool.or_eq_false_iff.1 foreign
    simp only [Signature.recogniser, Signature.read, noKey, noMeter, Bool.false_eq_true, if_false]

/-- A recogniser does with the remaining music what it does with the first token. -/
theorem read_first (usual : recogniser ∈ Parser.usualRecognisers) (music : Text)
    (context : Context) :
    recogniser.read (first music) context = recogniser.read music context := by
  rcases eq_value_or_eq_signature usual with rfl | rfl
  · simp only [Value.recogniser, Value.read, markerOf?_first, first_first]
  · simp only [Signature.recogniser, Signature.read, beginsWithKey_first, beginsWithMeter_first,
      first_first]

/-- A recogniser either leaves the music alone, which it does exactly when it does not accept it;
or it consumes one token with the separator, reports one event of the token's kind, and
changes no part of the state but that of this kind; or it refuses the token and
leaves no trace. A token is read alike whatever stands behind the space after it. -/
theorem read_is_one_step (usual : recogniser ∈ Parser.usualRecognisers) (music : Text)
    (context : Context) :
    let outcome := recogniser.read music context
    ((recogniser.accepts music = false ∧ outcome = .ignored context)
        ∨ (recogniser.accepts music = true
          ∧ outcome.result = .ok (nextOrEnd music [.scalar ' '] 0 + 1)
          ∧ ∃ happening, outcome.calls = [.event happening]
            ∧ happening.kind = recogniser.kind music
            ∧ context.ChangesOnly happening.kind outcome.context)
        ∨ (recogniser.accepts music = true
          ∧ ∃ failure, outcome = .refused context failure))
      ∧ (outcome.result = .ok 0 ↔ recogniser.accepts music = false)
      ∧ ∀ text rest, (∀ c ∈ text, isPart c) →
          recogniser.read (text ++ .scalar ' ' :: rest) context = recogniser.read text context := by
  intro outcome
  refine ⟨?cases, ?ignores, ?alone⟩
  case cases =>
    cases own : recogniser.accepts music with
    | false => exact Or.inl ⟨rfl, read_eq_ignored usual own context⟩
    | true =>
        right
        have answers : Answers _ music context outcome := answers_read usual own context
        clear_value outcome
        cases answers with
        | reported happening kind result calls changes =>
            exact Or.inl ⟨rfl, result, happening, calls, kind, kind ▸ changes⟩
        | refused failure => exact Or.inr ⟨rfl, failure, rfl⟩
  case ignores =>
    constructor
    · intro nothing
      by_contra own
      have answers : Answers _ music context outcome :=
        answers_read usual (Bool.not_eq_false _ ▸ own) context
      clear_value outcome
      cases answers with
      | reported happening kind result calls changes =>
          rw [result] at nothing
          have := Except.ok.inj nothing
          omega
      | refused failure => cases nothing
    · intro foreign
      exact congrArg Outcome.result (read_eq_ignored usual foreign context)
  case alone =>
    intro text rest unspaced
    rw [← read_first usual, first_append_space unspaced]

theorem read_is_one_step_sample :
    let context : Context :=
      ⟨⟨⟨60, some "C".toText⟩, .major⟩, ⟨4, 4, by decide, by decide⟩, .builtIn⟩
    let outcome := Signature.recogniser.read "KEY:K## V1".toText context
    Signature.recogniser ∈ Parser.usualRecognisers
      ∧ outcome = Signature.recogniser.read "KEY:K##".toText context
      ∧ outcome.result ≠ .ok 0
      ∧ outcome.result = .ok 8 ∧ outcome.calls = [.event (.key 2 1)] := by
  intro context outcome
  have usual : Signature.recogniser ∈ Parser.usualRecognisers := by
    simp [Parser.usualRecognisers]
  obtain ⟨-, ignores, alone⟩ := read_is_one_step usual "KEY:K## V1".toText context
  refine ⟨usual, alone "KEY:K##".toText "V1".toText (by decide), ?_, by rfl, by rfl⟩
  rw [ne_eq, ignores]
  decide

end Token

end MusicText
