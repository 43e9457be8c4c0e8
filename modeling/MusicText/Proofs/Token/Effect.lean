import MusicText.Parser
import MusicText.Proofs.Token.KeyText
import MusicText.Proofs.Token.Sequence

/-!
Contract: what one token does in a parse with the usual recognisers.

Owns: the effect of a token as a function of its own text, the agreement with the reading
of the remaining music, and the list of all effects there are.

Does not own: the parse of several tokens; see `MusicText.Proofs.Parse.Fold`.

A recogniser is offered all the remaining music. What it does depends on the token at the
beginning only, but for one remark, which quotes the music as it stands.
-/

namespace MusicText

/-- Whether a notice is the remark that a token is claimed. -/
def Notice.isClaim : Notice → Bool
  | .remark (.tokenClaimed _ _) => true
  | _ => false

/-- An outcome without the remarks that a token is claimed. -/
def Outcome.withoutClaim (outcome : Outcome) : Outcome :=
  { outcome with notices := outcome.notices.filter (!·.isClaim) }

namespace Token

open MusicText.Text

/-- What a token does in a parse with given options, apart from being claimed. -/
def effect (options : Options) (token : Text) (context : Context) : Outcome :=
  if (Value.markerOf? token).isSome then Value.read token context
  else if Signature.beginsWithKey token || Signature.beginsWithMeter token then
    Signature.read token context
  else (Parser.usual options).passUnknown token context

/-! ### The remaining music and its first token -/

theorem markerOf?_first (remaining : Text) :
    Value.markerOf? (first remaining) = Value.markerOf? remaining := by
  cases remaining with
  | nil => rfl
  | cons c rest =>
      by_cases part : isPart c
      · rw [first, List.takeWhile_cons_of_pos part]
        rfl
      · obtain rfl : c = .scalar ' ' := by simpa [isPart] using part
        rfl

/-- A mark without spaces begins a text exactly when it begins the first token. -/
theorem isPrefixOf_first {mark : Text} (unspaced : ∀ c ∈ mark, isPart c) (remaining : Text) :
    mark.isPrefixOf (first remaining) = mark.isPrefixOf remaining := by
  rw [Bool.eq_iff_iff, List.isPrefixOf_iff_prefix, List.isPrefixOf_iff_prefix]
  constructor
  · intro begins
    exact begins.trans (List.takeWhile_prefix isPart)
  · rintro ⟨rest, rfl⟩
    rw [first, List.takeWhile_append_of_pos unspaced]
    exact List.prefix_append mark _

theorem beginsWithKey_first (remaining : Text) :
    Signature.beginsWithKey (first remaining) = Signature.beginsWithKey remaining :=
  isPrefixOf_first (by decide) remaining

theorem beginsWithMeter_first (remaining : Text) :
    Signature.beginsWithMeter (first remaining) = Signature.beginsWithMeter remaining :=
  isPrefixOf_first (by decide) remaining

theorem effect_first (options : Options) (remaining : Text) (context : Context) :
    effect options (first remaining) context = effect options remaining context := by
  simp only [effect, Value.read, Signature.read, Parser.passUnknown, markerOf?_first,
    beginsWithKey_first, beginsWithMeter_first, first_first]

variable (options : Options) (text : Text)

theorem recogniserOf?_of_value (valued : (Value.markerOf? text).isSome) :
    (Parser.usual options).recogniserOf? text = some Value.recogniser :=
  List.find?_cons_of_pos valued

theorem recogniserOf?_of_signature (valueless : ¬ (Value.markerOf? text).isSome)
    (signed : (Signature.beginsWithKey text || Signature.beginsWithMeter text) = true) :
    (Parser.usual options).recogniserOf? text = some Signature.recogniser :=
  (List.find?_cons_of_neg (by exact valueless)).trans (List.find?_cons_of_pos signed)

theorem recogniserOf?_of_neither (valueless : ¬ (Value.markerOf? text).isSome)
    (unsigned : ¬ (Signature.beginsWithKey text || Signature.beginsWithMeter text) = true) :
    (Parser.usual options).recogniserOf? text = none :=
  (List.find?_cons_of_neg (by exact valueless)).trans
    ((List.find?_cons_of_neg (by exact unsigned)).trans rfl)

/-- A recogniser does with the remaining music what the first token does. -/
theorem withoutClaim_readToken (context : Context) :
    ((Parser.usual options).readToken text context).withoutClaim
      = (effect options (first text) context).withoutClaim := by
  rw [effect_first]
  by_cases valued : (Value.markerOf? text).isSome
  · simp only [Parser.readToken, recogniserOf?_of_value options text valued, effect, valued,
      if_true, Value.recogniser, Outcome.withoutClaim, Notice.isClaim, List.filter_cons,
      Bool.not_true, Bool.false_eq_true, if_false]
  · by_cases signed : (Signature.beginsWithKey text || Signature.beginsWithMeter text) = true
    · simp only [Parser.readToken, recogniserOf?_of_signature options text valued signed, effect,
        valued, signed, if_true, Signature.recogniser, Outcome.withoutClaim, Notice.isClaim,
        List.filter_cons, Bool.not_true, Bool.false_eq_true, if_false]
    · simp only [Parser.readToken, recogniserOf?_of_neither options text valued signed, effect,
        valued, signed, Bool.false_eq_true, if_false]

/-! ### Values that are refused -/

/-- Only an identifier can be refused, and for the reason that it has no value. -/
theorem resolve_of_valueOf_error {definitions : Definitions} {identifier : Text}
    {failure : Failure} (refused : Value.valueOf definitions identifier = .error failure) :
    identifier ≠ [] ∧ Value.resolve definitions identifier = .error failure := by
  unfold Value.valueOf at refused
  split at refused
  · cases refused
  · rename_i nonempty
    refine ⟨nonempty, ?_⟩
    cases resolved : Value.resolve definitions identifier with
    | ok value => simp [resolved, Except.map] at refused
    | error other => simpa [resolved, Except.map] using refused

/-! ### All effects there are -/

/-- Everything that a token can do. It is accepted with one event, or passed over with a
warning, or refused without a trace. -/
inductive Does (options : Options) (token : Text) (context : Context) : Outcome → Prop
  | value (marker : Marker) (identifier : Text) (value : Int)
      (spelled : token = marker.letter :: identifier)
      (read : Value.valueOf context.definitions identifier = .ok value) :
      Does options token context
        (.accepted context [.call (.event (marker.event value))] token)
  | valueRefused (marker : Marker) (identifier : Text) (failure : Failure)
      (spelled : token = marker.letter :: identifier)
      (read : Value.valueOf context.definitions identifier = .error failure) :
      Does options token context (.refused context failure)
  | key (text : Text) (key : Key) (remarks : List Remark)
      (spelled : token = Signature.keyMark ++ text)
      (read : Signature.readKey text = .ok (key, remarks)) :
      Does options token context
        (.accepted { context with key := key }
          (remarks.map .remark ++ [.call (.event (Signature.keyEvent key))]) token)
  | keyRefused (text : Text) (failure : Failure)
      (spelled : token = Signature.keyMark ++ text)
      (read : Signature.readKey text = .error failure) :
      Does options token context (.refused context failure)
  | meter (numerator denominator : Text) (meter : Meter)
      (spelled : token = Signature.meterMark ++ (numerator ++ .scalar '/' :: denominator))
      (read : Meter.ofPartTexts numerator denominator = .ok meter) :
      Does options token context
        (.accepted { context with meter := meter }
          [.call (.event (Signature.meterEvent meter))] token)
  | meterRefused (defect : TokenDefect) (spelled : Signature.meterMark <+: token) :
      Does options token context (.refused context (.ofDefect defect token))
  | unknown (foreign : (Parser.usual options).recogniserOf? token = none)
      (lenient : options.isStrict = false) :
      Does options token context (.accepted context [.remark (.tokenUnknown token)] token)
  | unknownRefused (foreign : (Parser.usual options).recogniserOf? token = none)
      (strict : options.isStrict = true) :
      Does options token context (.refused context (.ofDefect (.unknownToken token) token))

theorem eq_cons_of_markerOf? {token : Text} {marker : Marker}
    (found : Value.markerOf? token = some marker) :
    token = marker.letter :: token.tail := by
  cases token with
  | nil => simp [Value.markerOf?] at found
  | cons c rest => rw [List.tail_cons, Marker.ofLetter?_eq_some_iff.1 found]

theorem eq_append_of_isPrefixOf {mark token : Text} (begins : mark.isPrefixOf token = true) :
    token = mark ++ token.drop mark.length := by
  obtain ⟨rest, rfl⟩ := List.isPrefixOf_iff_prefix.1 begins
  rw [List.drop_left]

variable {options : Options} {token : Text} {context : Context}

theorem markerOf?_of_signature
    (begins : (Signature.beginsWithKey token || Signature.beginsWithMeter token) = true) :
    Value.markerOf? token = none := by
  rcases Bool.or_eq_true_iff.1 begins with key | meter
  · rw [eq_append_of_isPrefixOf key]
    rfl
  · rw [eq_append_of_isPrefixOf meter]
    rfl

theorem effect_of_key (unspaced : ∀ c ∈ token, isPart c)
    (begins : Signature.beginsWithKey token = true) :
    effect options token context = Signature.readKeyToken token context := by
  have valueless := markerOf?_of_signature (Bool.or_eq_true_iff.2 (Or.inl begins))
  simp [effect, Signature.read, valueless, begins, first_eq_self unspaced]

theorem effect_of_meter (unspaced : ∀ c ∈ token, isPart c)
    (begins : Signature.beginsWithMeter token = true) :
    effect options token context = Signature.readMeterToken token context := by
  have valueless := markerOf?_of_signature (Bool.or_eq_true_iff.2 (Or.inr begins))
  have noKey : Signature.beginsWithKey token = false := by
    rw [eq_append_of_isPrefixOf begins]
    rfl
  simp [effect, Signature.read, valueless, noKey, begins, first_eq_self unspaced]

theorem does_value {marker : Marker} (unspaced : ∀ c ∈ token, isPart c)
    (found : Value.markerOf? token = some marker) :
    Does options token context (Value.read token context) := by
  have spelled := eq_cons_of_markerOf? found
  simp only [Value.read, found, first_eq_self unspaced]
  cases read : Value.valueOf context.definitions token.tail with
  | error failure => exact .valueRefused marker token.tail failure spelled read
  | ok value => exact .value marker token.tail value spelled read

theorem does_key (begins : Signature.beginsWithKey token = true) :
    Does options token context (Signature.readKeyToken token context) := by
  have spelled := eq_append_of_isPrefixOf begins
  unfold Signature.readKeyToken
  cases read : Signature.readKey (token.drop Signature.keyMark.length) with
  | error failure => exact .keyRefused _ failure spelled read
  | ok found => exact .key _ found.1 found.2 spelled read

theorem does_meter (begins : Signature.beginsWithMeter token = true) :
    Does options token context (Signature.readMeterToken token context) := by
  have marked : Signature.meterMark <+: token := List.isPrefixOf_iff_prefix.1 begins
  have spelled := eq_append_of_isPrefixOf begins
  unfold Signature.readMeterToken
  simp only
  cases cut : cutAt? '/' (token.drop Signature.meterMark.length) with
  | none => exact .meterRefused _ marked
  | some sides =>
      obtain ⟨numerator, denominator⟩ := sides
      rw [(eq_append_of_cutAt? cut).1] at spelled
      simp only
      cases read : Meter.ofPartTexts numerator denominator with
      | error fault => exact .meterRefused _ marked
      | ok meter => exact .meter numerator denominator meter spelled read

theorem does_passUnknown (unspaced : ∀ c ∈ token, isPart c)
    (foreign : (Parser.usual options).recogniserOf? token = none) :
    Does options token context ((Parser.usual options).passUnknown token context) := by
  simp only [Parser.passUnknown, first_eq_self unspaced]
  cases strict : options.isStrict with
  | true =>
      rw [if_pos (by exact strict)]
      exact .unknownRefused foreign strict
  | false =>
      rw [if_neg (by simp [Parser.usual, strict])]
      exact .unknown foreign strict

/-- What a token does is one of the effects there are. -/
theorem does_effect (unspaced : ∀ c ∈ token, isPart c) :
    Does options token context (effect options token context) := by
  unfold effect
  by_cases valued : (Value.markerOf? token).isSome
  · obtain ⟨marker, found⟩ := Option.isSome_iff_exists.1 valued
    rw [if_pos valued]
    exact does_value unspaced found
  · rw [if_neg valued]
    by_cases signed : (Signature.beginsWithKey token || Signature.beginsWithMeter token) = true
    · rw [if_pos signed, Signature.read, first_eq_self unspaced]
      by_cases begins : Signature.beginsWithKey token = true
      · rw [if_pos begins]
        exact does_key begins
      · have meter : Signature.beginsWithMeter token = true := by simpa [begins] using signed
        rw [if_neg begins, if_pos meter]
        exact does_meter meter
    · rw [if_neg signed]
      exact does_passUnknown unspaced (recogniserOf?_of_neither options token valued signed)

/-! ### Remarks -/

theorem severity_of_readKey {text : Text} {key : Key} {remarks : List Remark}
    (read : Signature.readKey text = .ok (key, remarks)) :
    ∀ remark ∈ remarks, remark.severity = .debug := by
  have reads := Signature.reads_readKey text
  rw [read] at reads
  cases reads with
  | counted => simp [Remark.severity]
  | named => simp

namespace Does

variable {outcome : Outcome}

/-- A token that is not refused is consumed with the separator behind it. -/
theorem consumed_eq (does : Does options token context outcome) {consumed : Int}
    (read : outcome.result = .ok consumed) : consumed = token.length + 1 := by
  cases does with
  | value | key | meter | unknown =>
      simpa [Outcome.accepted] using read.symm
  | valueRefused | keyRefused | meterRefused | unknownRefused =>
      simp [Outcome.refused] at read

/-- A token that is refused leaves no trace. -/
theorem of_error (does : Does options token context outcome) {failure : Failure}
    (refused : outcome.result = .error failure) : outcome = .refused context failure := by
  cases does with
  | value | key | meter | unknown => cases refused
  | valueRefused | keyRefused | meterRefused | unknownRefused =>
      exact congrArg (Outcome.refused context) (Except.error.inj refused)

/-- A token makes no calls but those of events. -/
theorem exists_event_of_call (does : Does options token context outcome) {content : Call}
    (member : .call content ∈ outcome.notices) : ∃ happening, content = .event happening := by
  cases does with
  | value | key | meter =>
      simp only [Outcome.accepted, List.mem_append, List.mem_map, List.mem_singleton,
        Notice.call.injEq, reduceCtorEq, and_false, exists_false, false_or] at member
      exact ⟨_, member⟩
  | unknown => simp [Outcome.accepted] at member
  | valueRefused | keyRefused | meterRefused | unknownRefused =>
      simp [Outcome.refused] at member

end Does

end Token

end MusicText
