import MusicText.Proofs.Numeral.Reading
import MusicText.Proofs.Token.Effect
import MusicText.Proofs.Token.KeyText

/-!
Contract: events written as tokens.

Owns: the token of an event, the range of the events that tokens report, and the agreement
of the two: the token of such an event reports the event.

Does not own: texts of several tokens; see `MusicText.Proofs.Parse.Rewriting`.

Values are written as unsigned bytes, because no number behind a marker has a sign. Keys are
written as chords on the common spelling of their root, and meters as fractions. The token of
an event need not be the one that the event came from.
-/

namespace MusicText

open MusicText.Text MusicText.Token

/-! ### Values, keys and parts of meters -/

namespace Token.Value

/-- Every value of a token is a signed byte. -/
theorem valueOf_mem {definitions : Definitions} {identifier : Text} {value : Int}
    (read : valueOf definitions identifier = .ok value) : -128 ≤ value ∧ value ≤ 127 := by
  unfold valueOf at read
  split at read
  · obtain rfl := Except.ok.inj read
    decide
  · cases resolved : resolve definitions identifier with
    | error failure => simp [resolved, Except.map] at read
    | ok number =>
        rw [resolved] at read
        obtain rfl : signedByte number = value := Except.ok.inj read
        exact signedByte_mem number

theorem isNumber_ofNat (number : Nat) : isNumber (Decimal.ofNat number) := by
  rw [isNumber, Bool.and_eq_true, decide_eq_true_eq, List.all_eq_true]
  exact ⟨Decimal.ofNat_ne_nil number, fun _ => Decimal.isDigit_of_mem_ofNat⟩

/-- A signed byte is the value of its unsigned byte, whatever is defined. -/
theorem valueOf_emod (definitions : Definitions) {value : Int} (lower : -128 ≤ value)
    (upper : value ≤ 127) : valueOf definitions (Decimal.ofInt (value % 256)) = .ok value := by
  have nonnegative : 0 ≤ value % 256 := by omega
  have short : (value % 256).toNat < 10 ^ Numeral.digitLimit := by
    have small : (value % 256).toNat < 10 ^ 3 := by omega
    exact Nat.lt_of_lt_of_le small (Nat.pow_le_pow_right (by decide) (by decide))
  have resolved : resolve definitions (Decimal.ofInt (value % 256)) = .ok (value % 256) := by
    rw [Decimal.ofInt_of_nonneg nonnegative, resolve, if_pos (isNumber_ofNat _),
      Numeral.readRun_ofNat short]
    simp only [Int.toNat_of_nonneg nonnegative]
  have nonempty : Decimal.ofInt (value % 256) ≠ [] := by
    rw [Decimal.ofInt_of_nonneg nonnegative]
    exact Decimal.ofNat_ne_nil _
  have narrowed : signedByte (value % 256) = value := by
    unfold signedByte
    omega
  rw [valueOf, if_neg nonempty, resolved, Except.map, narrowed]

end Token.Value

namespace Token.Signature

/-- The name of a tone with the abbreviation of a mode is read as their key. -/
theorem readKey_name (tone : Tone) (mode : Mode) :
    readKey (tone.name ++ mode.abbreviation)
      = .ok (⟨(⟨tone, none⟩ : Note.Spelling).note, mode⟩, []) :=
  readKey_of_named (Key.ofName_name tone mode)

theorem isBlank_of_mem_keyToken {tone : Tone} {mode : Mode} {c : CodePoint}
    (member : c ∈ keyMark ++ (tone.name ++ mode.abbreviation)) : isBlank c = false := by
  have solidMark : ∀ c ∈ keyMark, isBlank c = false := by decide
  rcases List.mem_append.1 member with inMark | behind
  · exact solidMark c inMark
  · rcases List.mem_append.1 behind with inName | inMode
    · exact Note.isBlank_of_mem_name inName
    · exact Key.isBlank_of_mem_abbreviation mode c inMode

/-- The common name of a key reads back. -/
theorem readKey_keyName {position : Int} (lower : 0 ≤ position) (upper : position ≤ 11)
    (mode : Mode) :
    ∃ key, readKey (KeySignature.keyName position mode) = .ok (key, [])
      ∧ keyEvent key = .key position mode.code := by
  refine ⟨_, readKey_name (PitchClass.ofInt position).commonTone mode, ?_⟩
  simp only [keyEvent, Note.pitchClass_note, PitchClass.ofTone_commonTone, PitchClass.toInt_ofInt]
  rw [Int.emod_eq_of_lt lower (by omega)]

end Token.Signature

namespace Meter

theorem read_ofInt {part : Int} (positive : 1 ≤ part)
    (short : part.natAbs < 10 ^ Numeral.digitLimit) :
    Numeral.read (Decimal.ofInt part) = .ok part := by
  have same : part.toNat = part.natAbs := by omega
  rw [Decimal.ofInt_of_nonneg (by omega), Numeral.read_ofNat (same ▸ short),
    Int.toNat_of_nonneg (by omega)]

/-- The parts of a meter are no longer than a numeral may be. -/
theorem natAbs_lt_of_ofPartTexts {numerator denominator : Text} {meter : Meter}
    (read : ofPartTexts numerator denominator = .ok meter) :
    meter.numerator.natAbs < 10 ^ Numeral.digitLimit
      ∧ meter.denominator.natAbs < 10 ^ Numeral.digitLimit := by
  unfold ofPartTexts at read
  cases above : Numeral.read numerator with
  | error fault => simp [above] at read
  | ok upperPart =>
      cases below : Numeral.read denominator with
      | error fault => simp [above, below] at read
      | ok lowerPart =>
          simp only [above, below, ofParts] at read
          split at read
          · obtain rfl := Except.ok.inj read
            exact ⟨Numeral.natAbs_lt_of_read above, Numeral.natAbs_lt_of_read below⟩
          · simp at read

end Meter

/-! ### Events -/

namespace Event

/-- The token that an event is written as. -/
def written : Event → Text
  | .instrument program => Marker.instrument.letter :: Decimal.ofInt (program % 256)
  | .layer value => Marker.layer.letter :: Decimal.ofInt (value % 256)
  | .track value => Marker.voice.letter :: Decimal.ofInt (value % 256)
  | .key position mode =>
      Signature.keyMark ++ KeySignature.keyName position (Mode.ofCode mode)
  | .meter numerator denominator => Signature.meterMark ++ Meter.fraction numerator denominator

/-- Values are signed bytes, keys have a pitch class and the code of a mode, and the parts of
meters are positive. -/
def InRange : Event → Prop
  | .instrument value | .layer value | .track value => -128 ≤ value ∧ value ≤ 127
  | .key position mode => (0 ≤ position ∧ position ≤ 11) ∧ (mode = 1 ∨ mode = -1)
  | .meter numerator denominator => 1 ≤ numerator ∧ 1 ≤ denominator

/-- No part of a meter has more digits than a numeral may have. -/
def IsShort : Event → Prop
  | .instrument _ | .layer _ | .track _ | .key _ _ => True
  | .meter numerator denominator =>
      numerator.natAbs < 10 ^ Numeral.digitLimit ∧ denominator.natAbs < 10 ^ Numeral.digitLimit

/-- The events that tokens report. -/
structure Readable (happening : Event) : Prop where
  inRange : happening.InRange
  isShort : happening.IsShort

/-- Every number of a readable event has few enough digits to be written. -/
theorem Readable.isWritable {happening : Event} (readable : happening.Readable) :
    ∀ number ∈ happening.numbers, Numeral.isWritable number := by
  have small : ∀ number : Int, number.natAbs < 1000 → Numeral.isWritable number := by
    intro number bound
    apply Numeral.isWritable_iff.2
    calc number.natAbs < 10 ^ 3 := bound
      _ ≤ 10 ^ Numeral.digitLimit := Nat.pow_le_pow_right (by decide) (by decide)
  obtain ⟨inRange, isShort⟩ := readable
  cases happening with
  | instrument value | layer value | track value =>
      obtain ⟨lower, upper⟩ := inRange
      exact List.forall_mem_singleton.2 (small value (by omega))
  | key position mode =>
      obtain ⟨⟨lower, upper⟩, isCode⟩ := inRange
      exact List.forall_mem_cons.2 ⟨small position (by omega),
        List.forall_mem_singleton.2 (small mode (by omega))⟩
  | meter numerator denominator =>
      exact List.forall_mem_cons.2 ⟨Numeral.isWritable_iff.2 isShort.1,
        List.forall_mem_singleton.2 (Numeral.isWritable_iff.2 isShort.2)⟩

end Event

/-- What a token reports is readable. -/
theorem Token.Does.readable {options : Options} {token : Text} {context : Context}
    {outcome : Outcome} {happening : Event} (does : Does options token context outcome)
    (member : .call (.event happening) ∈ outcome.notices) : happening.Readable := by
  cases does with
  | value marker identifier value spelled read =>
      obtain rfl : happening = marker.event value := by simpa [Outcome.accepted] using member
      have range := Value.valueOf_mem read
      cases marker <;> exact ⟨range, trivial⟩
  | key text key remarks spelled read =>
      obtain rfl : happening = Signature.keyEvent key := by
        simpa [Outcome.accepted] using member
      refine ⟨⟨⟨?_, ?_⟩, ?_⟩, trivial⟩
      · exact Int.natCast_nonneg _
      · have := key.root.pitchClass.isLt
        simp only [PitchClass.toInt]
        omega
      · cases key.mode
        · exact Or.inl rfl
        · exact Or.inr rfl
  | meter numerator denominator meter spelled read =>
      obtain rfl : happening = Signature.meterEvent meter := by
        simpa [Outcome.accepted] using member
      exact ⟨⟨meter.numerator_pos, meter.denominator_pos⟩, Meter.natAbs_lt_of_ofPartTexts read⟩
  | unknown => simp [Outcome.accepted] at member
  | valueRefused | keyRefused | meterRefused | unknownRefused =>
      simp [Outcome.refused] at member

/-! ### The tokens of events -/

theorem Decimal.isBlank_of_mem_ofInt {number : Int} {c : CodePoint} (member : c ∈ ofInt number) :
    isBlank c = false := by
  unfold ofInt at member
  split at member
  · rcases List.mem_cons.1 member with rfl | digit
    · decide
    · exact Numeral.isBlank_of_isDigit (isDigit_of_mem_ofNat digit)
  · exact Numeral.isBlank_of_isDigit (isDigit_of_mem_ofNat member)

namespace Event

theorem isBlank_of_mem_written {happening : Event} {c : CodePoint}
    (member : c ∈ happening.written) : isBlank c = false := by
  cases happening with
  | instrument value | layer value | track value =>
      rcases List.mem_cons.1 member with rfl | inNumber
      · decide
      · exact Decimal.isBlank_of_mem_ofInt inNumber
  | key position mode => exact Signature.isBlank_of_mem_keyToken member
  | meter numerator denominator =>
      rcases List.mem_append.1 member with inMark | inFraction
      · have solid : ∀ c ∈ Signature.meterMark, isBlank c = false := by decide
        exact solid c inMark
      · simp only [Meter.fraction, List.mem_append] at inFraction
        rcases inFraction with (above | slash) | below
        · exact Decimal.isBlank_of_mem_ofInt above
        · obtain rfl : c = .scalar '/' := by simpa [String.toText] using slash
          decide
        · exact Decimal.isBlank_of_mem_ofInt below

theorem isPart_of_mem_written {happening : Event} {c : CodePoint}
    (member : c ∈ happening.written) : isPart c :=
  isPart_of_not_isBlank (isBlank_of_mem_written member)

theorem written_ne_nil (happening : Event) : happening.written ≠ [] := by
  cases happening <;> simp [written, Signature.keyMark, Signature.meterMark]

end Event

namespace Token

variable {options : Options} {context : Context}

theorem effect_value (marker : Marker) {identifier : Text} {value : Int}
    (unspaced : ∀ c ∈ marker.letter :: identifier, isPart c)
    (read : Value.valueOf context.definitions identifier = .ok value) :
    effect options (marker.letter :: identifier) context
      = .accepted context [.call (.event (marker.event value))] (marker.letter :: identifier) := by
  have found : Value.markerOf? (marker.letter :: identifier) = some marker :=
    Marker.ofLetter?_eq_some_iff.2 rfl
  rw [effect, if_pos (by simp [found])]
  simp only [Value.read, found, first_eq_self unspaced, List.tail_cons, read]

theorem effect_keyMark {text : Text} (unspaced : ∀ c ∈ Signature.keyMark ++ text, isPart c) :
    effect options (Signature.keyMark ++ text) context
      = Signature.readKeyToken (Signature.keyMark ++ text) context :=
  effect_of_key unspaced (List.isPrefixOf_iff_prefix.2 (List.prefix_append _ _))

theorem effect_meterMark {text : Text} (unspaced : ∀ c ∈ Signature.meterMark ++ text, isPart c) :
    effect options (Signature.meterMark ++ text) context
      = Signature.readMeterToken (Signature.meterMark ++ text) context :=
  effect_of_meter unspaced (List.isPrefixOf_iff_prefix.2 (List.prefix_append _ _))

theorem effect_key {text : Text} {key : Key} {remarks : List Remark}
    (unspaced : ∀ c ∈ Signature.keyMark ++ text, isPart c)
    (read : Signature.readKey text = .ok (key, remarks)) :
    effect options (Signature.keyMark ++ text) context
      = .accepted { context with key := key }
          (remarks.map .remark ++ [.call (.event (Signature.keyEvent key))])
          (Signature.keyMark ++ text) := by
  rw [effect_keyMark unspaced]
  simp only [Signature.readKeyToken, List.drop_left, read]

theorem effect_key_of_error {text : Text} {failure : Failure}
    (unspaced : ∀ c ∈ Signature.keyMark ++ text, isPart c)
    (read : Signature.readKey text = .error failure) :
    effect options (Signature.keyMark ++ text) context = .refused context failure := by
  rw [effect_keyMark unspaced]
  simp only [Signature.readKeyToken, List.drop_left, read]

theorem effect_meter {numerator denominator : Text} {meter : Meter}
    (unspaced : ∀ c ∈ Signature.meterMark ++ (numerator ++ .scalar '/' :: denominator), isPart c)
    (unslashed : .scalar '/' ∉ numerator)
    (read : Meter.ofPartTexts numerator denominator = .ok meter) :
    effect options (Signature.meterMark ++ (numerator ++ .scalar '/' :: denominator)) context
      = .accepted { context with meter := meter }
          [.call (.event (Signature.meterEvent meter))]
          (Signature.meterMark ++ (numerator ++ .scalar '/' :: denominator)) := by
  rw [effect_meterMark unspaced]
  simp only [Signature.readMeterToken, List.drop_left, cutAt?_append unslashed, read]

/-- The token of a readable event reports this event and nothing else, in every state. -/
theorem effect_written (options : Options) (context : Context) {happening : Event}
    (readable : happening.Readable) :
    ∃ next, effect options happening.written context
      = .accepted next [.call (.event happening)] happening.written := by
  have unspaced : ∀ c ∈ happening.written, isPart c := fun _ => Event.isPart_of_mem_written
  obtain ⟨inRange, isShort⟩ := readable
  cases happening with
  | instrument value =>
      exact ⟨context, effect_value .instrument unspaced
        (Value.valueOf_emod _ inRange.1 inRange.2)⟩
  | layer value =>
      exact ⟨context, effect_value .layer unspaced
        (Value.valueOf_emod _ inRange.1 inRange.2)⟩
  | track value =>
      exact ⟨context, effect_value .voice unspaced
        (Value.valueOf_emod _ inRange.1 inRange.2)⟩
  | key position mode =>
      obtain ⟨⟨lower, upper⟩, isCode⟩ := inRange
      obtain ⟨key, read, reports⟩ :=
        Signature.readKey_keyName lower upper (Mode.ofCode mode)
      have code : (Mode.ofCode mode).code = mode := by
        rcases isCode with rfl | rfl <;> rfl
      rw [code] at reports
      refine ⟨{ context with key := key }, (effect_key unspaced read).trans ?_⟩
      rw [reports]
      rfl
  | meter numerator denominator =>
      have parts : Meter.ofPartTexts (Decimal.ofInt numerator) (Decimal.ofInt denominator)
          = .ok ⟨numerator, denominator, inRange.1, inRange.2⟩ := by
        simp only [Meter.ofPartTexts, Meter.read_ofInt inRange.1 isShort.1,
          Meter.read_ofInt inRange.2 isShort.2, Meter.ofParts]
        rw [dif_pos ⟨inRange.1, inRange.2⟩]
      have unslashed : .scalar '/' ∉ Decimal.ofInt numerator := by
        rw [Decimal.ofInt_of_nonneg (by have := inRange.1; omega)]
        intro member
        exact absurd (Decimal.isDigit_of_mem_ofNat member) (by decide)
      have spelled : (Event.meter numerator denominator).written
          = Signature.meterMark
            ++ (Decimal.ofInt numerator ++ .scalar '/' :: Decimal.ofInt denominator) := by
        simp [Event.written, Meter.fraction, String.toText]
      rw [spelled] at unspaced ⊢
      exact ⟨_, effect_meter unspaced unslashed parts⟩

end Token

end MusicText
