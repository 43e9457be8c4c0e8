import MusicText.Proofs.Event.Notation
import MusicText.Proofs.Numeral.Grammar
import MusicText.Proofs.Parse.Single

/-!
Contract: meters that are read from tokens and from texts.

Owns: the texts that write a meter, the faults of the others, and the agreement of the two readers.

Does not own: written integers; see `MusicText.Proofs.Numeral.Grammar`.

The token's reader asks for the slash first, the text's reader takes a missing second part for an
empty one. No integer is written with nothing, so the two refuse the same texts.
-/

namespace MusicText

open MusicText.Text MusicText.Token

namespace Meter

/-- Whether a text writes a meter: the first slash stands between two written integers. -/
def IsWrittenAs (text : Text) (meter : Meter) : Prop :=
  ∃ above below, text = above ++ .scalar '/' :: below ∧ .scalar '/' ∉ above
    ∧ Numeral.Writes above meter.numerator ∧ Numeral.Writes below meter.denominator

/-- The faults of a text that writes no meter. -/
inductive IsRefusal (text : Text) : Fault → Prop
  | notAnInteger {part : Text} (within : part <:+: text)
      (unwritten : ∀ number, ¬ Numeral.Writes part number) : IsRefusal text (.notAnInteger part)
  | tooLong {count : Nat} (long : 4300 < count) : IsRefusal text (.integerTooLong count)
  | notPositive {numerator denominator : Int} (other : ¬ (0 < numerator ∧ 0 < denominator)) :
      IsRefusal text (.meterNotPositive numerator denominator)

variable {text above below : Text} {meter : Meter} {fault : Fault}

theorem ofPartTexts_eq_ok_iff :
    ofPartTexts above below = .ok meter
      ↔ Numeral.Writes above meter.numerator ∧ Numeral.Writes below meter.denominator := by
  rw [← Numeral.read_eq_ok_iff, ← Numeral.read_eq_ok_iff]
  constructor
  · intro read
    unfold ofPartTexts at read
    cases upper : Numeral.read above with
    | error fault => simp only [upper, reduceCtorEq] at read
    | ok numerator =>
        cases lower : Numeral.read below with
        | error fault => simp only [upper, lower, reduceCtorEq] at read
        | ok denominator =>
            simp only [upper, lower, ofParts] at read
            split at read
            · obtain rfl := Except.ok.inj read
              exact ⟨rfl, rfl⟩
            · cases read
  · rintro ⟨upper, lower⟩
    simp only [ofPartTexts, upper, lower, ofParts]
    rw [dif_pos ⟨meter.numerator_pos, meter.denominator_pos⟩]

theorem not_writes_nil (number : Int) : ¬ Numeral.Writes [] number := by
  have unread : Numeral.read [] = .error (.notAnInteger []) := by rfl
  rw [← Numeral.read_eq_ok_iff, unread]
  exact fun read => nomatch read

theorem ofText_eq_ok_iff : ofText text = .ok meter ↔ IsWrittenAs text meter := by
  unfold ofText
  split
  · rename_i before after cut
    rw [ofPartTexts_eq_ok_iff]
    constructor
    · rintro ⟨upper, lower⟩
      obtain ⟨spelled, unslashed⟩ := eq_append_of_cutAt? cut
      exact ⟨before, after, spelled, unslashed, upper, lower⟩
    · rintro ⟨first, second, rfl, unslashed, written⟩
      rw [cutAt?_append unslashed] at cut
      cases cut
      exact written
  · rename_i uncut
    rw [ofPartTexts_eq_ok_iff]
    constructor
    · rintro ⟨-, lower⟩
      exact absurd lower (not_writes_nil _)
    · rintro ⟨first, second, rfl, -⟩
      exact absurd List.mem_append_cons_self (cutAt?_eq_none_iff.1 uncut)

theorem isRefusal_of_read {part : Text} (within : part <:+: text)
    (refused : Numeral.read part = .error fault) : IsRefusal text fault := by
  rcases Numeral.fault_of_read refused with rfl | ⟨count, long, rfl⟩
  · refine .notAnInteger within ?_
    intro number written
    cases refused.symm.trans (Numeral.read_eq_ok_iff.2 written)
  · exact .tooLong long

theorem isRefusal_of_ofPartTexts (isAbove : above <:+: text) (isBelow : below <:+: text)
    (refused : ofPartTexts above below = .error fault) : IsRefusal text fault := by
  unfold ofPartTexts at refused
  cases upper : Numeral.read above with
  | error other =>
      simp only [upper, Except.error.injEq] at refused
      exact refused ▸ isRefusal_of_read isAbove upper
  | ok numerator =>
      cases lower : Numeral.read below with
      | error other =>
          simp only [upper, lower, Except.error.injEq] at refused
          exact refused ▸ isRefusal_of_read isBelow lower
      | ok denominator =>
          simp only [upper, lower, ofParts] at refused
          split at refused
          · cases refused
          · rename_i other
            obtain rfl := Except.error.inj refused
            exact .notPositive other

theorem isRefusal_of_ofText (refused : ofText text = .error fault) : IsRefusal text fault := by
  unfold ofText at refused
  split at refused
  · rename_i before after cut
    obtain ⟨rfl, -⟩ := eq_append_of_cutAt? cut
    refine isRefusal_of_ofPartTexts (List.prefix_append _ _).isInfix ?_ refused
    exact ((List.suffix_cons _ _).trans (List.suffix_append _ _)).isInfix
  · exact isRefusal_of_ofPartTexts List.infix_rfl (List.nil_infix) refused

/-- Positive parts with no more digits than a numeral may have are read back. -/
theorem ofText_toText (upper : (Decimal.ofInt meter.numerator).length ≤ 4300)
    (lower : (Decimal.ofInt meter.denominator).length ≤ 4300) :
    ofText meter.toText = .ok meter := by
  have short : ∀ {part : Int}, 0 < part → (Decimal.ofInt part).length ≤ Numeral.digitLimit →
      Numeral.read (Decimal.ofInt part) = .ok part := by
    intro part positive length
    rw [Decimal.ofInt_of_nonneg (by omega), Decimal.length_ofNat_le_iff (by decide)] at length
    have same : part.toNat = part.natAbs := by omega
    exact read_ofInt positive (same ▸ length)
  have unslashed : .scalar '/' ∉ Decimal.ofInt meter.numerator := by
    rw [Decimal.ofInt_of_nonneg (Int.le_of_lt meter.numerator_pos)]
    exact fun member => absurd (Decimal.isDigit_of_mem_ofNat member) (by decide)
  refine ofText_eq_ok_iff.2 ⟨_, _, ?_, unslashed, Numeral.read_eq_ok_iff.1 (short ?_ upper),
    Numeral.read_eq_ok_iff.1 (short ?_ lower)⟩
  · simp [toText, fraction, String.toText]
  · exact meter.numerator_pos
  · exact meter.denominator_pos

end Meter

namespace Token.Signature

/-- What is wrong with a text behind the mark of a meter that writes no meter. -/
def meterDefect (text : Text) : TokenDefect :=
  if .scalar '/' ∈ text then .malformedMeter text else .separatorMissing text

variable {text : Text} {meter : Meter} {fault : Fault}

theorem readMeterToken_of_ok (read : Meter.ofText text = .ok meter) (context : Context) :
    readMeterToken (meterMark ++ text) context
      = .accepted { context with meter := meter } [.call (.event (meterEvent meter))]
          (meterMark ++ text) := by
  obtain ⟨above, below, spelled, unslashed, upper, lower⟩ := Meter.ofText_eq_ok_iff.1 read
  have cut : cutAt? '/' text = some (above, below) := by
    rw [spelled, cutAt?_append unslashed]
  simp only [readMeterToken, List.drop_left, cut, Meter.ofPartTexts_eq_ok_iff.2 ⟨upper, lower⟩]

theorem readMeterToken_of_error (refused : Meter.ofText text = .error fault) (context : Context) :
    readMeterToken (meterMark ++ text) context
      = .refused context (.ofDefect (meterDefect text) (meterMark ++ text)) := by
  simp only [readMeterToken, List.drop_left]
  cases cut : cutAt? '/' text with
  | none => rw [meterDefect, if_neg (cutAt?_eq_none_iff.1 cut)]
  | some parts =>
      have slashed : .scalar '/' ∈ text := by
        rw [(eq_append_of_cutAt? cut).1]
        exact List.mem_append_cons_self
      have unread : Meter.ofPartTexts parts.1 parts.2 = .error fault := by
        simpa only [Meter.ofText, cut] using refused
      simp only [unread, meterDefect, if_pos slashed]

theorem isSingle_meterMark (unspaced : ∀ c ∈ text, isPart c) :
    Parser.IsSingle (meterMark ++ text) :=
  Parser.isSingle_append (by decide) (by decide) unspaced

theorem read_meterMark (unspaced : ∀ c ∈ text, isPart c) (context : Context) :
    read (meterMark ++ text) context = readMeterToken (meterMark ++ text) context := by
  have begins : beginsWithMeter (meterMark ++ text) = true :=
    List.isPrefixOf_iff_prefix.2 (List.prefix_append _ _)
  have single := isSingle_meterMark unspaced
  rw [read, if_neg (by rintro ⟨⟩), if_pos begins, first_eq_self single.unspaced]

/-- A text without spaces behind the mark of a meter is read exactly if it is read by itself, as
the same meter, and this is so exactly if it writes the meter. The token then sets the meter and
reports it; else it is refused, leaves no trace, and the text by itself is refused too. What a
meter is written as is read as this meter, as long as no part has too many digits. -/
theorem meter_tokens_agree_with_texts {options : Options} {initial : Context}
    (valid : Context.ofOptions options = .ok initial) (unspaced : ∀ c ∈ text, isPart c) :
    let token := meterMark ++ text
    let run := (Parser.usual options).run token
    ((∃ reached, run.result = .ok reached) ↔ ∃ meter, Meter.ofText text = .ok meter)
      ∧ (∀ meter, Meter.ofText text = .ok meter ↔ meter.IsWrittenAs text)
      ∧ (∀ meter, Meter.ofText text = .ok meter →
          run.result = .ok { initial with meter := meter }
            ∧ run.calls = [.start, .event (.meter meter.numerator meter.denominator), .finish]
            ∧ ∀ context, read token context
                = .accepted { context with meter := meter }
                    [.call (.event (.meter meter.numerator meter.denominator))] token)
      ∧ (∀ fault, Meter.ofText text = .error fault →
          Meter.IsRefusal text fault
            ∧ run.result = .error (.token ⟨meterDefect text, token, 0⟩)
            ∧ run.calls = [.start]
            ∧ ∀ context, read token context
                = .refused context (.ofDefect (meterDefect text) token))
      ∧ ∀ meter : Meter, (Decimal.ofInt meter.numerator).length ≤ 4300 →
          (Decimal.ofInt meter.denominator).length ≤ 4300 →
          Meter.ofText meter.toText = .ok meter := by
  intro token run
  have single : Parser.IsSingle token := isSingle_meterMark unspaced
  have effects : effect options token initial = readMeterToken token initial :=
    effect_meterMark single.unspaced
  have accepts : ∀ meter, Meter.ofText text = .ok meter →
      run.result = .ok { initial with meter := meter }
        ∧ run.calls = [.start, .event (meterEvent meter), .finish] := by
    intro meter done
    exact Parser.run_single_of_accepted valid single []
      (effects.trans (readMeterToken_of_ok done initial))
  have refuses : ∀ fault, Meter.ofText text = .error fault →
      run.result = .error (.token ⟨meterDefect text, token, 0⟩) ∧ run.calls = [.start] := by
    intro fault refused
    exact Parser.run_single_of_refused valid single
      (effects.trans (readMeterToken_of_error refused initial))
  refine ⟨⟨?reads, ?runs⟩, fun meter => Meter.ofText_eq_ok_iff, ?accepted, ?refused,
    fun meter => Meter.ofText_toText⟩
  case reads =>
    rintro ⟨reached, done⟩
    cases read : Meter.ofText text with
    | ok meter => exact ⟨meter, rfl⟩
    | error fault => cases (refuses fault read).1.symm.trans done
  case runs =>
    rintro ⟨meter, done⟩
    exact ⟨_, (accepts meter done).1⟩
  case accepted =>
    intro meter done
    obtain ⟨result, calls⟩ := accepts meter done
    refine ⟨result, calls, ?_⟩
    intro context
    rw [read_meterMark unspaced, readMeterToken_of_ok done]
    rfl
  case refused =>
    intro fault refused
    obtain ⟨result, calls⟩ := refuses fault refused
    refine ⟨Meter.isRefusal_of_ofText refused, result, calls, ?_⟩
    intro context
    rw [read_meterMark unspaced, readMeterToken_of_error refused]

theorem meter_tokens_agree_with_texts_sample :
    let initial : Context :=
      ⟨⟨⟨60, some "C".toText⟩, .major⟩, ⟨4, 4, by decide, by decide⟩, .builtIn⟩
    let meter : Meter := ⟨12, 8, by decide, by decide⟩
    let run := (Parser.usual {}).run "TIME:\t+1_2/٠٨\n".toText
    let refusal := (Parser.usual {}).run "TIME:3//4".toText
    Context.ofOptions {} = .ok initial
      ∧ (∀ c ∈ "\t+1_2/٠٨\n".toText, isPart c)
      ∧ meter.IsWrittenAs "\t+1_2/٠٨\n".toText
      ∧ run.result = .ok { initial with meter := meter }
      ∧ run.calls = [.start, .event (.meter 12 8), .finish]
      ∧ (∀ c ∈ "3//4".toText, isPart c)
      ∧ Meter.IsRefusal "3//4".toText (.notAnInteger "/4".toText)
      ∧ refusal.result = .error (.token ⟨.malformedMeter "3//4".toText, "TIME:3//4".toText, 0⟩)
      ∧ Meter.ofText meter.toText = .ok meter := by
  intro initial meter run refusal
  have valid : Context.ofOptions {} = .ok initial := by rfl
  have unspaced : ∀ c ∈ "\t+1_2/٠٨\n".toText, isPart c := by decide
  have unspacedRefusal : ∀ c ∈ "3//4".toText, isPart c := by decide
  obtain ⟨-, written, accepted, -, back⟩ := meter_tokens_agree_with_texts valid unspaced
  obtain ⟨-, -, -, refused, -⟩ := meter_tokens_agree_with_texts valid unspacedRefusal
  have read : Meter.ofText "\t+1_2/٠٨\n".toText = .ok meter := by rfl
  obtain ⟨result, calls, -⟩ := accepted meter read
  obtain ⟨refusals, failed, -⟩ := refused (.notAnInteger "/4".toText) (by rfl)
  exact ⟨valid, unspaced, (written meter).1 read, result, calls, unspacedRefusal, refusals, failed,
    back meter (by decide) (by decide)⟩

end Token.Signature

end MusicText
