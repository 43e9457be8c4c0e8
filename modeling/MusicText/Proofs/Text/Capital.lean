import MusicText.Text.Blank
import MusicText.Text.DecimalDigit
import MusicText.Text.UpperCase

/-!
Contract: characters without case.

Owns: characters that the tables of capitals do not reach, among them the blanks and the decimal
digits of every script, and that no digit is a blank.

Does not own: letters and marks; see `MusicText.Proofs.Pitch.Accidental`.
-/

namespace MusicText.Text

variable {c : CodePoint}

/-- A character in a stretch of code points that no table of capitals meets is its own capital. -/
theorem capital_of_untabulated {first last : Nat} (lower : first ≤ c.toNat) (upper : c.toNat ≤ last)
    (sequences : ∀ entry ∈ capitalSequences, entry.1 < first ∨ last < entry.1)
    (runs : ∀ run ∈ capitalRuns, run.2.1 < first ∨ last < run.1) : capital c = [c] := by
  have noSequence : capitalSequences.find? (·.1 = c.toNat) = none := by
    rw [List.find?_eq_none]
    intro entry member same
    have apart := sequences entry member
    have place : entry.1 = c.toNat := of_decide_eq_true same
    omega
  have noRun : (capitalRuns.find? fun run =>
      run.1 ≤ c.toNat && c.toNat ≤ run.2.1 && (c.toNat - run.1) % run.2.2.1 == 0) = none := by
    rw [List.find?_eq_none]
    intro run member inRun
    have apart := runs run member
    simp only [Bool.and_eq_true, decide_eq_true_eq] at inRun
    omega
  rw [capital, noSequence, noRun]

/-! ### Blanks -/

theorem disjoint_blankRanges :
    (∀ range ∈ blankRanges, ∀ entry ∈ capitalSequences, entry.1 < range.1 ∨ range.2 < entry.1)
      ∧ ∀ range ∈ blankRanges, ∀ run ∈ capitalRuns, run.2.1 < range.1 ∨ range.2 < run.1 := by
  decide +kernel

theorem exists_range_of_isBlank (blank : isBlank c) :
    ∃ range ∈ blankRanges, range.1 ≤ c.toNat ∧ c.toNat ≤ range.2 := by
  simpa [isBlank, List.any_eq_true] using blank

theorem capital_of_isBlank (blank : isBlank c) : capital c = [c] := by
  obtain ⟨range, isRange, lower, upper⟩ := exists_range_of_isBlank blank
  apply capital_of_untabulated lower upper
  · exact disjoint_blankRanges.1 range isRange
  · exact disjoint_blankRanges.2 range isRange

/-! ### Digits -/

theorem disjoint_zeroDigits :
    (∀ origin ∈ zeroDigits, ∀ entry ∈ capitalSequences, entry.1 < origin ∨ origin + 9 < entry.1)
      ∧ (∀ origin ∈ zeroDigits, ∀ run ∈ capitalRuns, run.2.1 < origin ∨ origin + 9 < run.1)
      ∧ ∀ origin ∈ zeroDigits, ∀ range ∈ blankRanges, range.2 < origin ∨ origin + 9 < range.1 := by
  decide +kernel

theorem exists_origin_of_isDecimalDigit (digit : isDecimalDigit c) :
    ∃ origin ∈ zeroDigits, origin ≤ c.toNat ∧ c.toNat ≤ origin + 9 := by
  rw [isDecimalDigit, digitValue?, Option.isSome_map, List.find?_isSome] at digit
  obtain ⟨origin, isZero, within⟩ := digit
  rw [Bool.and_eq_true, decide_eq_true_eq, decide_eq_true_eq] at within
  exact ⟨origin, isZero, within.1, by omega⟩

theorem capital_of_isDecimalDigit (digit : isDecimalDigit c) : capital c = [c] := by
  obtain ⟨origin, isZero, lower, upper⟩ := exists_origin_of_isDecimalDigit digit
  apply capital_of_untabulated lower upper
  · exact disjoint_zeroDigits.1 origin isZero
  · exact disjoint_zeroDigits.2.1 origin isZero

theorem isBlank_of_isDecimalDigit (digit : isDecimalDigit c) : isBlank c = false := by
  obtain ⟨origin, isZero, lower, upper⟩ := exists_origin_of_isDecimalDigit digit
  rw [Bool.eq_false_iff]
  intro blank
  obtain ⟨range, isRange, rangeLower, rangeUpper⟩ := exists_range_of_isBlank blank
  have apart := disjoint_zeroDigits.2.2 origin isZero range isRange
  omega

end MusicText.Text
