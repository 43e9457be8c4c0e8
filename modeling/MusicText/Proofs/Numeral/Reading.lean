import Mathlib.Algebra.Group.Nat.Defs
import Mathlib.Data.List.TakeWhile
import MusicText.Decimal
import MusicText.Numeral
import MusicText.Proofs.Text.Cutting

/-!
Contract: numerals that read back.

Owns: the bound on every number that is read, the digits of a number in decimal, and the
reading of these digits.

Does not own: the grammar of numerals; see `MusicText.Numeral`.

A number can be written and read again as long as it has no more digits than a numeral may
have, and no other number is read from a numeral.
-/

namespace MusicText

open MusicText.Text

theorem CodePoint.isDigit_scalar (character : Char) :
    (CodePoint.scalar character).isDigit = character.isDigit := by
  rw [Bool.eq_iff_iff, Char.isDigit_iff_toNat]
  show (decide (48 ≤ character.toNat) && decide (character.toNat ≤ 57)) = true
    ↔ 48 ≤ character.toNat ∧ character.toNat ≤ 57
  rw [Bool.and_eq_true, decide_eq_true_eq, decide_eq_true_eq]

namespace Decimal

theorem isDigit_of_mem_ofNat {number : Nat} {c : CodePoint} (member : c ∈ ofNat number) :
    c.isDigit := by
  obtain ⟨character, inDigits, rfl⟩ := List.mem_map.1 member
  rw [CodePoint.isDigit_scalar]
  exact Nat.isDigit_of_mem_toDigits (by decide) (by decide) inDigits

theorem ofNat_ne_nil (number : Nat) : ofNat number ≠ [] := by
  simp [ofNat, inBase]

theorem length_ofNat_le_iff {number limit : Nat} (positive : 0 < limit) :
    (ofNat number).length ≤ limit ↔ number < 10 ^ limit := by
  rw [ofNat, inBase, List.length_map]
  exact Nat.length_toDigits_le_iff (by decide) positive

theorem ofInt_of_nonneg {number : Int} (nonnegative : 0 ≤ number) :
    ofInt number = ofNat number.toNat := by
  obtain ⟨natural, rfl⟩ := Int.eq_ofNat_of_zero_le nonnegative
  exact ofInt_natCast natural

theorem decimalValue_ofNat (number : Nat) : decimalValue (ofNat number) = number := by
  rw [decimalValue, ofNat, inBase, List.foldl_map]
  exact Nat.ofDigitChars_eq_foldl.symm.trans Nat.ofDigitChars_ten_toDigits

/-- A number is told by its decimal digits and its sign. -/
theorem ofInt_injective : Function.Injective ofInt := by
  have natural : ∀ number other : Nat, ofNat number = ofNat other → number = other := by
    intro number other same
    rw [← decimalValue_ofNat number, same, decimalValue_ofNat]
  have unsigned : ∀ (number : Nat) (rest : Text), ofNat number ≠ .scalar '-' :: rest := by
    intro number rest same
    have minus : (CodePoint.scalar '-').isDigit :=
      isDigit_of_mem_ofNat (same ▸ List.mem_cons_self)
    exact absurd minus (by decide)
  intro first second same
  unfold ofInt at same
  split at same <;> split at same
  · have := natural _ _ (List.cons.inj same).2
    omega
  · exact absurd same.symm (unsigned _ _)
  · exact absurd same (unsigned _ _)
  · have := natural _ _ same
    omega

end Decimal

namespace Numeral

/-! ### The numbers that are read -/

theorem foldl_lt {digits : List Nat} (small : ∀ digit ∈ digits, digit < 10) (start : Nat) :
    digits.foldl (fun value digit => 10 * value + digit) start
      < (start + 1) * 10 ^ digits.length := by
  induction digits generalizing start with
  | nil => simp
  | cons digit rest inductionHypothesis =>
      have bound := inductionHypothesis (fun other inRest => small other (by simp [inRest]))
        (10 * start + digit)
      have step : 10 * start + digit + 1 ≤ (start + 1) * 10 := by
        have := small digit (by simp)
        omega
      calc (digit :: rest).foldl (fun value digit => 10 * value + digit) start
          < (10 * start + digit + 1) * 10 ^ rest.length := bound
        _ ≤ (start + 1) * 10 * 10 ^ rest.length := Nat.mul_le_mul_right _ step
        _ = (start + 1) * 10 ^ (digit :: rest).length := by
            rw [List.length_cons, Nat.pow_succ', Nat.mul_assoc]

theorem valueOf_lt {digits : List Nat} (small : ∀ digit ∈ digits, digit < 10) :
    valueOf digits < 10 ^ digits.length := by
  have bound := foldl_lt small 0
  rwa [Nat.zero_add, Nat.one_mul] at bound

theorem readRun_eq_error {run : Text} {fault : Fault}
    (refused : readRun run = .error fault) :
    4300 < run.length ∧ fault = .integerTooLong run.length := by
  unfold readRun at refused
  split at refused
  · rename_i long
    exact ⟨long, (Except.error.inj refused).symm⟩
  · simp at refused

/-- A run of digits denotes a number with no more digits than a numeral may have. -/
theorem readRun_lt {run : Text} {value : Nat} (read : readRun run = .ok value) :
    value < 10 ^ digitLimit := by
  unfold readRun at read
  split at read
  · simp at read
  · rename_i short
    obtain rfl := Except.ok.inj read
    have small : ∀ digit ∈ run.filterMap digitValue?, digit < 10 := by
      intro digit member
      obtain ⟨c, -, found⟩ := List.mem_filterMap.1 member
      exact digitValue?_lt found
    calc valueOf (run.filterMap digitValue?)
        < 10 ^ (run.filterMap digitValue?).length := valueOf_lt small
      _ ≤ 10 ^ digitLimit := by
          apply Nat.pow_le_pow_right (by decide)
          exact Nat.le_trans (List.length_filterMap_le _ _) (Nat.le_of_not_lt short)

/-- Every number that is read can be written within the limit, apart from its sign. -/
theorem natAbs_lt_of_read {text : Text} {number : Int} (done : read text = .ok number) :
    number.natAbs < 10 ^ digitLimit := by
  have signs : (cutSign (trim isMargin text)).1.natAbs = 1 := by
    unfold cutSign
    split <;> rfl
  simp only [read] at done
  split at done
  · split at done
    · simp at done
    · rename_i value run
      split at done
      · obtain rfl := Except.ok.inj done
        rw [Int.natAbs_mul, signs, Nat.one_mul, Int.natAbs_natCast]
        exact readRun_lt run
      · simp at done
  · simp at done

theorem isWritable_iff {number : Int} :
    isWritable number ↔ number.natAbs < 10 ^ digitLimit := by
  rw [isWritable, decide_eq_true_eq]
  exact Decimal.length_ofNat_le_iff (by decide)

/-! ### Digits -/

variable {c : CodePoint}

theorem isDecimalDigit_of_isDigit (digit : c.isDigit) : isDecimalDigit c := by
  rw [isDecimalDigit, digitValue?_of_isDigit digit]
  rfl

theorem ne_of_isDigit {other : CodePoint} (digit : c.isDigit) (solid : other.isDigit = false) :
    c ≠ other := by
  rintro rfl
  simp [solid] at digit

theorem isBlank_of_isDigit (digit : c.isDigit) : isBlank c = false := by
  simp only [CodePoint.isDigit, Bool.and_eq_true, decide_eq_true_eq] at digit
  simp only [isBlank, blankRanges, List.any_cons, List.any_nil, Bool.or_false,
    Bool.or_eq_false_iff, Bool.and_eq_false_iff, decide_eq_false_iff_not]
  omega

/-! ### The reading of digits -/

theorem filterMap_digitValue? {digits : Text} (numerical : ∀ c ∈ digits, c.isDigit) :
    digits.filterMap digitValue? = digits.map fun c => c.toNat - 48 := by
  induction digits with
  | nil => rfl
  | cons c rest inductionHypothesis =>
      obtain ⟨digit, digits⟩ := List.forall_mem_cons.1 numerical
      rw [List.filterMap_cons_some (digitValue?_of_isDigit digit), inductionHypothesis digits,
        List.map_cons]

theorem decimalValue_lt {digits : Text} (numerical : ∀ c ∈ digits, c.isDigit) :
    decimalValue digits < 10 ^ digits.length := by
  have small : ∀ digit ∈ digits.map fun c => c.toNat - 48, digit < 10 := by
    intro digit member
    obtain ⟨c, inDigits, rfl⟩ := List.mem_map.1 member
    have bounds := numerical c inDigits
    simp only [CodePoint.isDigit, Bool.and_eq_true, decide_eq_true_eq] at bounds
    omega
  have bound := valueOf_lt small
  rwa [valueOf, List.foldl_map, List.length_map] at bound

/-- A run of ASCII digits within the limit is read as the number that it denotes. -/
theorem readRun_of_isDigit {digits : Text} (numerical : ∀ c ∈ digits, c.isDigit)
    (short : digits.length ≤ digitLimit) : readRun digits = .ok (decimalValue digits) := by
  rw [readRun, if_neg (Nat.not_lt.2 short), filterMap_digitValue? numerical, valueOf, List.foldl_map,
    decimalValue]

theorem valueOf_ofNat (number : Nat) :
    valueOf ((Decimal.ofNat number).filterMap digitValue?) = number := by
  rw [filterMap_digitValue? fun _ => Decimal.isDigit_of_mem_ofNat, valueOf, List.foldl_map]
  exact Decimal.decimalValue_ofNat number

variable {number : Nat}

/-- A number within the limit is read from its digits. -/
theorem readRun_ofNat (short : number < 10 ^ digitLimit) :
    readRun (Decimal.ofNat number) = .ok number := by
  have length : (Decimal.ofNat number).length ≤ digitLimit :=
    (Decimal.length_ofNat_le_iff (by decide)).2 short
  rw [readRun, if_neg (Nat.not_lt.2 length), valueOf_ofNat]

theorem cutSign_of_isDigit {text : Text} (digits : ∀ c ∈ text, c.isDigit) :
    cutSign text = (1, text) := by
  unfold cutSign
  split
  · exact absurd (digits _ List.mem_cons_self) (by decide)
  · exact absurd (digits _ List.mem_cons_self) (by decide)
  · rfl

theorem wellGrouped_of_isDigit {text : Text} (nonempty : text ≠ [])
    (digits : ∀ c ∈ text, c.isDigit) : wellGrouped text := by
  have unmarked : ∀ c ∈ text, (c == CodePoint.scalar '_') = false := by
    intro c member
    simpa using ne_of_isDigit (digits c member) (by decide)
  rw [wellGrouped, pieces_of_unmarked unmarked]
  simpa using nonempty

/-- A number within the limit is read from its decimal text. -/
theorem read_ofNat (short : number < 10 ^ digitLimit) :
    read (Decimal.ofNat number) = .ok (number : Int) := by
  have digits : ∀ c ∈ Decimal.ofNat number, c.isDigit := fun _ => Decimal.isDigit_of_mem_ofNat
  have figures : ∀ c ∈ Decimal.ofNat number, isFigure c := by
    intro c member
    simp [isFigure, isDecimalDigit_of_isDigit (digits c member)]
  have solid : ∀ c ∈ Decimal.ofNat number, isMargin c = false := by
    intro c member
    simp [isMargin, isBlank_of_isDigit (digits c member)]
  have ungrouped : (Decimal.ofNat number).filter (· ≠ .scalar '_') = Decimal.ofNat number := by
    rw [List.filter_eq_self]
    intro c member
    simpa using ne_of_isDigit (digits c member) (by decide)
  have taken : (Decimal.ofNat number).takeWhile isFigure = Decimal.ofNat number :=
    List.takeWhile_eq_self_iff.2 figures
  have dropped : (Decimal.ofNat number).dropWhile isFigure = [] :=
    List.dropWhile_eq_nil_iff.2 figures
  simp only [read, trim_eq_self solid, cutSign_of_isDigit digits, taken, dropped,
    if_pos (wellGrouped_of_isDigit (Decimal.ofNat_ne_nil number) digits), ungrouped,
    readRun_ofNat short, if_true, Int.one_mul]

end Numeral

end MusicText
