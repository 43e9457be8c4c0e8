import Mathlib.Data.Nat.Digits.Defs
import MusicText.Proofs.Numeral.Reading
import MusicText.Proofs.Text.Margin

/-!
Contract: which texts are written integers.

Owns: the grammar of a written integer, described without its reader, the number that each text
denotes, and the faults of all the others.

Does not own: the numerals that are written; see `MusicText.Proofs.Numeral.Reading`.

Digits may be of any script, and of several in one numeral. Leading zeros count towards the limit,
underscores do not.
-/

namespace MusicText.Numeral

open MusicText.Text

/-! ### The grammar -/

/-- Digits with their values. A single underscore may stand between two of them. -/
inductive Grouped : Text → List Nat → Prop
  | last {c : CodePoint} {digit : Nat} (value : digitValue? c = some digit) : Grouped [c] [digit]
  | next {c : CodePoint} {digit : Nat} {rest : Text} {digits : List Nat}
      (value : digitValue? c = some digit) (behind : Grouped rest digits) :
      Grouped (c :: rest) (digit :: digits)
  | underscored {c : CodePoint} {digit : Nat} {rest : Text} {digits : List Nat}
      (value : digitValue? c = some digit) (behind : Grouped rest digits) :
      Grouped (c :: .scalar '_' :: rest) (digit :: digits)

/-- A sign, which may be left out, and the factor that it stands for. -/
inductive Sign : Text → Int → Prop
  | omitted : Sign [] 1
  | plus : Sign [.scalar '+'] 1
  | minus : Sign [.scalar '-'] (-1)

/-- Whether a text is a written integer: digits within the limit behind an optional sign, with
blanks around them that are no information separators. -/
inductive Writes : Text → Int → Prop
  | intro {before sign figures after : Text} {factor : Int} {digits : List Nat}
      (leading : ∀ c ∈ before, isMargin c) (signed : Sign sign factor)
      (grouped : Grouped figures digits) (short : digits.length ≤ 4300)
      (trailing : ∀ c ∈ after, isMargin c) :
      Writes (before ++ (sign ++ figures) ++ after)
        (factor * (Nat.ofDigits 10 digits.reverse : Nat))

theorem valueOf_eq_ofDigits (digits : List Nat) :
    valueOf digits = Nat.ofDigits 10 digits.reverse := by
  rw [valueOf, Nat.ofDigits_eq_foldr, List.foldr_reverse]
  congr 1
  funext value digit
  exact Nat.add_comm _ _

theorem readRun_eq_ok_iff {run : Text} {value : Nat} :
    readRun run = .ok value ↔ run.length ≤ 4300 ∧ value = valueOf (run.filterMap digitValue?) := by
  unfold readRun
  split
  · rename_i long
    simp only [reduceCtorEq, false_iff, not_and]
    exact fun short => absurd short (Nat.not_le.2 long)
  · rename_i short
    rw [Except.ok.injEq]
    exact ⟨fun same => ⟨Nat.not_lt.1 short, same.symm⟩, fun same => same.2.symm⟩

/-! ### Groups of digits -/

theorem ne_underscore_of_digit {c : CodePoint} {digit : Nat} (value : digitValue? c = some digit) :
    c ≠ '_' := by
  rintro rfl
  have none : digitValue? (.scalar '_') = none := by decide
  cases none.symm.trans value

theorem wellGrouped_single {c : CodePoint} (solid : c ≠ '_') : wellGrouped [c] = true := by
  simp [wellGrouped, pieces, solid]

theorem wellGrouped_underscore (rest : Text) : wellGrouped (.scalar '_' :: rest) = false := by
  simp [wellGrouped, pieces]

theorem wellGrouped_cons_underscore {c : CodePoint} (solid : c ≠ '_') (rest : Text) :
    wellGrouped (c :: .scalar '_' :: rest) = wellGrouped rest := by
  simp [wellGrouped, pieces, solid]

theorem wellGrouped_cons_cons {c d : CodePoint} (solid : c ≠ '_') (next : d ≠ '_') (rest : Text) :
    wellGrouped (c :: d :: rest) = wellGrouped (d :: rest) := by
  cases split : pieces (· == .scalar '_') rest with
  | nil => exact absurd split (pieces_ne_nil _ rest)
  | cons first others => simp [wellGrouped, pieces, solid, next, split]

namespace Grouped

variable {figures : Text} {digits : List Nat}

theorem wellGrouped (grouped : Grouped figures digits) : wellGrouped figures = true := by
  induction grouped with
  | last value => exact wellGrouped_single (ne_underscore_of_digit value)
  | underscored value behind inductionHypothesis =>
      rw [wellGrouped_cons_underscore (ne_underscore_of_digit value), inductionHypothesis]
  | next value behind inductionHypothesis =>
      have solid := ne_underscore_of_digit value
      cases behind with
      | last nextValue | next nextValue | underscored nextValue =>
          rw [wellGrouped_cons_cons solid (ne_underscore_of_digit nextValue), inductionHypothesis]

theorem isFigure (grouped : Grouped figures digits) : ∀ c ∈ figures, isFigure c := by
  have underscore : Numeral.isFigure (.scalar '_') := by decide
  have digital : ∀ {c : CodePoint} {digit : Nat}, digitValue? c = some digit →
      Numeral.isFigure c := by
    intro c digit value
    simp [Numeral.isFigure, isDecimalDigit, value]
  induction grouped with
  | last value => simpa using digital value
  | next value behind inductionHypothesis =>
      exact List.forall_mem_cons.2 ⟨digital value, inductionHypothesis⟩
  | underscored value behind inductionHypothesis =>
      exact List.forall_mem_cons.2
        ⟨digital value, List.forall_mem_cons.2 ⟨underscore, inductionHypothesis⟩⟩

theorem filter_digit {c : CodePoint} {digit : Nat} (value : digitValue? c = some digit)
    (rest : Text) :
    (c :: rest).filter (· ≠ .scalar '_') = c :: rest.filter (· ≠ .scalar '_') :=
  List.filter_cons_of_pos (by simpa using ne_underscore_of_digit value)

theorem filter_underscore (rest : Text) :
    (CodePoint.scalar '_' :: rest).filter (· ≠ .scalar '_')
      = rest.filter (· ≠ .scalar '_') :=
  List.filter_cons_of_neg (by simp)

/-- Without the underscores there are the digits alone. -/
theorem filter_figures (grouped : Grouped figures digits) :
    (figures.filter (· ≠ .scalar '_')).length = digits.length
      ∧ (figures.filter (· ≠ .scalar '_')).filterMap digitValue? = digits := by
  induction grouped with
  | last value =>
      rw [filter_digit value, List.filter_nil, List.filterMap_cons_some value]
      exact ⟨rfl, rfl⟩
  | next value behind inductionHypothesis =>
      obtain ⟨length, values⟩ := inductionHypothesis
      rw [filter_digit value, List.filterMap_cons_some value, values]
      exact ⟨congrArg (· + 1) length, rfl⟩
  | underscored value behind inductionHypothesis =>
      obtain ⟨length, values⟩ := inductionHypothesis
      rw [filter_digit value, filter_underscore, List.filterMap_cons_some value, values]
      exact ⟨congrArg (· + 1) length, rfl⟩

end Grouped

theorem digit_of_isFigure {c : CodePoint} (figure : isFigure c) (solid : c ≠ '_') :
    ∃ digit, digitValue? c = some digit := by
  have digital : isDecimalDigit c = true := by
    simpa [isFigure, solid] using figure
  exact Option.isSome_iff_exists.1 digital

/-- Figures in which underscores stand well are digits with their values. -/
theorem exists_grouped : ∀ {figures : Text}, (∀ c ∈ figures, isFigure c) →
    wellGrouped figures = true → ∃ digits, Grouped figures digits
  | [], _, grouped => by
      simp [wellGrouped, pieces] at grouped
  | [c], figural, grouped => by
      by_cases underscore : c = .scalar '_'
      · rw [underscore, wellGrouped_underscore] at grouped
        cases grouped
      · obtain ⟨digit, value⟩ := digit_of_isFigure (figural c List.mem_cons_self) underscore
        exact ⟨_, .last value⟩
  | c :: d :: rest, figural, grouped => by
      obtain ⟨figure, behind⟩ := List.forall_mem_cons.1 figural
      by_cases underscore : c = .scalar '_'
      · rw [underscore, wellGrouped_underscore] at grouped
        cases grouped
      obtain ⟨digit, value⟩ := digit_of_isFigure figure underscore
      by_cases next : d = .scalar '_'
      · subst next
        rw [wellGrouped_cons_underscore underscore] at grouped
        obtain ⟨digits, rest⟩ := exists_grouped (List.forall_mem_cons.1 behind).2 grouped
        exact ⟨_, .underscored value rest⟩
      · rw [wellGrouped_cons_cons underscore next] at grouped
        obtain ⟨digits, rest⟩ := exists_grouped behind grouped
        exact ⟨_, .next value rest⟩

/-! ### Signs -/

theorem exists_sign (body : Text) :
    ∃ sign, Sign sign (cutSign body).1 ∧ body = sign ++ (cutSign body).2 := by
  unfold cutSign
  split
  · exact ⟨_, .plus, rfl⟩
  · exact ⟨_, .minus, rfl⟩
  · exact ⟨_, .omitted, rfl⟩

theorem Grouped.unsigned {figures : Text} {digits : List Nat} (grouped : Grouped figures digits) :
    ∃ c rest, figures = c :: rest ∧ c ≠ '+' ∧ c ≠ '-' := by
  have unlike : ∀ {c : CodePoint} {digit : Nat}, digitValue? c = some digit → c ≠ '+' ∧ c ≠ '-' := by
    intro c digit value
    have plus : digitValue? (.scalar '+') = none := by decide
    have minus : digitValue? (.scalar '-') = none := by decide
    constructor
    · rintro rfl
      cases plus.symm.trans value
    · rintro rfl
      cases minus.symm.trans value
  cases grouped with
  | last value | next value | underscored value => exact ⟨_, _, rfl, unlike value⟩

theorem cutSign_append {sign figures : Text} {factor : Int} {digits : List Nat}
    (signed : Sign sign factor) (grouped : Grouped figures digits) :
    cutSign (sign ++ figures) = (factor, figures) := by
  cases signed with
  | plus | minus => rfl
  | omitted =>
      obtain ⟨c, rest, rfl, noPlus, noMinus⟩ := grouped.unsigned
      rw [List.nil_append]
      unfold cutSign
      split
      · rename_i same
        exact absurd (List.cons.inj same).1 noPlus
      · rename_i same
        exact absurd (List.cons.inj same).1 noMinus
      · rfl

/-! ### The reader -/

theorem isMargin_of_isFigure {c : CodePoint} (figure : isFigure c) : isMargin c = false := by
  by_cases underscore : c = .scalar '_'
  · subst underscore
    decide
  · obtain ⟨digit, value⟩ := digit_of_isFigure figure underscore
    have digital : isDecimalDigit c = true := by
      rw [isDecimalDigit, value]
      rfl
    simp [isMargin, isBlank_of_isDecimalDigit digital]

variable {text : Text} {number : Int}

theorem writes_of_read (done : read text = .ok number) : Writes text number := by
  obtain ⟨before, after, spelled, leading, trailing⟩ := exists_margins isMargin text
  obtain ⟨sign, signed, body⟩ := exists_sign (trim isMargin text)
  simp only [read] at done
  generalize cutSign (trim isMargin text) = parts at signed body done
  obtain ⟨factor, rest⟩ := parts
  simp only at signed body done
  split at done
  · rename_i wellGrouped
    cases run : readRun ((rest.takeWhile isFigure).filter (· ≠ .scalar '_')) with
    | error fault => simp only [run, reduceCtorEq] at done
    | ok value =>
        simp only [run] at done
        split at done
        · rename_i nothing
          obtain rfl := Except.ok.inj done
          have figural : ∀ c ∈ rest, isFigure c := List.dropWhile_eq_nil_iff.1 nothing
          rw [List.takeWhile_eq_self_iff.2 figural] at wellGrouped run
          obtain ⟨digits, grouped⟩ := exists_grouped figural wellGrouped
          obtain ⟨length, values⟩ := grouped.filter_figures
          obtain ⟨short, rfl⟩ := readRun_eq_ok_iff.1 run
          rw [spelled, body, values, valueOf_eq_ofDigits]
          exact .intro leading signed grouped (length ▸ short) trailing
        · cases done
  · cases done

theorem read_of_writes (written : Writes text number) : read text = .ok number := by
  obtain ⟨leading, signed, grouped, short, trailing⟩ := written
  rename_i before sign figures after factor digits
  have solid : ∀ c ∈ sign ++ figures, isMargin c = false := by
    intro c member
    rcases List.mem_append.1 member with inSign | inFigures
    · cases signed with
      | omitted => simp at inSign
      | plus | minus =>
          obtain rfl := List.mem_singleton.1 inSign
          decide
    · exact isMargin_of_isFigure (grouped.isFigure c inFigures)
  have taken : figures.takeWhile isFigure = figures :=
    List.takeWhile_eq_self_iff.2 grouped.isFigure
  have dropped : figures.dropWhile isFigure = [] := List.dropWhile_eq_nil_iff.2 grouped.isFigure
  obtain ⟨length, values⟩ := grouped.filter_figures
  have run : readRun (figures.filter (· ≠ .scalar '_')) = .ok (Nat.ofDigits 10 digits.reverse) := by
    refine readRun_eq_ok_iff.2 ⟨length ▸ short, ?_⟩
    rw [values, valueOf_eq_ofDigits]
  simp only [read, trim_between leading solid trailing, cutSign_append signed grouped, taken,
    dropped, if_pos grouped.wellGrouped, run, if_true]

/-- The texts that are read are the written integers. -/
theorem read_eq_ok_iff : read text = .ok number ↔ Writes text number :=
  ⟨writes_of_read, read_of_writes⟩

/-- A text that is refused is no written integer, unless it has too many digits. -/
theorem fault_of_read {fault : Fault} (refused : read text = .error fault) :
    fault = .notAnInteger text ∨ ∃ count, 4300 < count ∧ fault = .integerTooLong count := by
  simp only [read] at refused
  split at refused
  · split at refused
    · rename_i run
      obtain ⟨long, rfl⟩ := readRun_eq_error run
      exact Or.inr ⟨_, long, (Except.error.inj refused).symm⟩
    · split at refused
      · cases refused
      · exact Or.inl (Except.error.inj refused).symm
  · exact Or.inl (Except.error.inj refused).symm

end MusicText.Numeral
