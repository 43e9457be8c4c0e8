import MusicText.Intervals
import MusicText.Proofs.Numeral.Reading
import MusicText.Proofs.Pitch.Accidental

/-!
Contract: the tokens of gaps within an octave.

Owns: the token of a gap as what is read back from it, the twelve tokens, and the arithmetic of
gaps.

Does not own: patterns of several tokens; see `MusicText.Proofs.Interval.Gaps`.

A gap is looked up among the widths of whole degrees, and once more a half-step higher with a
flat in front. Both times the token that is written has the gap for its half-steps, however
wide the gap is, as long as one of the two is found.
-/

namespace MusicText

open MusicText.Text

namespace Interval

/-! ### Reading a token back -/

theorem naturalHalfsteps?_of_wholeDegree? {width : Int} {degree : Nat}
    (found : wholeDegree? width = some degree) : naturalHalfsteps? degree = some width := by
  obtain ⟨index, place, rfl⟩ := Option.map_eq_some_iff.1 found
  obtain ⟨below, there, -⟩ := List.idxOf?_eq_some_iff.1 place
  show degreeHalfsteps[index]? = some width
  rw [List.getElem?_eq_getElem below, there]

theorem lt_of_naturalHalfsteps? {degree : Nat} {width : Int}
    (known : naturalHalfsteps? degree = some width) : degree < 10 ^ Numeral.digitLimit := by
  have small : degree < 10 ^ 2 := by
    cases degree with
    | zero => decide
    | succ index =>
        obtain ⟨below, -⟩ := List.getElem?_eq_some_iff.1 known
        have length : degreeHalfsteps.length = 15 := rfl
        omega
  exact Nat.lt_of_lt_of_le small (Nat.pow_le_pow_right (by decide) (by decide))

theorem degreeDigits_append {marks digits : Text}
    (unnumbered : ∀ c ∈ marks, isDecimalDigit c = false)
    (numbered : ∀ c ∈ digits, isDecimalDigit c) : degreeDigits (marks ++ digits) = digits := by
  have passed : ∀ c ∈ marks, (!isDecimalDigit c) = true := by
    intro c member
    rw [unnumbered c member, Bool.not_false]
  have boundary : ∀ c ∈ digits.head?, (!isDecimalDigit c) = false := by
    intro c first
    rw [numbered c (List.mem_of_mem_head? first), Bool.not_true]
  rw [degreeDigits, dropWhile_append_boundary passed boundary,
    List.takeWhile_eq_self_iff.2 numbered]

/-- Digits are no accidentals. -/
theorem netMarks_of_isDecimalDigit {digits : Text} (numbered : ∀ c ∈ digits, isDecimalDigit c) :
    Accidental.netMarks digits = 0 := by
  have absent : ∀ mark : CodePoint, isDecimalDigit mark = false → digits.count mark = 0 := by
    intro mark noDigit
    rw [List.count_eq_zero]
    intro member
    rw [numbered mark member] at noDigit
    cases noDigit
  rw [Accidental.netMarks_eq_count, absent '#' (by decide), absent 'b' (by decide),
    absent 'B' (by decide)]
  rfl

theorem isDecimalDigit_of_mem_ofNat {number : Nat} : ∀ c ∈ Decimal.ofNat number, isDecimalDigit c :=
  fun _ member => Numeral.isDecimalDigit_of_isDigit (Decimal.isDigit_of_mem_ofNat member)

theorem netMarks_append_ofNat (marks : Text) (number : Nat) :
    Accidental.netMarks (marks ++ Decimal.ofNat number) = Accidental.netMarks marks := by
  rw [Accidental.netMarks_append_eq_add, netMarks_of_isDecimalDigit isDecimalDigit_of_mem_ofNat,
    Int.add_zero]

/-- Marks in front of the number of a degree alter it by their net count. -/
theorem halfsteps_append_ofNat {marks : Text} {degree : Nat} {width : Int}
    (unnumbered : ∀ c ∈ marks, isDecimalDigit c = false)
    (known : naturalHalfsteps? degree = some width) :
    halfsteps (marks ++ Decimal.ofNat degree) = .ok (width + Accidental.netMarks marks) := by
  have number : Interval.degree (marks ++ Decimal.ofNat degree) = .ok degree := by
    rw [Interval.degree, degreeDigits_append unnumbered isDecimalDigit_of_mem_ofNat,
      Numeral.readRun_ofNat (lt_of_naturalHalfsteps? known)]
  simp only [halfsteps, number, known, netMarks_append_ofNat]

/-- The token of a gap is read as the gap. -/
theorem halfsteps_of_name? {gap : Int} {token : Text} (named : name? gap = some token) :
    halfsteps token = .ok gap := by
  unfold name? at named
  split at named
  · rename_i degree found
    obtain rfl := Option.some.inj named
    have plain : halfsteps ([] ++ Decimal.ofNat degree) = .ok (gap + 0) :=
      halfsteps_append_ofNat (by simp) (naturalHalfsteps?_of_wholeDegree? found)
    rwa [Int.add_zero] at plain
  · obtain ⟨degree, found, rfl⟩ := Option.map_eq_some_iff.1 named
    have flattened : halfsteps ([Tone.noteFlat] ++ Decimal.ofNat degree) = .ok (gap + 1 + -1) :=
      halfsteps_append_ofNat (by decide) (naturalHalfsteps?_of_wholeDegree? found)
    rwa [Int.add_neg_cancel_right] at flattened

/-! ### The twelve tokens -/

theorem name?_eq_name (gap : PitchClass) : name? gap.toInt = some (name gap) :=
  (Option.some_get (isSome_name? gap)).symm

theorem name_zero : name 0 = "1".toText := by
  decide

theorem halfsteps_name (gap : PitchClass) : halfsteps (name gap) = .ok gap.toInt :=
  halfsteps_of_name? (name?_eq_name gap)

theorem name_injective : Function.Injective name := by
  intro gap other same
  have read := halfsteps_name gap
  rw [same, halfsteps_name other] at read
  have widths : (other.val : Int) = gap.val := Except.ok.inj read
  exact Fin.ext (by omega)

/-- The tokens of the gaps within an octave, upward from the unison. -/
def names : List Text :=
  ["1", "b2", "2", "b3", "3", "4", "b5", "5", "b6", "6", "b7", "7"].map String.toText

theorem names_eq : names = (List.finRange 12).map name := by
  decide

theorem mem_names_iff {token : Text} : token ∈ names ↔ ∃ gap, name gap = token := by
  rw [names_eq, List.mem_map]
  simp

theorem solid_name (gap : PitchClass) : name gap ≠ [] ∧ ∀ c ∈ name gap, isBlank c = false := by
  revert gap
  decide

end Interval

namespace PitchClass

theorem ofInt_sub_ofInt (height other : Int) : ofInt height - ofInt other = ofInt (height - other) := by
  apply Fin.ext
  rw [Fin.sub_def]
  simp only [ofInt]
  omega

theorem ofInt_toInt (position : PitchClass) : ofInt position.toInt = position := by
  revert position
  decide

end PitchClass

end MusicText
