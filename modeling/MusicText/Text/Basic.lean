import MusicText.Text.CodePoint

/-!
Contract: texts as lists of code points, and the cuts that need no character class.

Owns: the type `Text`, the text of a string and the string that shows a text, numbers
in a base and back, pieces between marks, the cut at a first mark, and the search for a part of
a text.

Does not own: character classes, letter case, quoting, numerals.
-/

namespace MusicText

/-- A text is the list of its code points, so lengths and positions count code points. -/
abbrev Text := List CodePoint

end MusicText

/-- The text of a string. -/
def String.toText (string : String) : MusicText.Text :=
  string.toList.map .scalar

namespace MusicText

namespace Text

/-- The string that shows a text. Surrogates that stand alone are replaced. -/
def toShown (text : Text) : String :=
  String.ofList (text.map CodePoint.shown)

/-- A number in a base from two to sixteen, with lower-case letters as digits beyond nine. -/
def inBase (base number : Nat) : Text :=
  (Nat.toDigits base number).map .scalar

/-- The number that a run of ASCII digits denotes. -/
def decimalValue (digits : Text) : Nat :=
  digits.foldl (fun value digit => 10 * value + (digit.toNat - 48)) 0

/-- The pieces between the characters that satisfy `mark`, empty pieces included.
There is always one piece more than there are marks. -/
def pieces (mark : CodePoint → Bool) : Text → List Text
  | [] => [[]]
  | c :: rest =>
      if mark c then [] :: pieces mark rest
      else
        match pieces mark rest with
        | [] => [[c]]
        | first :: others => (c :: first) :: others

/-- What stands before and after the first `mark`, or nothing when `mark` does not occur. -/
def cutAt? (mark : CodePoint) : Text → Option (Text × Text)
  | [] => none
  | c :: rest =>
      if c = mark then some ([], rest)
      else (cutAt? mark rest).map fun sides => (c :: sides.1, sides.2)

/-- Position of the first occurrence of `needle`. The empty needle occurs at once. -/
def indexOf? (needle : Text) : Text → Option Nat
  | [] => if needle = [] then some 0 else none
  | c :: rest =>
      if needle.isPrefixOf (c :: rest) then some 0
      else (indexOf? needle rest).map (· + 1)

/-- The position that a start index denotes: a negative one counts from the end
and never reaches before the beginning. -/
def origin (text : Text) (start : Int) : Nat :=
  if start < 0 then (text.length + start).toNat else start.toNat

/-- Position of the first occurrence of `needle` at or after `start`, or the
length of the text when there is none. -/
def nextOrEnd (text needle : Text) (start : Int) : Nat :=
  let anchor := origin text start
  if text.length < anchor then text.length
  else ((indexOf? needle (text.drop anchor)).map (· + anchor)).getD text.length

theorem pieces_ne_nil (mark : CodePoint → Bool) (text : Text) : pieces mark text ≠ [] := by
  cases text with
  | nil => simp [pieces]
  | cons c rest =>
      rw [pieces]
      split
      · simp
      · split <;> simp

/-- Cutting at a mark loses nothing but the mark. -/
theorem eq_append_of_cutAt? {mark : CodePoint} {text before after : Text}
    (cut : cutAt? mark text = some (before, after)) :
    text = before ++ mark :: after ∧ mark ∉ before := by
  induction text generalizing before with
  | nil => simp [cutAt?] at cut
  | cons c rest inductionHypothesis =>
      rw [cutAt?] at cut
      split at cut
      · rename_i same
        simp only [Option.some.injEq, Prod.mk.injEq] at cut
        obtain ⟨rfl, rfl⟩ := cut
        simp [same]
      · rename_i different
        obtain ⟨sides, found, equal⟩ := Option.map_eq_some_iff.1 cut
        simp only [Prod.mk.injEq] at equal
        obtain ⟨rfl, rfl⟩ := equal
        obtain ⟨split, absent⟩ := inductionHypothesis found
        refine ⟨by simp [split], ?_⟩
        simpa [absent] using fun same => different same.symm

/-- A mark that occurs nowhere cuts nothing, and only such a mark. -/
theorem cutAt?_eq_none_iff {mark : CodePoint} {text : Text} :
    cutAt? mark text = none ↔ mark ∉ text := by
  induction text with
  | nil => simp [cutAt?]
  | cons c rest inductionHypothesis =>
      rw [cutAt?]
      split
      · rename_i same
        simp [same]
      · rename_i different
        simp [inductionHypothesis, Ne.symm different]

end Text

end MusicText
