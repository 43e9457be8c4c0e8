import MusicText.Fault
import MusicText.Text.Blank
import MusicText.Text.DecimalDigit

/-!
Contract: integers read from decimal numerals.

Owns: the grammar of a written integer, the value of a digit run, and the limit
on the number of digits, which holds for writing too.

Does not own: how an integer is written; see `MusicText.Decimal`.
-/

namespace MusicText.Numeral

open MusicText.Text

/-- The most digits that a numeral may have, leading zeros included. -/
def digitLimit : Nat := 4300

/-- Whether a number has no more digits than are written. -/
def isWritable (number : Int) : Bool :=
  (Decimal.ofNat number.natAbs).length ≤ digitLimit

/-- The number that a sequence of digits denotes. -/
def valueOf (digits : List Nat) : Nat :=
  digits.foldl (fun value digit => 10 * value + digit) 0

/-- The value of a run of decimal digits of any script, within the limit. -/
def readRun (run : Text) : Except Fault Nat :=
  if digitLimit < run.length then .error (.integerTooLong run.length)
  else .ok (valueOf (run.filterMap digitValue?))

/-- Blanks that may stand around a written integer: all but the information
separators U+001C to U+001F. -/
def isMargin (c : CodePoint) : Bool :=
  isBlank c && !(0x1C ≤ c.toNat && c.toNat ≤ 0x1F)

/-- The sign in front of a numeral, and the rest. -/
def cutSign : Text → Int × Text
  | '+' :: rest => (1, rest)
  | '-' :: rest => (-1, rest)
  | text => (1, text)

/-- Digits and the underscores that may group them. -/
def isFigure (c : CodePoint) : Bool :=
  isDecimalDigit c || c == '_'

/-- Whether underscores stand between digits only, one at a time. -/
def wellGrouped (figures : Text) : Bool :=
  (pieces (· == '_') figures).all (· ≠ [])

/-- Reads a written integer: blanks, an optional sign, digits in which single
underscores may group, blanks. A numeral over the limit is refused before the
text behind it is looked at. -/
def read (text : Text) : Except Fault Int :=
  let (sign, body) := cutSign (trim isMargin text)
  let figures := body.takeWhile isFigure
  let rest := body.dropWhile isFigure
  if wellGrouped figures then
    match readRun (figures.filter (· ≠ '_')) with
    | .error fault => .error fault
    | .ok value => if rest = [] then .ok (sign * value) else .error (.notAnInteger text)
  else .error (.notAnInteger text)

end MusicText.Numeral
