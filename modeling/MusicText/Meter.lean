import MusicText.Binary64
import MusicText.Numeral

/-!
Contract: time signatures.

Owns: meters with positive parts, their text, and the measures that a score makes of
them.

Does not own: the tokens that set a meter; see `MusicText.Token.Signature`.
-/

namespace MusicText

open MusicText.Text

/-- Beats in a measure over the beat unit. The unit need not be a power of two. -/
structure Meter where
  numerator : Int
  denominator : Int
  numerator_pos : 0 < numerator
  denominator_pos : 0 < denominator
  deriving DecidableEq, Repr

namespace Meter

/-- Two parts as text, as in `3/4`. -/
def fraction (numerator denominator : Int) : Text :=
  Decimal.ofInt numerator ++ "/".toText ++ Decimal.ofInt denominator

/-- A meter from its parts, which have to be positive. -/
def ofParts (numerator denominator : Int) : Except Fault Meter :=
  if positive : 0 < numerator ∧ 0 < denominator then
    .ok ⟨numerator, denominator, positive.1, positive.2⟩
  else .error (.meterNotPositive numerator denominator)

/-- A meter from the texts of its two parts. -/
def ofPartTexts (numerator denominator : Text) : Except Fault Meter :=
  match Numeral.read numerator with
  | .error fault => .error fault
  | .ok above =>
      match Numeral.read denominator with
      | .error fault => .error fault
      | .ok below => ofParts above below

/-- A meter from text such as `3/4`, cut at the first slash. Without a slash the
second part is empty. -/
def ofText (text : Text) : Except Fault Meter :=
  match cutAt? '/' text with
  | some (numerator, denominator) => ofPartTexts numerator denominator
  | none => ofPartTexts text []

def toText (meter : Meter) : Text :=
  fraction meter.numerator meter.denominator

/-- A meter with its components, for diagnosis. -/
def describe (meter : Meter) : Text :=
  "TimeSignature(numerator=".toText ++ Decimal.ofInt meter.numerator
    ++ ", denominator=".toText ++ Decimal.ofInt meter.denominator ++ ")".toText

end Meter

/-- A measure of a score: beats over the beat unit. -/
structure Measure where
  numerator : Nat
  denominator : Nat
  deriving DecidableEq, Repr

namespace Measure

/-- Whether a measure can be divided into beats. A unit of at most 128 always can; a
smaller unit demands a single beat, or groups of three beats. -/
def isDivisible (measure : Measure) : Bool :=
  measure.numerator ≠ 0 &&
    (measure.denominator ≤ 128 || measure.numerator == 1
      || (measure.numerator % 3 == 0 && 3 < measure.numerator))

/-- What keeps the length of a measure, four times the beats over the unit, from being
a finite binary number. -/
def lengthFault? (measure : Measure) : Option ArithmeticFault :=
  if Binary64.overflows measure.numerator ∨ Binary64.overflows measure.denominator then
    some .integerTooLarge
  else if measure.denominator = 0 then some .divisionByZero
  else if Binary64.overflows (4 * measure.numerator) then some .infiniteRatio
  else none

/-- The measure that a score makes of two numbers. Their signs do not matter. The length
is computed before the measure is divided. -/
def ofParts (numerator denominator : Int) : Except Fault Measure :=
  let measure : Measure := ⟨numerator.natAbs, denominator.natAbs⟩
  match measure.lengthFault? with
  | some cause => .error (.arithmetic cause)
  | none =>
      if measure.isDivisible then .ok measure
      else .error (.meterIndivisible measure.numerator measure.denominator)

def toText (measure : Measure) : Text :=
  Meter.fraction measure.numerator measure.denominator

end Measure

end MusicText
