import MusicText.Decimal
import MusicText.Text.Quoted

/-!
Contract: why a piece of music theory is refused.

Owns: the causes and their wording.

Does not own: the place of a token in a longer text; see `MusicText.Failure`.
-/

namespace MusicText

open MusicText.Text

/-- Why a computation with numbers has no result. -/
inductive ArithmeticFault
  /-- A divisor is zero. -/
  | divisionByZero
  /-- An integer exceeds every finite binary number. -/
  | integerTooLarge
  /-- The integer part of an infinite number is asked for. -/
  | infiniteInteger
  /-- A quotient of integers is asked for that equals an infinite number. -/
  | infiniteRatio
  deriving DecidableEq, Repr

/-- The wording for a computation without a result. -/
def ArithmeticFault.message : ArithmeticFault → Text
  | divisionByZero => "float division by zero".toText
  | integerTooLarge => "int too large to convert to float".toText
  | infiniteInteger => "cannot convert float infinity to integer".toText
  | infiniteRatio => "cannot convert Infinity to integer ratio".toText

/-- Why a note, an interval, a chord, a key, a meter, an instrument or a number
is refused. -/
inductive Fault
  /-- The text is not a written integer. -/
  | notAnInteger (text : Text)
  /-- A numeral has more digits than are read. -/
  | integerTooLong (digits : Nat)
  /-- An integer has more digits than are written. -/
  | integerTooLongToWrite
  /-- The text is not the name of a note. -/
  | notANote (text : Text)
  /-- The token has no degree, or one outside of two octaves. -/
  | degreeOutOfRange (token : Text)
  /-- Intervals are resolved before a root is set. -/
  | rootMissing
  /-- No interval has this index. -/
  | indexOutOfRange
  /-- The index is none that a list could have. -/
  | indexTooLarge
  /-- The text is not the name of a chord. -/
  | notAChord (name : Text)
  /-- The name ends in a quality that the table of chords does not know. -/
  | unknownQuality (quality name : Text)
  /-- The code is neither that of major nor that of minor. -/
  | unknownMode (code : Int)
  /-- A part of the time signature is zero or negative. -/
  | meterNotPositive (numerator denominator : Int)
  /-- The measure cannot be divided into its beats. -/
  | meterIndivisible (numerator denominator : Nat)
  /-- A key signature has more than seven accidentals. -/
  | accidentalCountOutOfRange (count : Int)
  /-- The letter of a tone is missing. -/
  | toneMissing
  /-- The text is not the letter of a tone. -/
  | notAStep (text : Text)
  /-- The text is neither the marks of an inflection nor a word for one. -/
  | unsupportedAccidental (marks : Text)
  /-- The tonic of a key lies between two half-steps. -/
  | tonicBetweenHalfsteps
  /-- No sound has this program number. -/
  | noSound (program : Int)
  /-- No instrument has this name. -/
  | unknownInstrument (name : Text)
  /-- No instrument has this program number. -/
  | unknownProgram (program : Int)
  /-- A computation has no result. -/
  | arithmetic (cause : ArithmeticFault)
  deriving DecidableEq, Repr

namespace Fault

/-- The most characters that are shown of a quoted text that is no integer. -/
def shownLength : Nat := 200

/-- The wording of a refusal. -/
def message : Fault → Text
  | notAnInteger text =>
      "invalid literal for int() with base 10: ".toText ++ (quoted text).take shownLength
  | integerTooLong digits =>
      "Exceeds the limit (4300 digits) for integer string conversion: value has ".toText
        ++ Decimal.ofNat digits
        ++ " digits; use sys.set_int_max_str_digits() to increase the limit".toText
  | integerTooLongToWrite =>
      ("Exceeds the limit (4300 digits) for integer string conversion; "
        ++ "use sys.set_int_max_str_digits() to increase the limit").toText
  | notANote text => "Invalid note: ".toText ++ quoted text
  | degreeOutOfRange token =>
      "Interval degree out of range (1-15): ".toText ++ quoted token
  | rootMissing => "Intervals have no root; call set_root() first".toText
  | indexOutOfRange => "list index out of range".toText
  | indexTooLarge => "cannot fit 'int' into an index-sized integer".toText
  | notAChord name => "Invalid chord name: ".toText ++ quoted name
  | unknownQuality quality name =>
      "Unknown chord quality ".toText ++ quoted quality ++ " in ".toText ++ quoted name
  | unknownMode code => Decimal.ofInt code ++ " is not a valid ScaleType".toText
  | meterNotPositive numerator denominator =>
      "Time signature parts must be positive: ".toText
        ++ Decimal.ofInt numerator ++ "/".toText ++ Decimal.ofInt denominator
  | meterIndivisible numerator denominator =>
      "Cannot set partition by ".toText ++ Decimal.ofNat numerator ++ " (".toText
        ++ Decimal.ofNat numerator ++ "/".toText ++ Decimal.ofNat denominator ++ ")".toText
  | accidentalCountOutOfRange count =>
      "Accidental count out of range (-7..7): ".toText ++ Decimal.ofInt count
  | toneMissing => "Cannot make a name out of ''".toText
  | notAStep text => "Cannot make a step out of '".toText ++ text ++ "'".toText
  | unsupportedAccidental marks =>
      marks ++ " is not a supported accidental type".toText
  | tonicBetweenHalfsteps => "Cannot determine sharps for quarter-tone keys! silly!".toText
  | noSound program =>
      "No instrument found for MIDI program ".toText ++ Decimal.ofInt program
  | unknownInstrument name => quoted name
  | unknownProgram program =>
      Decimal.ofInt program ++ " is not a valid Instrument".toText
  | arithmetic cause => cause.message

end Fault

end MusicText
