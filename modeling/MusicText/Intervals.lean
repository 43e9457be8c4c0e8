import MusicText.Note

/-!
Contract: interval patterns and half-step arithmetic.

Owns: the reading of one interval token, patterns with an optional root, rotation,
resolution to notes, and the pattern of given notes.

Does not own: the named patterns of scales and chords.

A pattern is a list of scale degrees, each with flats and sharps, such as `1 b3 5`
for a minor triad. Degrees 1 to 15 span two octaves.
-/

namespace MusicText

open MusicText.Text

namespace Interval

/-- Half-steps of the degrees 1 to 15, without accidentals. -/
def degreeHalfsteps : List Int :=
  [0, 2, 4, 5, 7, 9, 11, 12, 14, 16, 17, 19, 21, 23, 24]

/-- The first run of decimal digits in a token. -/
def degreeDigits (token : Text) : Text :=
  (token.dropWhile fun c => !isDecimalDigit c).takeWhile isDecimalDigit

/-- The degree that a token names, 0 when it has no digits. -/
def degree (token : Text) : Except Fault Nat :=
  Numeral.readRun (degreeDigits token)

/-- Half-steps of a natural degree, if it lies within two octaves. -/
def naturalHalfsteps? : Nat → Option Int
  | 0 => none
  | index + 1 => degreeHalfsteps[index]?

/-- Half-steps of a token: its degree, one more for each sharp, one less for each flat,
wherever the accidentals stand in the token. -/
def halfsteps (token : Text) : Except Fault Int :=
  match degree token with
  | .error fault => .error fault
  | .ok degree =>
      match naturalHalfsteps? degree with
      | none => .error (.degreeOutOfRange token)
      | some natural => .ok (natural + Accidental.netMarks token)

/-- The degree that is so many half-steps wide without accidentals, if there is one. -/
def wholeDegree? (halfsteps : Int) : Option Nat :=
  (degreeHalfsteps.idxOf? halfsteps).map (· + 1)

/-- The token of a gap: its whole degree, or the next higher degree flattened. -/
def name? (gap : Int) : Option Text :=
  match wholeDegree? gap with
  | some degree => some (Decimal.ofNat degree)
  | none =>
      (wholeDegree? (gap + 1)).map fun degree => Tone.noteFlat :: Decimal.ofNat degree

/-- Between two whole degrees within an octave lies one half-step at most, so every gap
there has a token. -/
theorem isSome_name? (gap : PitchClass) : (name? gap.toInt).isSome := by
  revert gap
  decide

/-- The token of an interval that is measured upward within an octave. -/
def name (gap : PitchClass) : Text :=
  (name? gap.toInt).get (isSome_name? gap)

end Interval

/-- An interval pattern with an optional root. -/
structure Intervals where
  tokens : List Text
  root : Option Note
  deriving DecidableEq, Repr

namespace Intervals

/-- The pattern of a text: its words. No root is set. -/
def ofText (text : Text) : Intervals :=
  ⟨words text, none⟩

/-- The tokens separated by single spaces. -/
def toText (intervals : Intervals) : Text :=
  unwords intervals.tokens

/-- A pattern with its type, for diagnosis. -/
def describe (intervals : Intervals) : Text :=
  "Intervals(".toText ++ quoted intervals.toText ++ ")".toText

/-- The number of tokens. -/
def size (intervals : Intervals) : Nat :=
  intervals.tokens.length

/-- Whether two patterns have the same tokens. Roots do not matter. -/
def samePattern (first second : Intervals) : Bool :=
  first.tokens == second.tokens

/-- Sets the root. -/
def withRoot (intervals : Intervals) (root : Note) : Intervals :=
  { intervals with root := some root }

/-- Sets the root to the note that a text names. -/
def withRootText (intervals : Intervals) (text : Text) : Except Fault Intervals :=
  (Note.ofText text).map intervals.withRoot

/-- Rotates the tokens to the left, to the right for a negative amount. -/
def rotate (intervals : Intervals) (amount : Int) : Intervals :=
  let start := (amount % intervals.tokens.length).toNat
  { intervals with tokens := intervals.tokens.drop start ++ intervals.tokens.take start }

/-- The first number that does not fit into 64 bits with a sign. -/
def indexLimit : Nat := Nat.pow 2 63

/-- Whether an index is one that a list could have: it fits into 64 bits with a sign. -/
def isIndex (index : Int) : Bool :=
  -indexLimit ≤ index && index < indexLimit

/-- The token at an index. A negative index counts from the end. -/
def nth (intervals : Intervals) (index : Int) : Except Fault Text :=
  let position := if index < 0 then index + intervals.size else index
  if !isIndex index then .error .indexTooLarge
  else if position < 0 then .error .indexOutOfRange
  else
    match intervals.tokens[position.toNat]? with
    | some token => .ok token
    | none => .error .indexOutOfRange

/-- Half-steps of all tokens, or the fault of the first token that has none. -/
def halfsteps (intervals : Intervals) : Except Fault (List Int) :=
  intervals.tokens.mapM Interval.halfsteps

/-- The notes above a root. They have no names, and values beyond the MIDI range stay. -/
def resolve (intervals : Intervals) (root : Note) : Except Fault (List Note) :=
  intervals.halfsteps.map fun steps => steps.map fun step => ⟨root.value + step, none⟩

/-- The notes above the root that is set. -/
def notes (intervals : Intervals) : Except Fault (List Note) :=
  match intervals.root with
  | none => .error .rootMissing
  | some root => intervals.resolve root

/-- The pattern of given notes: the first is degree 1, each later one is measured
upward from it within an octave. -/
def ofNotes : List Note → Intervals
  | [] => ofText []
  | first :: later =>
      ofText (unwords ("1".toText :: later.map fun note =>
        Interval.name (note.pitchClass - first.pitchClass)))

/-- The pattern of the notes that a text names, one for each word. -/
def ofNoteNames (text : Text) : Except Fault Intervals :=
  ((words text).mapM Note.ofText).map ofNotes

theorem root_rotate (intervals : Intervals) (amount : Int) :
    (intervals.rotate amount).root = intervals.root := rfl

end Intervals

end MusicText
