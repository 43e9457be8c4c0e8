import MusicText.Numeral
import MusicText.Pitch.Basic

/-!
Contract: notes, their names and their sounding pitches.

Owns: the grammar of note names, the value that a name denotes, the printed form,
and the pitch that a note sounds.

Does not own: intervals and chords.

Note values follow the MIDI numbers with octave 5 as the default octave, so `C` and
`C5` are both 60. A printed note shows the octave of its value; a spelled pitch
has the octave of its letter.
-/

namespace MusicText

open MusicText.Text

/-- A note: its value, and the tone name that it was created with, if any. -/
structure Note where
  value : Int
  name : Option Text
  deriving DecidableEq, Repr

namespace Note

/-- The octave of a note name that mentions none. -/
def defaultOctave : Nat := 5

/-- Marks that alter a step in note names. -/
def isMark (c : CodePoint) : Bool :=
  c == '#' || c == Tone.noteFlat

/-- What a note name is made of: the name of a tone, and the octave if it is mentioned. -/
structure Name where
  tone : Text
  octave : Option Nat
  deriving DecidableEq, Repr

namespace Name

/-- Reads the octave at the end of a note name: nothing, or one or two ASCII digits. -/
def readOctave? : Text → Option (Option Nat)
  | [] => some none
  | [only] => if only.isDigit then some (some (decimalValue [only])) else none
  | [tens, units] =>
      if tens.isDigit ∧ units.isDigit then some (some (decimalValue [tens, units]))
      else none
  | _ => none

/-- Takes a note name without surrounding blanks apart: a letter in either case, all the marks
behind it, and perhaps an octave. The letter becomes a capital. -/
def read? : Text → Option Name
  | [] => none
  | letter :: rest =>
      match Step.ofLetter? letter, readOctave? (rest.dropWhile isMark) with
      | some step, some octave => some ⟨step.letter :: rest.takeWhile isMark, octave⟩
      | _, _ => none

/-- The octave, which is the default one when the name mentions none. -/
def octaveOrDefault (name : Name) : Nat :=
  name.octave.getD defaultOctave

end Name

/-- A note from text such as `C`, `Bb4`, `F##` or `Ebb6`, blanks around it ignored. Its value is
the number of the pitch that the text spells, where pitches count octaves from one below. Marks
that make no accidental make no note. -/
def ofText (text : Text) : Except Fault Note :=
  match Name.read? (strip text) with
  | none => .error (.notANote text)
  | some name =>
      match Intonation.ofNoteName name.tone with
      | .error _ => .error (.notANote text)
      | .ok tone =>
          (⟨tone, name.octaveOrDefault - 1⟩ : Pitch).number.map fun number =>
            ⟨number, some name.tone⟩

def pitchClass (note : Note) : PitchClass :=
  PitchClass.ofInt note.value

/-- The octave that a note's value lies in. -/
def octave (note : Note) : Int :=
  note.value / 12

/-- The name a note was created with, else the common name of its pitch class. -/
def toneName (note : Note) : Text :=
  note.name.getD note.pitchClass.commonTone.name

/-- A note as text: its tone and the octave of its value. -/
def toText (note : Note) : Text :=
  note.toneName ++ Decimal.ofInt note.octave

/-- A note with its two components, for diagnosis. -/
def describe (note : Note) : Text :=
  let name :=
    match note.name with
    | some name => quoted name
    | none => "None".toText
  "Note(".toText ++ Decimal.ofInt note.value ++ ", ".toText ++ name ++ ")".toText

/-- Notes with their components, unless a value has more digits than are written. -/
def describeAll (notes : List Note) : Except Fault (List Text) :=
  notes.mapM fun note =>
    if Numeral.isWritable note.value then .ok note.describe else .error .integerTooLongToWrite

/-- Whether two notes sound the same. Names do not matter. -/
def sounds (first second : Note) : Bool :=
  first.value == second.value

/-- Whether two note names denote the same pitch class. -/
def sameTone (first second : Text) : Except Fault Bool :=
  match ofText first with
  | .error fault => .error fault
  | .ok firstNote =>
      match ofText second with
      | .error fault => .error fault
      | .ok secondNote => .ok (firstNote.pitchClass = secondNote.pitchClass)

/-- The pitch that a note sounds. A named note keeps its spelling; its octave is
that of its value, corrected by the whole octaves between the value and the number
of the spelled pitch, because `Cb` and `B#` cross the octave boundary. -/
def toPitch (note : Note) : Except Fault Pitch :=
  match note.name with
  | none => .ok (Pitch.ofNumber note.value)
  | some name =>
      match Intonation.ofNoteName name with
      | .error fault => .error fault
      | .ok tone =>
          let written : Pitch := ⟨tone, note.octave - 1⟩
          match written.number with
          | .error fault => .error fault
          | .ok number => .ok ⟨tone, written.octave + (note.value - number) / 12⟩

end Note

end MusicText
