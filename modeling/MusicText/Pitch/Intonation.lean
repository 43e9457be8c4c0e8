import MusicText.Numeral
import MusicText.Pitch.Tone
import MusicText.Text.LowerCase

/-!
Contract: the tones of sounding pitches.

Owns: inflections by half-steps and by quarter tones, their marks and the words for
them, and the names of the tones of sounding pitches.

Does not own: the tones of notes, which have no quarter tones; see
`MusicText.Pitch.Tone`.

A name is a letter with marks, such as `E-` or `C#~`, or a letter with a word, such as
`Cis`. Every name of an intonation reads back as that intonation.
-/

namespace MusicText

open MusicText.Text

/-- What alters the step of a sounding pitch: an accidental, one quarter tone, or three of
them. -/
inductive Inflection
  | accidental (accidental : Accidental)
  | threeQuarterFlat | quarterFlat | quarterSharp | threeQuarterSharp
  deriving DecidableEq, Repr

namespace Inflection

def all : List Inflection :=
  Accidental.all.map accidental
    ++ [threeQuarterFlat, quarterFlat, quarterSharp, threeQuarterSharp]

def quarterTones : Inflection → Int
  | accidental sign => 2 * sign.alteration
  | threeQuarterFlat => -3
  | quarterFlat => -1
  | quarterSharp => 1
  | threeQuarterSharp => 3

/-- The marks of an inflection. A quarter tone is marked behind the half-step next to it. -/
def marks : Inflection → Text
  | accidental sign => sign.marks Tone.pitchFlat
  | threeQuarterFlat => "-`".toText
  | quarterFlat => "`".toText
  | quarterSharp => "~".toText
  | threeQuarterSharp => "#~".toText

/-- The words that may stand in place of the marks, in small letters. -/
def words : Inflection → List String
  | accidental .quadrupleFlat => ["quadruple-flat", "eseseses"]
  | accidental .tripleFlat => ["triple-flat", "eseses"]
  | accidental .doubleFlat => ["double-flat", "eses"]
  | accidental .flat => ["flat", "es", "b"]
  | accidental .natural => ["natural", "n"]
  | accidental .sharp => ["sharp", "is"]
  | accidental .doubleSharp => ["double-sharp", "isis"]
  | accidental .tripleSharp => ["triple-sharp", "isisis"]
  | accidental .quadrupleSharp => ["quadruple-sharp", "isisisis"]
  | threeQuarterFlat =>
      ["one-and-a-half-flat", "three-quarter-flat", "three-quarters-flat", "eseh", "sesquiflat"]
  | quarterFlat => ["half-flat", "quarter-flat", "eh", "semiflat"]
  | quarterSharp => ["half-sharp", "quarter-sharp", "ih", "semisharp"]
  | threeQuarterSharp =>
      ["one-and-a-half-sharp", "three-quarter-sharp", "three-quarters-sharp", "isih",
       "sesquisharp"]

/-- The inflection that is written by exactly these marks, or by this word. -/
def ofText? (text : Text) : Option Inflection :=
  all.find? fun inflection =>
    inflection.marks = text || (inflection.words.map String.toText).contains text

/-- Marks are read as the inflection that they mark. -/
theorem ofText?_marks (inflection : Inflection) : ofText? inflection.marks = some inflection := by
  cases inflection with
  | accidental sign => cases sign <;> rfl
  | threeQuarterFlat => rfl
  | quarterFlat => rfl
  | quarterSharp => rfl
  | threeQuarterSharp => rfl

/-- Marks have no capitals. -/
theorem lower_marks (inflection : Inflection) : lower inflection.marks = inflection.marks := by
  cases inflection with
  | accidental sign => cases sign <;> rfl
  | threeQuarterFlat => rfl
  | quarterFlat => rfl
  | quarterSharp => rfl
  | threeQuarterSharp => rfl

/-- No mark is a digit. -/
theorem isDigit_of_mem_marks (inflection : Inflection) :
    ∀ mark ∈ inflection.marks, mark.isDigit = false := by
  cases inflection with
  | accidental sign => cases sign <;> decide
  | threeQuarterFlat => decide
  | quarterFlat => decide
  | quarterSharp => decide
  | threeQuarterSharp => decide

end Inflection

/-- A tone as it sounds: a step and its inflection. -/
structure Intonation where
  step : Step
  inflection : Inflection
  deriving DecidableEq, Repr

/-- The tone of a note as it sounds. -/
def Tone.intonation (tone : Tone) : Intonation :=
  ⟨tone.step, .accidental tone.accidental⟩

namespace Intonation

/-- Quarter tones above C. -/
def quarterTones (intonation : Intonation) : Int :=
  2 * intonation.step.halfsteps + intonation.inflection.quarterTones

/-- The name with upper-case letter. -/
def name (intonation : Intonation) : Text :=
  intonation.step.letter :: intonation.inflection.marks

/-- The tone of half-steps that an intonation is, if it is one. -/
def toTone? (intonation : Intonation) : Option Tone :=
  match intonation.inflection with
  | .accidental sign => some ⟨intonation.step, sign⟩
  | _ => none

/-- Reads a name. Case does not matter, nor do blanks around the name, nor the digits of an
octave unless they are too many. -/
def ofName (name : Text) : Except Fault Intonation :=
  match (strip name).filter (!·.isDigit) with
  | [] => .error .toneMissing
  | letter :: rest =>
      match Step.ofLetter? letter with
      | none => .error (.notAStep (upper (strip [letter])))
      | some step =>
          match Inflection.ofText? (lower rest) with
          | none => .error (.unsupportedAccidental (lower rest))
          | some inflection =>
              (Numeral.readRun ((strip name).filter (·.isDigit))).map fun _ =>
                ⟨step, inflection⟩

/-- Reads the name of a note, every `b` of which is a flat. A name that begins with a
lower-case `b` loses its letter by this. -/
def ofNoteName (name : Text) : Except Fault Intonation :=
  ofName (name.map fun c => if c = Tone.noteFlat then Tone.pitchFlat else c)

theorem toTone?_intonation (tone : Tone) : tone.intonation.toTone? = some tone := rfl

theorem quarterTones_intonation (tone : Tone) :
    tone.intonation.quarterTones = 2 * tone.halfsteps := by
  simp only [Tone.intonation, quarterTones, Inflection.quarterTones, Tone.halfsteps]
  omega

/-- A name has no blanks around it. -/
theorem strip_name (intonation : Intonation) : strip intonation.name = intonation.name := by
  obtain ⟨step, inflection⟩ := intonation
  cases inflection with
  | accidental sign => cases step <;> cases sign <;> rfl
  | threeQuarterFlat => cases step <;> rfl
  | quarterFlat => cases step <;> rfl
  | quarterSharp => cases step <;> rfl
  | threeQuarterSharp => cases step <;> rfl

/-- A name has no digits. -/
theorem isDigit_of_mem_name {intonation : Intonation} {c : CodePoint}
    (member : c ∈ intonation.name) : c.isDigit = false := by
  have letter : intonation.step.letter.isDigit = false := by cases intonation.step <;> rfl
  have marks : ∀ mark ∈ intonation.inflection.marks, mark.isDigit = false :=
    Inflection.isDigit_of_mem_marks intonation.inflection
  rcases List.mem_cons.1 member with rfl | inMarks
  · exact letter
  · exact marks c inMarks

/-- The name of an intonation reads back. -/
theorem ofName_name (intonation : Intonation) : ofName intonation.name = .ok intonation := by
  have letters : intonation.name.filter (!·.isDigit) = intonation.name :=
    List.filter_eq_self.2 fun c member => by simp [isDigit_of_mem_name member]
  have digits : intonation.name.filter (·.isDigit) = [] :=
    List.filter_eq_nil_iff.2 fun c member => by simp [isDigit_of_mem_name member]
  unfold ofName
  rw [strip_name, letters, digits]
  simp only [name, Step.ofLetter?_letter, Inflection.lower_marks, Inflection.ofText?_marks]
  rfl

/-- The name of a note's tone is read as that tone sounds. -/
theorem ofNoteName_name (tone : Tone) : ofNoteName tone.name = .ok tone.intonation := by
  have flats : (tone.name.map fun c => if c = Tone.noteFlat then Tone.pitchFlat else c)
      = tone.intonation.name := by
    obtain ⟨step, sign⟩ := tone
    cases step <;> cases sign <;> rfl
  rw [ofNoteName, flats, ofName_name]

end Intonation

end MusicText
