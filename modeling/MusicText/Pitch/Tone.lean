import MusicText.Text.UpperCase

/-!
Contract: tones as they are spelled, without an octave.

Owns: the seven steps, the nine accidentals, the tone that they make, and the two
ways of writing it: with `b` for a flat, as in note names, or with `-`, as in
names of sounding pitches.

Does not own: pitch classes and octaves, and the tones between the half-steps; see
`MusicText.Pitch.Intonation`.
-/

namespace MusicText

open MusicText.Text

/-- A letter of the musical alphabet. -/
inductive Step
  | c | d | e | f | g | a | b
  deriving DecidableEq, Repr

namespace Step

/-- The steps upward from C. -/
def all : List Step := [c, d, e, f, g, a, b]

/-- The upper-case letter of a step. -/
def letter : Step → CodePoint
  | c => 'C' | d => 'D' | e => 'E' | f => 'F' | g => 'G' | a => 'A' | b => 'B'

/-- The lower-case letter of a step. -/
def smallLetter : Step → CodePoint
  | c => 'c' | d => 'd' | e => 'e' | f => 'f' | g => 'g' | a => 'a' | b => 'b'

/-- Half-steps above C. -/
def halfsteps : Step → Int
  | c => 0 | d => 2 | e => 4 | f => 5 | g => 7 | a => 9 | b => 11

/-- Fifths above C. F lies one fifth below. -/
def fifths : Step → Int
  | f => -1 | c => 0 | g => 1 | d => 2 | a => 3 | e => 4 | b => 5

/-- The step of a letter in either case. -/
def ofLetter? (letter : CodePoint) : Option Step :=
  all.find? fun step => step.letter = letter ∨ step.smallLetter = letter

theorem ofLetter?_letter (step : Step) : ofLetter? step.letter = some step := by
  cases step <;> rfl

end Step

/-- A chromatic alteration of a step by at most four half-steps. -/
inductive Accidental
  | quadrupleFlat | tripleFlat | doubleFlat | flat | natural
  | sharp | doubleSharp | tripleSharp | quadrupleSharp
  deriving DecidableEq, Repr

namespace Accidental

/-- The accidentals from the lowest to the highest. -/
def all : List Accidental :=
  [quadrupleFlat, tripleFlat, doubleFlat, flat, natural,
   sharp, doubleSharp, tripleSharp, quadrupleSharp]

/-- Half-steps that an accidental adds. -/
def alteration : Accidental → Int
  | quadrupleFlat => -4 | tripleFlat => -3 | doubleFlat => -2 | flat => -1
  | natural => 0
  | sharp => 1 | doubleSharp => 2 | tripleSharp => 3 | quadrupleSharp => 4

/-- The marks of an accidental: one sharp or flat for each half-step. -/
def marks (flatMark : CodePoint) : Accidental → Text
  | quadrupleFlat => [flatMark, flatMark, flatMark, flatMark]
  | tripleFlat => [flatMark, flatMark, flatMark]
  | doubleFlat => [flatMark, flatMark]
  | flat => [flatMark]
  | natural => []
  | sharp => ['#']
  | doubleSharp => ['#', '#']
  | tripleSharp => ['#', '#', '#']
  | quadrupleSharp => ['#', '#', '#', '#']

/-- The accidental that is written by exactly these marks. -/
def ofMarks? (flatMark : CodePoint) (text : Text) : Option Accidental :=
  all.find? fun accidental => accidental.marks flatMark = text

/-- Sharps less flats in a text, wherever they stand, where flats may be written `b` or
`B`. Other characters count nothing. -/
def netMarks (text : Text) : Int :=
  (upper text).foldl
    (fun count (c : CodePoint) => if c = 'B' then count - 1 else if c = '#' then count + 1 else count) 0

/-- Marks are read as an accidental exactly when they are its marks. -/
theorem ofMarks?_eq_some_iff {flatMark : CodePoint} (different : flatMark ≠ '#')
    {text : Text} {accidental : Accidental} :
    ofMarks? flatMark text = some accidental ↔ text = accidental.marks flatMark := by
  constructor
  · intro found
    have fits := List.find?_some found
    exact (of_decide_eq_true fits).symm
  · rintro rfl
    cases accidental <;> simp [ofMarks?, all, marks, different]

end Accidental

/-- A spelled tone: a step and its accidental. -/
structure Tone where
  step : Step
  accidental : Accidental
  deriving DecidableEq, Repr

namespace Tone

/-- Half-steps above C. The result can lie below 0 or above 11. -/
def halfsteps (tone : Tone) : Int :=
  tone.step.halfsteps + tone.accidental.alteration

/-- Fifths above C. -/
def fifths (tone : Tone) : Int :=
  tone.step.fifths + 7 * tone.accidental.alteration

/-- The tone at a place on the circle of fifths, where C stands at 0. The seven steps repeat
along the circle, each time with half a step more. Far out there are no accidentals left. -/
def ofFifths? (place : Int) : Option Tone :=
  match Step.all.find? fun step => step.fifths = (place + 1) % 7 - 1,
      Accidental.all.find? fun accidental => accidental.alteration = (place + 1) / 7 with
  | some step, some accidental => some ⟨step, accidental⟩
  | _, _ => none

/-- The flat mark in note names. -/
def noteFlat : CodePoint := 'b'

/-- The flat mark in names of sounding pitches. -/
def pitchFlat : CodePoint := '-'

/-- The name with upper-case letter and `b` for flats. -/
def name (tone : Tone) : Text :=
  tone.step.letter :: tone.accidental.marks noteFlat

/-- The name with upper-case letter and `-` for flats. -/
def pitchName (tone : Tone) : Text :=
  tone.step.letter :: tone.accidental.marks pitchFlat

/-- The name with lower-case letter and `-` for flats, as minor keys are shown. -/
def smallPitchName (tone : Tone) : Text :=
  tone.step.smallLetter :: tone.accidental.marks pitchFlat

/-- At its place on the circle stands the tone itself. -/
theorem ofFifths?_fifths (tone : Tone) : ofFifths? tone.fifths = some tone := by
  obtain ⟨step, accidental⟩ := tone
  cases step <;> cases accidental <;> rfl

end Tone

end MusicText
