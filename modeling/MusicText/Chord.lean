import MusicText.Chord.Quality

/-!
Contract: chords and their names.

Owns: chords as a root with a pattern, and the division of a chord name into
root, octave and quality.

Does not own: the table of qualities; see `MusicText.Chord.Quality`.

A chord name is a root, an optional octave and a quality, such as `Cmaj`, `F#min7`
or `Bb4dom7`. Case does not matter in the quality.
-/

namespace MusicText

open MusicText.Text

/-- A root note with the tokens of an interval pattern. -/
structure Chord where
  root : Note
  tokens : List Text
  deriving DecidableEq, Repr

namespace Chord

/-- The pattern of a chord with its root set. -/
def intervals (chord : Chord) : Intervals :=
  ⟨chord.tokens, some chord.root⟩

def notes (chord : Chord) : Except Fault (List Note) :=
  chord.intervals.notes

/-- Whether the pattern has the token of a major third. -/
def isMajor (chord : Chord) : Bool :=
  chord.tokens.contains ['3']

/-- Whether the pattern has the token of a minor third. -/
def isMinor (chord : Chord) : Bool :=
  chord.tokens.contains ['b', '3']

/-- A chord with its root and pattern, for diagnosis. -/
def describe (chord : Chord) : Text :=
  "Chord(".toText ++ chord.root.toText ++ ", ".toText ++ quoted chord.intervals.toText ++ ")".toText

/-- A chord name divided behind its root letter. -/
structure Division where
  marks : Text
  digits : Text
  quality : Text
  deriving DecidableEq, Repr

namespace Division

/-- The divisions with a given number of marks, those with more digits first. A
division takes at most two digits. -/
def withMarks (rest : Text) (marks : Nat) : List Division :=
  let afterMarks := rest.drop marks
  let digitCount := ((afterMarks.take 2).takeWhile isDecimalDigit).length
  (List.range (digitCount + 1)).reverse.map fun digits =>
    ⟨rest.take marks, afterMarks.take digits, afterMarks.drop digits⟩

/-- The numbers of marks that a division can take, the largest first. -/
def markCounts (rest : Text) : List Nat :=
  (List.range ((rest.takeWhile Note.isMark).length + 1)).reverse

/-- The divisions of the text behind a root letter, in order of preference. -/
def candidates (rest : Text) : List Division :=
  (markCounts rest).flatMap (withMarks rest)

/-- Whether a division leaves a quality on one line. -/
def admits (division : Division) : Bool :=
  division.quality ≠ [] && !division.quality.contains '\n'

/-- The preferred division that leaves a quality. -/
def read? (rest : Text) : Option Division :=
  (markCounts rest).findSome? fun marks => (withMarks rest marks).find? admits

/-- The parts of a division make up the text. -/
def text (division : Division) : Text :=
  division.marks ++ division.digits ++ division.quality

theorem read?_eq_find? (rest : Text) : read? rest = (candidates rest).find? admits := by
  simp [read?, candidates, List.find?_flatMap]

theorem text_of_mem_candidates {rest : Text} {division : Division}
    (member : division ∈ candidates rest) : division.text = rest := by
  simp only [candidates, withMarks, List.mem_flatMap, List.mem_map] at member
  obtain ⟨marks, -, digits, -, rfl⟩ := member
  rw [text, List.append_assoc, List.take_append_drop, List.take_append_drop]

/-- A preferred division loses nothing of the text. -/
theorem text_of_read? {rest : Text} {division : Division}
    (found : read? rest = some division) : division.text = rest :=
  text_of_mem_candidates (List.mem_of_find?_eq_some (read?_eq_find? rest ▸ found))

end Division

/-- A chord name divided into its root letter and the parts behind it. -/
def divide? : Text → Option (CodePoint × Division)
  | [] => none
  | letter :: rest =>
      match Step.ofLetter? letter with
      | none => none
      | some _ => (Division.read? rest).map fun division => (letter, division)

/-- A chord from a name such as `Cmaj` or `Ebmin7`, blanks around it ignored. -/
def ofName (name : Text) : Except Fault Chord :=
  match divide? (strip name) with
  | none => .error (.notAChord name)
  | some (letter, division) =>
      let quality := upper division.quality
      match qualityTokens? quality with
      | none => .error (.unknownQuality quality name)
      | some tokens =>
          match Note.ofText (letter :: (division.marks ++ division.digits)) with
          | .error fault => .error fault
          | .ok root => .ok ⟨root, tokens⟩

end Chord

end MusicText
