import MusicText.Proofs.Note.Notation

/-!
Contract: which texts are notes.

Owns: the parts of a note name, the note that is read from them, and the comparison of two names.

Does not own: the way back from a note to a text; see `MusicText.Proofs.Note.Printing`.

A name may be given in either case, with blanks around it and with an octave. Of all this only the
octave enters the value, and nothing but the tone enters the pitch class.
-/

namespace MusicText.Note

open MusicText.Text

namespace Spelling

/-! ### Parts of a name -/

/-- Whether a letter, marks and digits write a spelling: the letter is that of the step in either
case, the marks are those of the accidental, and the digits mention the octave if there is one. -/
structure HasParts (spelling : Spelling) (letter : CodePoint) (marks digits : Text) : Prop where
  letter_eq : letter = spelling.tone.step.letter ∨ letter = spelling.tone.step.smallLetter
  marks_eq : marks = spelling.tone.accidental.marks Tone.noteFlat
  mentions : MentionsOctave digits spelling.octave

theorem MentionsOctave.length_le {digits : Text} {octave : Option Nat}
    (mentions : MentionsOctave digits octave) : digits.length ≤ 2 := by
  cases mentions with
  | omitted => decide
  | given nonempty short numeric => exact short

variable {spelling : Spelling} {text : Text} {letter : CodePoint} {marks digits : Text}

theorem isWrittenAs_iff :
    spelling.IsWrittenAs text
      ↔ ∃ letter marks digits, strip text = letter :: (marks ++ digits)
        ∧ spelling.HasParts letter marks digits := by
  constructor
  · rintro ⟨letter, digits, parts, isStep, mentions⟩
    exact ⟨letter, _, digits, parts, isStep, rfl, mentions⟩
  · rintro ⟨letter, _, digits, parts, isStep, rfl, mentions⟩
    exact ⟨letter, digits, parts, isStep, mentions⟩

theorem HasParts.isBlank_eq_false (parts : spelling.HasParts letter marks digits) :
    ∀ c ∈ letter :: (marks ++ digits), isBlank c = false := by
  intro c member
  rcases List.mem_cons.1 member with rfl | behind
  · rcases parts.letter_eq with rfl | rfl <;> cases spelling.tone.step <;> rfl
  · rcases List.mem_append.1 behind with inMarks | inDigits
    · have inName : c ∈ spelling.tone.name := by
        rw [parts.marks_eq] at inMarks
        exact List.mem_cons_of_mem _ inMarks
      exact isBlank_of_mem_name inName
    · exact Numeral.isBlank_of_isDigit (parts.mentions.isDigit c inDigits)

theorem HasParts.isWrittenAs (parts : spelling.HasParts letter marks digits) :
    spelling.IsWrittenAs (letter :: (marks ++ digits)) := by
  rw [isWrittenAs_iff, strip, trim_eq_self parts.isBlank_eq_false]
  exact ⟨letter, marks, digits, rfl, parts⟩

/-- All the marks behind a letter are the marks of a name, and the rest is its octave. -/
theorem hasParts_of_isWrittenAs (solid : ∀ c ∈ letter :: (marks ++ digits), isBlank c = false)
    (marked : ∀ mark ∈ marks, isMark mark) (unmarked : ∀ c ∈ digits.head?, isMark c = false)
    (written : spelling.IsWrittenAs (letter :: (marks ++ digits))) :
    spelling.HasParts letter marks digits := by
  obtain ⟨own, ownMarks, ownDigits, divided, parts⟩ := isWrittenAs_iff.1 written
  rw [strip, trim_eq_self solid] at divided
  obtain ⟨rfl, behind⟩ := List.cons.inj divided
  have ownMarked : ∀ mark ∈ ownMarks, isMark mark := by
    rw [parts.marks_eq]
    exact isMark_of_mem_marks spelling.tone.accidental
  have ownUnmarked : ∀ c ∈ ownDigits.head?, isMark c = false := fun c first =>
    isMark_of_isDigit (parts.mentions.isDigit c (List.mem_of_mem_head? first))
  obtain rfl : marks = ownMarks := by
    rw [← takeWhile_append_boundary marked unmarked, behind,
      takeWhile_append_boundary ownMarked ownUnmarked]
  obtain rfl : digits = ownDigits := List.append_cancel_left behind
  exact parts

theorem HasParts.name_eq (parts : spelling.HasParts letter marks digits) :
    spelling.tone.name = upper [letter] ++ marks := by
  have capital : upper [letter] = [spelling.tone.step.letter] := by
    rcases parts.letter_eq with rfl | rfl <;> cases spelling.tone.step <;> rfl
  rw [capital, parts.marks_eq]
  rfl

end Spelling

/-! ### Comparison -/

theorem sameTone_of_isWrittenAs {first second : Text} {spelling other : Spelling}
    (written : spelling.IsWrittenAs first) (otherWritten : other.IsWrittenAs second) :
    sameTone first second
      = .ok (decide (PitchClass.ofTone spelling.tone = PitchClass.ofTone other.tone)) := by
  simp only [sameTone, ofText_of_isWrittenAs written, ofText_of_isWrittenAs otherWritten,
    pitchClass_note]

/-! ### Acceptance -/

theorem exists_ofText_iff {text : Text} :
    (∃ note, ofText text = .ok note) ↔ ∃ spelling : Spelling, spelling.IsWrittenAs text := by
  simp only [ofText_eq_ok_iff]
  constructor
  · rintro ⟨_, spelling, written, rfl⟩
    exact ⟨spelling, written⟩
  · rintro ⟨spelling, written⟩
    exact ⟨spelling.note, spelling, written, rfl⟩

/-- A text is read as a note exactly when, apart from blanks around it, it falls apart into a
letter, the marks of an accidental and at most two digits, and every other text is refused as no
note. The note has a value from 0 to 127 of the pitch class of the tone, which is the height that
the name spells whenever this lies in the range, and it is named by the capital of the letter and
the marks as they are written. Two such texts are compared by their tones: octaves, case and the
blanks around them do not matter. -/
theorem ofText_accepts_names (text : Text) :
    ((∃ note, ofText text = .ok note)
        ↔ ∃ (spelling : Spelling) (letter : CodePoint) (marks digits : Text),
          strip text = letter :: (marks ++ digits) ∧ spelling.HasParts letter marks digits)
      ∧ ((¬ ∃ note, ofText text = .ok note) → ofText text = .error (.notANote text))
      ∧ ∀ (spelling : Spelling) (letter : CodePoint) (marks digits : Text),
          strip text = letter :: (marks ++ digits) → spelling.HasParts letter marks digits →
          (∃ note, ofText text = .ok note
            ∧ (0 ≤ note.value ∧ note.value ≤ 127)
            ∧ note.value % 12
                = (spelling.tone.step.halfsteps + spelling.tone.accidental.alteration) % 12
            ∧ (∀ height : Int, height = 12 * spelling.octave.getD 5
                  + spelling.tone.step.halfsteps + spelling.tone.accidental.alteration →
                0 ≤ height → height ≤ 127 → note.value = height)
            ∧ note.name = some (upper [letter] ++ marks))
          ∧ ∀ (second : Text) (other : Spelling), other.IsWrittenAs second →
              sameTone text second
                = .ok (decide (PitchClass.ofTone spelling.tone = PitchClass.ofTone other.tone)) := by
  refine ⟨?accepted, ?refused, ?read⟩
  case accepted =>
    rw [exists_ofText_iff]
    exact exists_congr fun spelling => Spelling.isWrittenAs_iff
  case refused =>
    rw [exists_ofText_iff]
    exact ofText_of_unwritten
  case read =>
    intro spelling letter marks digits divided parts
    have written : spelling.IsWrittenAs text :=
      Spelling.isWrittenAs_iff.2 ⟨letter, marks, digits, divided, parts⟩
    constructor
    · refine ⟨spelling.note, ofText_of_isWrittenAs written, spelling.value_note_mem,
        spelling.value_note_emod, ?_, congrArg some parts.name_eq⟩
      intro height spelled lower upper
      obtain rfl : height = spelling.height := by rw [spelled, Int.add_assoc]; rfl
      exact Spelling.value_note_of_mem lower upper
    · intro second other otherWritten
      exact sameTone_of_isWrittenAs written otherWritten

theorem ofText_accepts_names_sample :
    let spelling : Spelling := ⟨⟨.b, .flat⟩, some 3⟩
    let other : Spelling := ⟨⟨.a, .sharp⟩, none⟩
    strip " bb3 ".toText = .scalar 'b' :: ("b".toText ++ "3".toText)
      ∧ spelling.HasParts 'b' "b".toText "3".toText
      ∧ (∃ note, ofText " bb3 ".toText = .ok note ∧ note.value = 46
        ∧ note.name = some "Bb".toText)
      ∧ other.IsWrittenAs "A#".toText ∧ sameTone " bb3 ".toText "A#".toText = .ok true
      ∧ ofText "C#b".toText = .error (.notANote "C#b".toText) := by
  intro spelling other
  have divided : strip " bb3 ".toText = .scalar 'b' :: ("b".toText ++ "3".toText) := by rfl
  have parts : spelling.HasParts 'b' "b".toText "3".toText :=
    ⟨Or.inr rfl, rfl, .given (by decide) (by decide) (by decide)⟩
  have otherWritten : other.IsWrittenAs "A#".toText := isWrittenAs_name other.tone
  obtain ⟨-, -, reads⟩ := ofText_accepts_names " bb3 ".toText
  obtain ⟨⟨note, accepted, -, -, value, name⟩, same⟩ := reads spelling _ _ _ divided parts
  obtain ⟨-, refused, -⟩ := ofText_accepts_names "C#b".toText
  have unread : ofText "C#b".toText = .error (.notANote "C#b".toText) := by rfl
  refine ⟨divided, parts, ⟨note, accepted, value 46 rfl (by decide) (by decide), name⟩, otherWritten,
    same _ other otherWritten, refused ?_⟩
  rintro ⟨wrong, read⟩
  cases unread.symm.trans read

end MusicText.Note
