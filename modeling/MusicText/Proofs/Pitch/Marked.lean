import MusicText.Note
import MusicText.Proofs.Text.Cutting

/-!
Contract: tones that are named by a capital letter and marks.

Owns: texts of sharps and flats alone, the inflection that such a text marks, and the reading of
the name of a note without an octave.

Does not own: the words for inflections; see `MusicText.Pitch.Intonation`.

Sharps and flats have no capitals, and no word for an inflection consists of them alone. So what
they mark is an accidental, if it is an inflection at all.
-/

namespace MusicText

open MusicText.Text

/-- Whether a text consists of sharps and of the flats in names of pitches. -/
def Text.Marked (text : Text) : Prop :=
  ∀ c ∈ text, c = '#' ∨ c = Tone.pitchFlat

namespace Text

variable {text : Text}

theorem lowerBehind_of_marked (marked : text.Marked) (before : Text) :
    lowerBehind before text = text := by
  induction text generalizing before with
  | nil => rfl
  | cons c rest inductionHypothesis =>
      have small : lowerBehind before (c :: rest) = [c] ++ lowerBehind (c :: before) rest := by
        rcases marked c (by simp) with rfl | rfl <;> rfl
      rw [small, inductionHypothesis (fun other member => marked other (by simp [member]))]
      rfl

theorem isDigit_of_marked (marked : text.Marked) : ∀ c ∈ text, c.isDigit = false := by
  intro c member
  rcases marked c member with rfl | rfl <;> rfl

theorem isBlank_of_marked (marked : text.Marked) : ∀ c ∈ text, isBlank c = false := by
  intro c member
  rcases marked c member with rfl | rfl <;> rfl

end Text

namespace Inflection

/-- Every word has a letter. -/
theorem exists_letter_of_mem_words (inflection : Inflection) :
    ∀ word ∈ inflection.words, ∃ c ∈ word.toText, c ≠ '#' ∧ c ≠ Tone.pitchFlat := by
  cases inflection with
  | accidental sign => cases sign <;> decide
  | threeQuarterFlat | quarterFlat | quarterSharp | threeQuarterSharp => decide

/-- Sharps and flats alone mark an accidental. -/
theorem eq_accidental_of_marked {text : Text} {inflection : Inflection} (marked : text.Marked)
    (found : ofText? text = some inflection) :
    ∃ sign, inflection = .accidental sign ∧ text = sign.marks Tone.pitchFlat := by
  have fits := List.find?_some found
  rw [Bool.or_eq_true, decide_eq_true_eq, List.contains_iff_mem, List.mem_map] at fits
  rcases fits with rfl | ⟨word, isWord, rfl⟩
  · cases inflection with
    | accidental sign => exact ⟨sign, rfl, rfl⟩
    | threeQuarterFlat | quarterFlat => exact absurd (marked '`' (by decide)) (by decide)
    | quarterSharp | threeQuarterSharp => exact absurd (marked '~' (by decide)) (by decide)
  · obtain ⟨c, member, noSharp, noFlat⟩ := exists_letter_of_mem_words inflection word isWord
    rcases marked c member with rfl | rfl
    · exact absurd rfl noSharp
    · exact absurd rfl noFlat

end Inflection

theorem Note.eq_sharp_or_flat_of_isMark {c : CodePoint} (marked : isMark c) :
    c = '#' ∨ c = Tone.noteFlat := by
  simpa [isMark] using marked

namespace Intonation

theorem ofName_of_marked (step : Step) {text : Text} (marked : text.Marked) :
    ofName (step.letter :: text)
      = match Inflection.ofText? text with
        | none => .error (.unsupportedAccidental text)
        | some inflection => .ok ⟨step, inflection⟩ := by
  have letter : isBlank step.letter = false ∧ step.letter.isDigit = false := by
    cases step <;> decide
  have solid : ∀ c ∈ step.letter :: text, isBlank c = false :=
    List.forall_mem_cons.2 ⟨letter.1, isBlank_of_marked marked⟩
  have noDigit : ∀ c ∈ step.letter :: text, c.isDigit = false :=
    List.forall_mem_cons.2 ⟨letter.2, isDigit_of_marked marked⟩
  have letters : (step.letter :: text).filter (!·.isDigit) = step.letter :: text :=
    List.filter_eq_self.2 fun c member => by simp [noDigit c member]
  have digits : (step.letter :: text).filter (·.isDigit) = [] :=
    List.filter_eq_nil_iff.2 fun c member => by simp [noDigit c member]
  rw [ofName, strip, trim_eq_self solid, letters, digits]
  simp only [Step.ofLetter?_letter, lower, lowerBehind_of_marked marked]
  cases Inflection.ofText? text <;> rfl

/-- The flats of notes are read as those of pitches. -/
def pitchMark (c : CodePoint) : CodePoint :=
  if c = Tone.noteFlat then Tone.pitchFlat else c

/-- The way back, for texts without letters. -/
def noteMark (c : CodePoint) : CodePoint :=
  if c = Tone.pitchFlat then Tone.noteFlat else c

variable {step : Step} {marks : Text}

theorem marked_map_pitchMark (isMarks : ∀ mark ∈ marks, Note.isMark mark) :
    Text.Marked (marks.map pitchMark) := by
  intro c member
  obtain ⟨mark, inMarks, rfl⟩ := List.mem_map.1 member
  rcases Note.eq_sharp_or_flat_of_isMark (isMarks mark inMarks) with rfl | rfl
  · exact Or.inl rfl
  · exact Or.inr rfl

theorem map_noteMark_pitchMark (isMarks : ∀ mark ∈ marks, Note.isMark mark) :
    (marks.map pitchMark).map noteMark = marks := by
  have back : ∀ mark ∈ marks, noteMark (pitchMark mark) = mark := by
    intro mark inMarks
    rcases Note.eq_sharp_or_flat_of_isMark (isMarks mark inMarks) with rfl | rfl <;> rfl
  rw [List.map_map]
  exact (List.map_congr_left back).trans (List.map_id' marks)

/-- A capital with marks is read exactly when the marks are those of an accidental. -/
theorem ofNoteName_eq_ok_iff {tone : Intonation} (isMarks : ∀ mark ∈ marks, Note.isMark mark) :
    ofNoteName (step.letter :: marks) = .ok tone
      ↔ ∃ accidental, marks = accidental.marks Tone.noteFlat
        ∧ tone = (⟨step, accidental⟩ : Tone).intonation := by
  have respelled : ofNoteName (step.letter :: marks) = ofName (step.letter :: marks.map pitchMark) := by
    cases step <;> rfl
  constructor
  · intro accepted
    have marked := marked_map_pitchMark isMarks
    rw [respelled, ofName_of_marked step marked] at accepted
    cases found : Inflection.ofText? (marks.map pitchMark) with
    | none =>
        rw [found] at accepted
        cases accepted
    | some inflection =>
        rw [found] at accepted
        obtain ⟨sign, rfl, same⟩ := Inflection.eq_accidental_of_marked marked found
        refine ⟨sign, ?_, (Except.ok.inj accepted).symm⟩
        rw [← map_noteMark_pitchMark isMarks, same]
        cases sign <;> rfl
  · rintro ⟨accidental, rfl, rfl⟩
    exact ofNoteName_name ⟨step, accidental⟩

end Intonation

end MusicText
