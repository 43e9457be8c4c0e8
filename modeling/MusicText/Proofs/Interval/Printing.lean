import MusicText.Proofs.Interval.Gaps
import MusicText.Proofs.Note.Printing

/-!
Contract: the pattern of printed notes.

Owns: the notes whose text is read as a note again, what printing and reading may change in them,
and the pattern that the printed text of several notes has.

Does not own: the number that a printed note comes back with; see
`MusicText.Proofs.Note.Printing`.

Printing forgets the octave of the letter, and reading folds what lies beyond the numbers. Both
move a note by whole octaves, and a pattern does not see octaves.
-/

namespace MusicText

open MusicText.Text

namespace Note

/-- The notes that are read from a text, and those without a name in an octave that is printed
with two digits at most. -/
inductive IsPrintable : Note → Prop
  | read {text : Text} {note : Note} (accepted : ofText text = .ok note) : IsPrintable note
  | nameless {value : Int} (lower : 0 ≤ value) (upper : value ≤ 1199) : IsPrintable ⟨value, none⟩

namespace IsPrintable

variable {note : Note}

theorem value_mem (printable : note.IsPrintable) : 0 ≤ note.value ∧ note.value ≤ 1199 := by
  cases printable with
  | read accepted =>
      obtain ⟨spelling, -, rfl⟩ := ofText_eq_ok_iff.1 accepted
      have number := spelling.value_note_mem
      omega
  | nameless lower upper => exact ⟨lower, upper⟩

theorem exists_tone (printable : note.IsPrintable) :
    ∃ tone : Tone, note.toneName = tone.name ∧ tone.halfsteps % 12 = note.value % 12 := by
  cases printable with
  | read accepted =>
      obtain ⟨spelling, -, rfl⟩ := ofText_eq_ok_iff.1 accepted
      exact ⟨spelling.tone, rfl, spelling.value_note_emod.symm⟩
  | nameless lower upper =>
      refine ⟨_, rfl, ?_⟩
      rw [PitchClass.halfsteps_commonTone, pitchClass, PitchClass.toInt_ofInt, Int.emod_emod]

/-- A printable note is printed as a tone with an octave below a hundred, and the tone has the
pitch class of the note. -/
theorem exists_name_append (printable : note.IsPrintable) :
    ∃ (tone : Tone) (octave : Nat), note.toText = tone.name ++ Decimal.ofNat octave
      ∧ octave < 100 ∧ tone.halfsteps % 12 = note.value % 12 := by
  obtain ⟨tone, named, sameClass⟩ := printable.exists_tone
  have number := printable.value_mem
  have within : 0 ≤ note.octave ∧ note.octave < 100 := by
    rw [octave]
    omega
  obtain ⟨octave, sameOctave⟩ := Int.eq_ofNat_of_zero_le within.1
  refine ⟨tone, octave, ?_, by omega, sameClass⟩
  rw [toText, named, sameOctave, Decimal.ofInt_natCast]

theorem solid_toText (printable : note.IsPrintable) :
    note.toText ≠ [] ∧ ∀ c ∈ note.toText, isBlank c = false := by
  obtain ⟨tone, octave, printed, -, -⟩ := printable.exists_name_append
  rw [printed]
  exact ⟨List.append_ne_nil_of_right_ne_nil _ (Decimal.ofNat_ne_nil octave),
    isBlank_of_mem_name_append⟩

/-- The text of a printable note is read as a note that lies whole octaves away at most. -/
theorem exists_ofText_toText (printable : note.IsPrintable) :
    ∃ again, ofText note.toText = .ok again
      ∧ ∃ octaves, again.value = note.value + 12 * octaves := by
  obtain ⟨tone, octave, printed, small, sameClass⟩ := printable.exists_name_append
  have read : ofText note.toText
      = .ok ⟨Pitch.fold (12 * octave + tone.halfsteps), some tone.name⟩ := by
    rw [printed, ← Decimal.ofInt_natCast, ofText_name_append (by omega) (by omega)]
  have folded := Pitch.fold_emod (12 * octave + tone.halfsteps)
  refine ⟨_, read, (Pitch.fold (12 * octave + tone.halfsteps) - note.value) / 12, ?_⟩
  show Pitch.fold (12 * octave + tone.halfsteps) = _
  omega

end IsPrintable

/-- All printable notes are read back, each of them whole octaves away at most. -/
theorem exists_forall₂_ofText_toText {notes : List Note}
    (printable : ∀ note ∈ notes, note.IsPrintable) :
    ∃ again, List.Forall₂ (fun note other => ofText note.toText = .ok other
      ∧ ∃ octaves, other.value = note.value + 12 * octaves) notes again := by
  induction notes with
  | nil => exact ⟨[], .nil⟩
  | cons note later inductionHypothesis =>
      obtain ⟨first, others⟩ := List.forall_mem_cons.1 printable
      obtain ⟨own, read⟩ := first.exists_ofText_toText
      obtain ⟨again, reread⟩ := inductionHypothesis others
      exact ⟨own :: again, .cons read reread⟩

end Note

namespace Intervals

/-- Notes give the same pattern by their printed text as by themselves, whenever each of them was
read from a text or has no name and lies in an octave of two digits at most. -/
theorem ofNoteNames_unwords_toText {notes : List Note}
    (printable : ∀ note ∈ notes, note.IsPrintable) :
    ofNoteNames (unwords (notes.map Note.toText)) = .ok (ofNotes notes) := by
  have cut : words (unwords (notes.map Note.toText)) = notes.map Note.toText := by
    refine words_unwords (List.forall_mem_map.2 ?_)
    exact fun note member => (printable note member).solid_toText
  obtain ⟨again, reread⟩ := Note.exists_forall₂_ofText_toText printable
  have read : (notes.map Note.toText).mapM Note.ofText = .ok again := by
    rw [mapM_eq_ok_iff, List.forall₂_map_left_iff]
    exact reread.imp fun _ _ => And.left
  have moves : List.Forall₂ (fun value other => ∃ octaves, other = value + 0 + 12 * octaves)
      (notes.map Note.value) (again.map Note.value) := by
    rw [List.forall₂_map_left_iff, List.forall₂_map_right_iff]
    refine reread.imp fun note other same => ?_
    rw [Int.add_zero]
    exact same.2
  rw [ofNoteNames, cut, read, ofNotes_eq_ofGaps notes, ← gapsAbove_of_shifted moves,
    ← ofNotes_eq_ofGaps again]
  rfl

/-- Two notes across the border of an octave, and two beyond the numbers. -/
theorem ofNoteNames_unwords_toText_sample :
    let notes : List Note :=
      [⟨59, some "Cb".toText⟩, ⟨120, some "B#".toText⟩, ⟨1199, none⟩, ⟨130, none⟩]
    (∀ note ∈ notes, note.IsPrintable)
      ∧ notes.map Note.toText = ["Cb4", "B#10", "B99", "Bb10"].map String.toText
      ∧ ofNoteNames (unwords (notes.map Note.toText)) = .ok (ofNotes notes)
      ∧ (ofNotes notes).tokens = ["1", "b2", "1", "7"].map String.toText := by
  intro notes
  have below : Note.ofText "Cb".toText = .ok ⟨59, some "Cb".toText⟩ := by rfl
  have above : Note.ofText " b#9".toText = .ok ⟨120, some "B#".toText⟩ := by rfl
  have printable : ∀ note ∈ notes, note.IsPrintable := by
    simp only [notes, List.forall_mem_cons]
    exact ⟨.read below, .read above, .nameless (by decide) (by decide),
      .nameless (by decide) (by decide), by simp⟩
  exact ⟨printable, by rfl, ofNoteNames_unwords_toText printable, by rfl⟩

end Intervals

end MusicText
