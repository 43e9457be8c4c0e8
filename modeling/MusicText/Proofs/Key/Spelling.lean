import MusicText.Key
import MusicText.Proofs.Note.Notation

/-!
Contract: notes that a tone spells.

Owns: the notes and the keys that can be provided, and the tone that spells each of them: the
note shows the name of this tone, and lies on its pitch class.

Does not own: how many accidentals such a key has; see `MusicText.Proofs.Key.Fifths`.

A note may be read from a text, and then an octave is folded away; or it may be given by its
value alone, and then it is spelled the common way. What a name says of an octave is lost, what it
says of a pitch class is kept.
-/

namespace MusicText

open MusicText.Text

namespace Note

/-- Notes that are read from a text, and notes without a name. -/
inductive Provided : Note → Prop
  | read {text : Text} {note : Note} (accepted : ofText text = .ok note) : Provided note
  | nameless (value : Int) : Provided ⟨value, none⟩

/-- Whether a note shows the name of a tone and lies on the pitch class of this tone. -/
structure Spells (note : Note) (tone : Tone) : Prop where
  toneName_eq : note.toneName = tone.name
  pitchClass_eq : note.pitchClass = PitchClass.ofTone tone

theorem spells_note (spelling : Spelling) : spelling.note.Spells spelling.tone :=
  ⟨rfl, pitchClass_note spelling⟩

theorem Provided.exists_spells {note : Note} (provided : note.Provided) :
    ∃ tone, note.Spells tone := by
  cases provided with
  | read accepted =>
      obtain ⟨spelling, -, rfl⟩ := ofText_eq_ok_iff.1 accepted
      exact ⟨spelling.tone, spells_note spelling⟩
  | nameless value =>
      refine ⟨(PitchClass.ofInt value).commonTone, rfl, ?_⟩
      rw [PitchClass.ofTone_commonTone]
      rfl

end Note

namespace Key

/-- Keys that are read from a name, and keys of a provided root in either mode. -/
inductive Provided : Key → Prop
  | named {name : Text} {key : Key} (accepted : ofName name = .ok key) : Provided key
  | built {root : Note} (mode : Mode) (provided : root.Provided) : Provided ⟨root, mode⟩

/-- The root of a chord name is itself the name of a note. -/
theorem provided_root_of_ofName {name : Text} {key : Key} (accepted : ofName name = .ok key) :
    key.root.Provided := by
  cases chorded : Chord.ofName name with
  | error fault => simp [ofName, chorded, Except.map] at accepted
  | ok chord =>
      obtain rfl : ofChord chord = key := by
        simpa [ofName, chorded, Except.map] using accepted
      unfold Chord.ofName at chorded
      split at chorded
      · simp at chorded
      · simp only at chorded
        split at chorded
        · simp at chorded
        · split at chorded
          · simp at chorded
          · rename_i root read
            obtain rfl := Except.ok.inj chorded
            exact .read read

theorem Provided.root {key : Key} (provided : key.Provided) : key.root.Provided := by
  cases provided with
  | named accepted => exact provided_root_of_ofName accepted
  | built mode provided => exact provided

end Key

end MusicText
