import MusicText.Proofs.Note.Notation
import MusicText.Proofs.Pitch.Folding

/-!
Contract: the pitches that notes sound.

Owns: the pitch of every note that is read from a text or has a number for its value: that there
is one, its tone and its number, and in which octave it is spelled.

Does not own: the text of a note; see `MusicText.Proofs.Note.Printing`.

A note forgets the octave of its letter and keeps the number. The number tells the octave again,
except where the tone an octave further out is folded onto the same number.
-/

namespace MusicText.Note

/-! ### Notes of a spelling -/

namespace Spelling

/-- Whether the same tone an octave further out, which lies beyond the numbers, has the same
number. `Cb1` sounds like `Cb0`, and `B#9` sounds like `B#10`. -/
def HasDouble (spelling : Spelling) : Prop :=
  (spelling.octaveOrDefault = 1 ∧ spelling.tone.halfsteps < 0)
    ∨ (spelling.octaveOrDefault = 9 ∧ 11 < spelling.tone.halfsteps)

instance (spelling : Spelling) : Decidable spelling.HasDouble :=
  inferInstanceAs (Decidable (_ ∨ _))

/-- The tone of a name in the octave of its number is folded onto the number itself only if it
does not cross the border of its octave or has a double. -/
theorem fold_octave_note {spelling : Spelling} (lower : 0 ≤ spelling.height)
    (upper : spelling.height ≤ 127) :
    Pitch.fold (12 * spelling.note.octave + spelling.tone.halfsteps)
      = spelling.height + if spelling.HasDouble then 0 else 12 * (spelling.tone.halfsteps / 12) := by
  have reach := spelling.tone.halfsteps_mem
  rw [Note.octave, Pitch.fold_in_octave spelling.value_note_mem.1 spelling.value_note_mem.2
    spelling.value_note_emod reach.1 reach.2, value_note_of_mem lower upper]
  simp only [HasDouble, height] at lower upper ⊢
  split_ifs <;> omega

end Spelling

/-! ### Pitches -/

theorem toPitch_note (spelling : Spelling) :
    spelling.note.toPitch
      = .ok ⟨spelling.tone.intonation, spelling.note.octave - 1
          + (spelling.note.value
            - Pitch.fold (12 * spelling.note.octave + spelling.tone.halfsteps)) / 12⟩ := by
  obtain ⟨lower, upper⟩ := spelling.value_note_mem
  have within : -100 ≤ spelling.note.octave - 1 ∧ spelling.note.octave - 1 ≤ 100 := by
    rw [octave]
    omega
  have number : (⟨spelling.tone.intonation, spelling.note.octave - 1⟩ : Pitch).number
      = .ok (Pitch.fold (12 * spelling.note.octave + spelling.tone.halfsteps)) := by
    rw [Pitch.number_intonation within.1 within.2, Int.sub_add_cancel]
  simp only [toPitch, show spelling.note.name = some spelling.tone.name from rfl,
    Intonation.ofNoteName_name, number]

/-- Every note of a spelling sounds the tone of the spelling, with the number that is its value. -/
theorem exists_toPitch_note (spelling : Spelling) :
    ∃ pitch, spelling.note.toPitch = .ok pitch ∧ pitch.number = .ok spelling.note.value
      ∧ pitch.tone = spelling.tone.intonation := by
  obtain ⟨lower, upper⟩ := spelling.value_note_mem
  have reach := spelling.tone.halfsteps_mem
  have corrected := Pitch.fold_corrected lower upper spelling.value_note_emod reach.1 reach.2
  have notNegative := Pitch.fold_nonneg (12 * spelling.note.octave + spelling.tone.halfsteps)
  have notAbove := Pitch.fold_le (12 * spelling.note.octave + spelling.tone.halfsteps)
  refine ⟨_, toPitch_note spelling, ?_, rfl⟩
  rw [octave] at notNegative notAbove ⊢
  rw [Pitch.number_intonation (by omega) (by omega), corrected]

theorem number_ofNumber {value : Int} (lower : 0 ≤ value) (upper : value ≤ 127) :
    (Pitch.ofNumber value).number = .ok value := by
  have height : 12 * (value / 12 - 1 + 1) + value % 12 = value := by omega
  rw [Pitch.ofNumber, Pitch.fold_of_mem lower upper, Pitch.number_intonation (by omega) (by omega),
    PitchClass.halfsteps_commonTone, PitchClass.toInt_ofInt, height,
    Pitch.fold_of_mem lower upper]

/-- Every text that is read as a note, in whatever octave, gives a note that sounds a pitch: it has
the number that is the value of the note, and the step and the accidental that are written. A
note without a name sounds the pitch of its number. -/
theorem toPitch_sounds_value :
    (∀ text note, ofText text = .ok note →
      (∃ spelling : Spelling, spelling.IsWrittenAs text)
        ∧ ∀ spelling : Spelling, spelling.IsWrittenAs text →
          ∃ pitch, note.toPitch = .ok pitch ∧ pitch.number = .ok note.value
            ∧ pitch.tone = spelling.tone.intonation)
      ∧ ∀ value : Int, 0 ≤ value → value ≤ 127 →
          ∃ pitch, toPitch ⟨value, none⟩ = .ok pitch ∧ pitch.number = .ok value := by
  constructor
  · intro text note accepted
    obtain ⟨spelling, written, rfl⟩ := ofText_eq_ok_iff.1 accepted
    refine ⟨⟨spelling, written⟩, ?_⟩
    intro other otherWritten
    obtain same := Except.ok.inj (accepted.symm.trans (ofText_of_isWrittenAs otherWritten))
    rw [same]
    exact exists_toPitch_note other
  · intro value lower upper
    exact ⟨Pitch.ofNumber value, rfl, number_ofNumber lower upper⟩

theorem toPitch_sounds_value_sample :
    let spelling : Spelling := ⟨⟨.b, .quadrupleSharp⟩, some 99⟩
    let note : Note := ⟨123, some "B####".toText⟩
    ofText "b####99".toText = .ok note
      ∧ spelling.IsWrittenAs "b####99".toText
      ∧ (∃ pitch, note.toPitch = .ok pitch ∧ pitch.number = .ok 123
          ∧ pitch.tone = spelling.tone.intonation)
      ∧ ∃ pitch, toPitch ⟨127, none⟩ = .ok pitch ∧ pitch.number = .ok 127 := by
  intro spelling note
  have accepted : ofText "b####99".toText = .ok note := by rfl
  have written : spelling.IsWrittenAs "b####99".toText :=
    ⟨'b', "99".toText, by rfl, Or.inr rfl, .given (by decide) (by decide) (by decide)⟩
  obtain ⟨named, nameless⟩ := toPitch_sounds_value
  exact ⟨accepted, written, (named _ _ accepted).2 spelling written,
    nameless 127 (by decide) (by decide)⟩

/-! ### Octaves -/

theorem toPitch_note_of_mem {spelling : Spelling} (lower : 0 ≤ spelling.height)
    (upper : spelling.height ≤ 127) :
    spelling.note.toPitch
      = .ok ⟨spelling.tone.intonation, spelling.octaveOrDefault - 1
          + if spelling.HasDouble then spelling.tone.halfsteps / 12 else 0⟩ := by
  rw [toPitch_note, spelling.fold_octave_note lower upper, octave,
    Spelling.value_note_of_mem lower upper]
  congr 2
  rw [Spelling.height]
  split_ifs <;> omega

/-- A text that is read as a note whose height lies among the numbers gives a note that sounds the
written tone. It sounds in the written octave, and so the very pitch that the text spells, exactly
when the spelling has no double; if it has one, this is what the note sounds. -/
theorem toPitch_recovers_spelling {text : Text} {note : Note} (accepted : ofText text = .ok note) :
    (∃ spelling : Spelling, spelling.IsWrittenAs text)
      ∧ ∀ spelling : Spelling, spelling.IsWrittenAs text →
        0 ≤ spelling.height → spelling.height ≤ 127 →
          note.toPitch = .ok ⟨spelling.tone.intonation, spelling.octaveOrDefault - 1
              + if spelling.HasDouble then spelling.tone.halfsteps / 12 else 0⟩
            ∧ (note.toPitch = .ok spelling.pitch ↔ ¬ spelling.HasDouble) := by
  obtain ⟨own, ownWritten, -⟩ := ofText_eq_ok_iff.1 accepted
  refine ⟨⟨own, ownWritten⟩, ?_⟩
  intro spelling written lower upper
  obtain rfl := Except.ok.inj ((ofText_of_isWrittenAs written).symm.trans accepted)
  have sounded := toPitch_note_of_mem lower upper
  refine ⟨sounded, ?_⟩
  rw [sounded, Spelling.pitch, Except.ok.injEq, Pitch.mk.injEq, and_iff_right rfl]
  simp only [Spelling.HasDouble]
  split_ifs <;> omega

theorem toPitch_recovers_spelling_sample :
    let kept : Spelling := ⟨⟨.c, .flat⟩, none⟩
    let lost : Spelling := ⟨⟨.b, .sharp⟩, some 9⟩
    ofText " cb".toText = .ok kept.note ∧ kept.IsWrittenAs " cb".toText
      ∧ kept.note.toPitch = .ok ⟨kept.tone.intonation, 4⟩
      ∧ ofText "B#9".toText = .ok lost.note ∧ lost.IsWrittenAs "B#9".toText
      ∧ lost.note.toPitch = .ok ⟨lost.tone.intonation, 9⟩
      ∧ lost.pitch = ⟨lost.tone.intonation, 8⟩ := by
  intro kept lost
  have keptWritten : kept.IsWrittenAs " cb".toText :=
    ⟨'c', [], by rfl, Or.inr rfl, .omitted⟩
  have lostWritten : lost.IsWrittenAs "B#9".toText := isWrittenAs_name_append (by decide)
  have keptAccepted := ofText_of_isWrittenAs keptWritten
  have lostAccepted := ofText_of_isWrittenAs lostWritten
  exact ⟨keptAccepted, keptWritten,
    ((toPitch_recovers_spelling keptAccepted).2 kept keptWritten (by decide) (by decide)).1,
    lostAccepted, lostWritten,
    ((toPitch_recovers_spelling lostAccepted).2 lost lostWritten (by decide) (by decide)).1, rfl⟩

/-- `Cb1` sounds in the octave below the one that is written. -/
theorem not_forall_toPitch_eq_pitch :
    ¬ ∀ (text : Text) (spelling : Spelling), spelling.IsWrittenAs text →
      0 ≤ spelling.height → spelling.height ≤ 127 →
        ∃ note, ofText text = .ok note ∧ note.toPitch = .ok spelling.pitch := by
  intro claim
  let spelling : Spelling := ⟨⟨.c, .flat⟩, some 1⟩
  have written : spelling.IsWrittenAs "Cb1".toText := isWrittenAs_name_append (by decide)
  obtain ⟨note, accepted, sounded⟩ := claim _ spelling written (by decide) (by decide)
  obtain rfl := Except.ok.inj ((ofText_of_isWrittenAs written).symm.trans accepted)
  have below : spelling.note.toPitch = .ok ⟨spelling.tone.intonation, -1⟩ :=
    toPitch_note_of_mem (by decide) (by decide)
  rw [sounded] at below
  exact absurd (congrArg Pitch.octave (Except.ok.inj below)) (by decide)

end MusicText.Note
