import MusicText.Proofs.Note.Sounding

/-!
Contract: printed notes.

Owns: the note that the text of a note is read as, and which notes come back unchanged.

Does not own: the notation itself; see `MusicText.Proofs.Note.Notation`.

A text shows the octave of the number, but a name has the octave of its letter. The two are the
same unless the marks cross the border of the octave.
-/

namespace MusicText.Note

open MusicText.Text

theorem ofText_name_append {tone : Tone} {octave : Int} (lower : 0 ≤ octave)
    (upper : octave < 100) :
    ofText (tone.name ++ Decimal.ofInt octave)
      = .ok ⟨Pitch.fold (12 * octave + tone.halfsteps), some tone.name⟩ := by
  obtain ⟨number, rfl⟩ := Int.eq_ofNat_of_zero_le lower
  have small : number < 100 := by omega
  rw [Decimal.ofInt_natCast, ofText_of_isWrittenAs (isWrittenAs_name_append small)]
  rfl

theorem ofText_toText_note (spelling : Spelling) :
    ofText spelling.note.toText
      = .ok ⟨Pitch.fold (12 * spelling.note.octave + spelling.tone.halfsteps),
          some spelling.tone.name⟩ := by
  obtain ⟨lower, upper⟩ := spelling.value_note_mem
  have within : 0 ≤ spelling.note.octave ∧ spelling.note.octave < 100 := by
    rw [octave]
    omega
  exact ofText_name_append within.1 within.2

/-- A note without a name is printed with a tone that lies within its octave. -/
theorem ofText_toText_nameless {value : Int} (lower : 0 ≤ value) (upper : value ≤ 127) :
    ofText (toText ⟨value, none⟩)
      = .ok ⟨value, some (PitchClass.ofInt value).commonTone.name⟩ := by
  have within : 0 ≤ value / 12 ∧ value / 12 < 100 := by omega
  have height : 12 * (value / 12) + value % 12 = value := by omega
  show ofText ((PitchClass.ofInt value).commonTone.name ++ Decimal.ofInt (value / 12)) = _
  rw [ofText_name_append within.1 within.2, PitchClass.halfsteps_commonTone,
    PitchClass.toInt_ofInt, height, Pitch.fold_of_mem lower upper]

/-- The text of a note that was read from a text, or has a number and no name, is always read, and
as a note of the same tone. A note without a name keeps its number. So does a named note, if its
height lies among the numbers, exactly when its tone lies within the octave of its letter or its
spelling has a double; otherwise it comes back one octave too low or too high, as the tone lies
below its octave or above. -/
theorem ofText_toText_returns (text : Text) (value : Int) :
    (∀ note, ofText text = .ok note →
      (∃ spelling : Spelling, spelling.IsWrittenAs text)
        ∧ ∀ spelling : Spelling, spelling.IsWrittenAs text →
          ∃ again, ofText note.toText = .ok again ∧ again.toneName = note.toneName
            ∧ (0 ≤ spelling.height → spelling.height ≤ 127 →
              again.value = note.value
                  + (if spelling.HasDouble then 0 else 12 * (spelling.tone.halfsteps / 12))
                ∧ (again.value = note.value
                  ↔ (0 ≤ spelling.tone.halfsteps ∧ spelling.tone.halfsteps ≤ 11)
                    ∨ spelling.HasDouble)))
      ∧ (0 ≤ value → value ≤ 127 →
          ∃ again, ofText (toText ⟨value, none⟩) = .ok again ∧ again.value = value
            ∧ again.toneName = toneName ⟨value, none⟩) := by
  constructor
  · intro note accepted
    obtain ⟨own, ownWritten, -⟩ := ofText_eq_ok_iff.1 accepted
    refine ⟨⟨own, ownWritten⟩, ?_⟩
    intro spelling written
    obtain rfl := Except.ok.inj ((ofText_of_isWrittenAs written).symm.trans accepted)
    refine ⟨_, ofText_toText_note spelling, rfl, ?_⟩
    intro lower upper
    rw [spelling.fold_octave_note lower upper, Spelling.value_note_of_mem lower upper]
    refine ⟨rfl, ?_⟩
    by_cases double : spelling.HasDouble
    · rw [if_pos double, Int.add_zero]
      exact iff_of_true rfl (Or.inr double)
    · rw [if_neg double, or_iff_left double]
      show spelling.height + 12 * (spelling.tone.halfsteps / 12) = spelling.height ↔ _
      omega
  · intro lower upper
    exact ⟨_, ofText_toText_nameless lower upper, rfl, rfl⟩

theorem ofText_toText_returns_sample :
    let flat : Spelling := ⟨⟨.c, .flat⟩, some 1⟩
    let sharp : Spelling := ⟨⟨.b, .sharp⟩, some 4⟩
    ofText "Cb1".toText = .ok flat.note ∧ flat.IsWrittenAs "Cb1".toText
      ∧ (∃ again, ofText flat.note.toText = .ok again ∧ again.value = 11)
      ∧ ofText "b#4 ".toText = .ok sharp.note ∧ sharp.IsWrittenAs "b#4 ".toText
      ∧ sharp.note.value = 60
      ∧ (∃ again, ofText sharp.note.toText = .ok again ∧ again.toneName = "B#".toText
        ∧ again.value = 72)
      ∧ ∃ again, ofText (toText ⟨127, none⟩) = .ok again ∧ again.value = 127 := by
  intro flat sharp
  have flatWritten : flat.IsWrittenAs "Cb1".toText := isWrittenAs_name_append (by decide)
  have flatAccepted := ofText_of_isWrittenAs flatWritten
  have sharpWritten : sharp.IsWrittenAs "b#4 ".toText :=
    ⟨'b', "4".toText, by rfl, Or.inr rfl, .given (by decide) (by decide) (by decide)⟩
  have sharpAccepted := ofText_of_isWrittenAs sharpWritten
  obtain ⟨flatReturns, nameless⟩ := ofText_toText_returns "Cb1".toText 127
  obtain ⟨sharpReturns, -⟩ := ofText_toText_returns "b#4 ".toText 0
  obtain ⟨flatAgain, flatRead, -, flatValue⟩ := (flatReturns _ flatAccepted).2 flat flatWritten
  obtain ⟨sharpAgain, sharpRead, sharpTone, sharpValue⟩ :=
    (sharpReturns _ sharpAccepted).2 sharp sharpWritten
  obtain ⟨top, topRead, topValue, -⟩ := nameless (by decide) (by decide)
  exact ⟨flatAccepted, flatWritten,
    ⟨flatAgain, flatRead, (flatValue (by decide) (by decide)).1⟩,
    sharpAccepted, sharpWritten, rfl,
    ⟨sharpAgain, sharpRead, sharpTone, (sharpValue (by decide) (by decide)).1⟩,
    top, topRead, topValue⟩

/-- `Cb` is printed as `Cb4`, which is read an octave lower. -/
theorem not_forall_ofText_toText_returns :
    ¬ ∀ (text : Text) (spelling : Spelling), spelling.IsWrittenAs text →
      0 ≤ spelling.height → spelling.height ≤ 127 →
        ∃ again, ofText spelling.note.toText = .ok again ∧ again.value = spelling.note.value
          ∧ again.toneName = spelling.note.toneName := by
  intro claim
  let spelling : Spelling := ⟨⟨.c, .flat⟩, none⟩
  obtain ⟨again, read, sameValue, -⟩ :=
    claim "Cb".toText spelling (isWrittenAs_name spelling.tone) (by decide) (by decide)
  have lower : ofText spelling.note.toText
      = .ok ⟨Pitch.fold (12 * spelling.note.octave + spelling.tone.halfsteps),
          some spelling.tone.name⟩ := ofText_toText_note spelling
  rw [spelling.fold_octave_note (by decide) (by decide), read] at lower
  rw [Except.ok.inj lower] at sameValue
  exact absurd sameValue (by decide)

end MusicText.Note
