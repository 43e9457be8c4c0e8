import MusicText.Proofs.Key.Fifths

/-!
Contract: the key that a key event asks a score for.

Owns: this key told from the position and the code of the event, and that there is one such key,
which is the one that a builder makes.

Does not own: the agreement with the other numbers of accidentals of a key; see
`MusicText.Proofs.Key.Fifths`.

Twelve neighbours on the circle of fifths have twelve pitch classes. So a pitch class, a mode and
a stretch of twelve numbers of sharps leave one key.
-/

namespace MusicText

namespace SoundingKey

/-- Whether a key is what an event with this position and code asks for. It is major for code 1 and
else minor, its tonic has the pitch class of the position, and its sharps are the fifths from C
to the tonic, less three in minor. There are at most six flats or five sharps. -/
structure Answers (position code : Int) (key : SoundingKey) : Prop where
  mode_eq : key.mode = if code = 1 then .major else .minor
  tonic_emod : key.tonic.halfsteps % 12 = position % 12
  sharps_eq : key.sharps = key.tonic.fifths - if code = 1 then 0 else 3
  least_le : -6 ≤ key.sharps
  le_greatest : key.sharps ≤ 5

variable {position code : Int} {key other : SoundingKey}

theorem Answers.unique (answers : key.Answers position code)
    (otherAnswers : other.Answers position code) : key = other := by
  have circle := key.tonic.halfsteps_emod
  have otherCircle := other.tonic.halfsteps_emod
  have samePlace : key.tonic.fifths = other.tonic.fifths := by
    obtain ⟨-, tonic, sharps, least, greatest⟩ := answers
    obtain ⟨-, otherTonic, otherSharps, otherLeast, otherGreatest⟩ := otherAnswers
    omega
  have sameMode : key.mode = other.mode := answers.mode_eq.trans otherAnswers.mode_eq.symm
  have sameSharps : key.sharps = other.sharps := by
    rw [answers.sharps_eq, otherAnswers.sharps_eq, samePlace]
  obtain ⟨tonic, mode, sharps⟩ := key
  obtain rfl : tonic = other.tonic := Tone.fifths_injective samePlace
  obtain rfl : mode = other.mode := sameMode
  obtain rfl : sharps = other.sharps := sameSharps
  rfl

/-- A builder makes the key of a signature. -/
theorem exists_keyOf_eq (position code : Int) :
    ∃ signature : KeySignature,
      ScoreBuilder.keyOf position code = ⟨signature.tonic, signature.mode, signature.count⟩
        ∧ signature.mode = Mode.ofCode code
        ∧ PitchClass.ofTone signature.tonic = PitchClass.ofInt position
        ∧ -6 ≤ signature.count ∧ signature.count ≤ 5 :=
  ⟨_, KeySignature.toSounding_eq _, KeySignature.mode_simplest _ _,
    KeySignature.position_simplest _ _, KeySignature.count_simplest_mem _ _⟩

theorem answers_keyOf (position code : Int) :
    (ScoreBuilder.keyOf position code).Answers position code := by
  obtain ⟨signature, made, mode, root, least, greatest⟩ := exists_keyOf_eq position code
  have tonic : signature.tonic.halfsteps % 12 = position % 12 := by
    have same := congrArg PitchClass.toInt root
    rwa [PitchClass.ofTone, PitchClass.toInt_ofInt, PitchClass.toInt_ofInt] at same
  have sharps : signature.count = signature.tonic.fifths - if code = 1 then 0 else 3 := by
    rw [← signature.sharpsOf_tonic, mode, Mode.ofCode]
    split
    · exact (Int.sub_zero _).symm
    · rfl
  rw [made]
  exact ⟨mode, tonic, sharps, least, greatest⟩

/-- A builder makes the one key that answers. -/
theorem keyOf_eq_iff : ScoreBuilder.keyOf position code = key ↔ key.Answers position code := by
  constructor
  · rintro rfl
    exact answers_keyOf position code
  · exact (answers_keyOf position code).unique

end SoundingKey

end MusicText
