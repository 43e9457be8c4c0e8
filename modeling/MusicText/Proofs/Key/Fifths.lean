import MusicText.Proofs.Key.Name
import MusicText.Proofs.Key.Spelling
import MusicText.Score
import MusicText.Token.Signature

/-!
Contract: keys on the circle of fifths.

Owns: the place of a tone on the circle and the pitch class that it gives, the key signatures as
stretches of the circle, and the agreement of all the numbers of accidentals that a key has.

Does not own: the tones that spell keys; see `MusicText.Proofs.Key.Spelling`.

Twelve fifths are whole octaves, so two tones share a pitch class exactly when their places on the
circle are congruent modulo twelve. Everything else follows from this and from one fact on the
tables: a signature has the number of accidentals that the circle gives its tonic.
-/

namespace MusicText

open MusicText.Text

/-! ### Tones on the circle -/

namespace Tone

/-- Seven half-steps make a fifth, up to octaves. -/
theorem halfsteps_emod (tone : Tone) : tone.halfsteps % 12 = 7 * tone.fifths % 12 := by
  obtain ⟨step, accidental⟩ := tone
  have natural : step.halfsteps % 12 = 7 * step.fifths % 12 := by cases step <;> decide
  simp only [halfsteps, fifths]
  omega

/-- The seven steps fill a stretch of the circle, so the place of a tone tells its step. -/
theorem fifths_injective : Function.Injective fifths := by
  rintro ⟨step, accidental⟩ ⟨other, sign⟩ same
  have stretch : ∀ step : Step, -1 ≤ step.fifths ∧ step.fifths ≤ 5 := by
    intro step
    cases step <;> decide
  have lower := stretch step
  have upper := stretch other
  simp only [fifths] at same
  have sameStep : step.fifths = other.fifths := by omega
  have sameAlteration : accidental.alteration = sign.alteration := by omega
  obtain rfl : step = other := by
    cases step <;> cases other <;> first | rfl | exact absurd sameStep (by decide)
  obtain rfl : accidental = sign := by
    cases accidental <;> cases sign <;> first | rfl | exact absurd sameAlteration (by decide)
  rfl

theorem name_injective : Function.Injective name := by
  rintro ⟨step, accidental⟩ ⟨other, sign⟩ same
  obtain ⟨letters, marks⟩ := List.cons.inj same
  obtain rfl : step = other := by
    have found := Step.ofLetter?_letter step
    rw [letters, Step.ofLetter?_letter] at found
    exact (Option.some.inj found).symm
  obtain rfl : accidental = sign := by
    have unlike : noteFlat ≠ .scalar '#' := by decide
    have found := (Accidental.ofMarks?_eq_some_iff unlike).2 marks
    rw [(Accidental.ofMarks?_eq_some_iff unlike).2 rfl] at found
    exact Option.some.inj found
  rfl

end Tone

/-- Tones of a mode share a pitch class exactly when their keys have congruent numbers of sharps. -/
theorem PitchClass.ofTone_eq_iff {first second : Tone} (mode : Mode) :
    ofTone first = ofTone second
      ↔ SoundingKey.sharpsOf first mode % 12 = SoundingKey.sharpsOf second mode % 12 := by
  have one := first.halfsteps_emod
  have other := second.halfsteps_emod
  simp only [ofTone, ofInt, Fin.mk.injEq]
  cases mode with
  | major | minor =>
      simp only [SoundingKey.sharpsOf]
      omega

/-! ### Signatures on the circle -/

namespace KeySignature

theorem count_mem (signature : KeySignature) : -7 ≤ signature.count ∧ signature.count ≤ 7 := by
  have := signature.place.isLt
  simp only [count, midpoint]
  omega

/-- Every number of at most seven accidentals belongs to a signature. -/
theorem exists_ofCount? (number : Int) (lower : -7 ≤ number) (upper : number ≤ 7) (mode : Mode) :
    ∃ signature, ofCount? number mode = some signature
      ∧ signature.mode = mode ∧ signature.count = number := by
  have small : number.natAbs ≤ midpoint := by
    simp only [midpoint]
    omega
  refine ⟨_, dif_pos small, rfl, ?_⟩
  simp only [count, midpoint]
  omega

/-- A signature is told by its mode and its number of accidentals. -/
theorem ext_count {first second : KeySignature} (sameMode : first.mode = second.mode)
    (sameCount : first.count = second.count) : first = second := by
  obtain ⟨mode, place⟩ := first
  obtain ⟨otherMode, otherPlace⟩ := second
  obtain rfl : mode = otherMode := sameMode
  obtain rfl : place = otherPlace := by
    apply Fin.ext
    simp only [count] at sameCount
    omega
  rfl

theorem rootOfCount_count (signature : KeySignature) :
    rootOfCount signature.count signature.mode = .ok signature.position := by
  obtain ⟨lower, upper⟩ := signature.count_mem
  obtain ⟨other, found, sameMode, sameCount⟩ := exists_ofCount? _ lower upper signature.mode
  rw [rootOfCount, found, ext_count sameMode sameCount]

theorem tonic_eq_iff (signature : KeySignature) {tone : Tone} :
    signature.tonic = tone ↔ signature.count = SoundingKey.sharpsOf tone signature.mode := by
  rw [← sharpsOf_tonic]
  constructor
  · rintro rfl
    rfl
  · intro same
    apply Tone.fifths_injective
    cases mode : signature.mode with
    | major | minor =>
        simp only [mode, SoundingKey.sharpsOf] at same
        omega

/-- A signature has the root of a tone exactly when its number of accidentals is congruent to the
one that the circle gives the tone. -/
theorem position_eq_iff (signature : KeySignature) {tone : Tone} :
    signature.position = PitchClass.ofTone tone
      ↔ signature.count % 12 = SoundingKey.sharpsOf tone signature.mode % 12 := by
  rw [position, PitchClass.ofTone_eq_iff signature.mode, sharpsOf_tonic]

theorem mode_of_mem_ascending {mode : Mode} {signature : KeySignature}
    (member : signature ∈ ascending mode) : signature.mode = mode := by
  obtain ⟨place, -, rfl⟩ := List.mem_map.1 member
  rfl

theorem mem_ascending (signature : KeySignature) : signature ∈ ascending signature.mode :=
  List.mem_map.2 ⟨signature.place, List.mem_finRange _, rfl⟩

/-- What is found from seven flats upward has the fewest sharps of all that could be found. -/
theorem count_le_of_find?_ascending {mode : Mode} {fits : KeySignature → Bool}
    {signature other : KeySignature} (found : (ascending mode).find? fits = some signature)
    (sameMode : other.mode = mode) (otherFits : fits other = true) :
    signature.count ≤ other.count := by
  obtain ⟨-, place, inside, there, before⟩ := List.find?_eq_some_iff_getElem.1 found
  have placed : signature = ⟨mode, ⟨place, by simpa [ascending] using inside⟩⟩ := by
    rw [← there]
    simp [ascending]
  refine Int.not_lt.1 fun fewer => ?_
  -- A signature with fewer sharps stands before the one that was found, and so does not fit.
  have earlier : other.place.val < place := by
    simp only [placed, count] at fewer
    omega
  have unfit := before other.place.val earlier
  have within : other.place.val < (ascending mode).length := Nat.lt_trans earlier inside
  have standing : (ascending mode)[other.place.val] = other := by
    subst sameMode
    simp [ascending]
  rw [standing, otherFits] at unfit
  simp at unfit

/-- The simplest signature of a root has at most six flats and five sharps. -/
theorem count_simplest_mem (mode : Mode) (root : PitchClass) :
    -6 ≤ (simplest mode root).count ∧ (simplest mode root).count ≤ 5 := by
  cases mode <;> revert root <;> decide

/-! ### The number of accidentals of a key -/

section CountOfKey

variable {key : Key} {tone : Tone}

theorem countOfKey_of_tabulated (spelled : key.root.Spells tone)
    (small : (SoundingKey.sharpsOf tone key.mode).natAbs ≤ 7) :
    countOfKey key = .ok (SoundingKey.sharpsOf tone key.mode) := by
  obtain ⟨own, -, sameMode, sameCount⟩ :=
    exists_ofCount? (SoundingKey.sharpsOf tone key.mode) (by omega) (by omega) key.mode
  have ownTonic : own.tonic = tone := own.tonic_eq_iff.2 (by rw [sameCount, sameMode])
  have ownFits : own.tonic.name = key.root.toneName := by rw [ownTonic, spelled.toneName_eq]
  cases found : (ascending key.mode).find? (fun signature =>
      decide (signature.tonic.name = key.root.toneName)) with
  | none =>
      have unfit := List.find?_eq_none.1 found own (sameMode ▸ own.mem_ascending)
      exact absurd ownFits (by simpa using unfit)
  | some signature =>
      have named := List.find?_some found
      have fits : signature.tonic.name = tone.name := by
        rw [← spelled.toneName_eq]
        exact of_decide_eq_true named
      have mode := mode_of_mem_ascending (List.mem_of_find?_eq_some found)
      have count := signature.tonic_eq_iff.1 (Tone.name_injective fits)
      simp only [countOfKey, found]
      rw [count, mode]

/-- A root that is spelled beyond the tables counts as the enharmonic one with the fewest
sharps. -/
theorem countOfKey_of_untabulated (spelled : key.root.Spells tone)
    (large : 7 < (SoundingKey.sharpsOf tone key.mode).natAbs) :
    ∃ signature : KeySignature, countOfKey key = .ok signature.count
      ∧ signature.mode = key.mode ∧ signature.position = PitchClass.ofTone tone
      ∧ ∀ other : KeySignature, other.mode = key.mode →
          other.position = PitchClass.ofTone tone → signature.count ≤ other.count := by
  have unnamed : (ascending key.mode).find? (fun signature =>
      decide (signature.tonic.name = key.root.toneName)) = none := by
    apply List.find?_eq_none.2
    intro signature member named
    rw [decide_eq_true_eq, spelled.toneName_eq] at named
    have count := signature.tonic_eq_iff.1 (Tone.name_injective named)
    rw [mode_of_mem_ascending member] at count
    have bounds := signature.count_mem
    omega
  have read : Note.ofText key.root.toneName = .ok (⟨tone, none⟩ : Note.Spelling).note := by
    rw [spelled.toneName_eq]
    exact Note.ofText_name tone
  have sameClass : (⟨tone, none⟩ : Note.Spelling).note.pitchClass = PitchClass.ofTone tone :=
    Note.pitchClass_note _
  cases found : (ascending key.mode).find? (fun signature =>
      decide (signature.position = PitchClass.ofTone tone)) with
  | none =>
      have unfit := List.find?_eq_none.1 found (simplest key.mode (PitchClass.ofTone tone))
        (by simpa [mode_simplest] using
          (simplest key.mode (PitchClass.ofTone tone)).mem_ascending)
      simp [position_simplest] at unfit
  | some signature =>
      have enharmonic := List.find?_some found
      refine ⟨signature, ?_, mode_of_mem_ascending (List.mem_of_find?_eq_some found),
        of_decide_eq_true enharmonic, ?_⟩
      · simp only [countOfKey, unnamed, read, sameClass, found]
      · intro other sameMode sameRoot
        exact count_le_of_find?_ascending found sameMode (decide_eq_true sameRoot)

/-- The number of accidentals of a key is that of a signature with the key's root: the number that
the circle gives the root if it is at most seven, else the least number that is congruent to it. -/
theorem exists_countOfKey (spelled : key.root.Spells tone) :
    ∃ signature : KeySignature, countOfKey key = .ok signature.count
      ∧ signature.mode = key.mode ∧ signature.position = key.root.pitchClass
      ∧ ((SoundingKey.sharpsOf tone key.mode).natAbs ≤ 7 →
          signature.count = SoundingKey.sharpsOf tone key.mode)
      ∧ (7 < (SoundingKey.sharpsOf tone key.mode).natAbs → ∀ number, -7 ≤ number → number ≤ 7 →
          number % 12 = SoundingKey.sharpsOf tone key.mode % 12 → signature.count ≤ number) := by
  rw [spelled.pitchClass_eq]
  rcases Nat.lt_or_ge 7 (SoundingKey.sharpsOf tone key.mode).natAbs with large | small
  · obtain ⟨signature, counted, mode, root, least⟩ := countOfKey_of_untabulated spelled large
    refine ⟨signature, counted, mode, root, fun small => by omega, ?_⟩
    intro _ number lower upper congruent
    obtain ⟨other, -, sameMode, rfl⟩ := exists_ofCount? number lower upper key.mode
    apply least other sameMode
    rw [position_eq_iff, sameMode]
    exact congruent
  · obtain ⟨signature, -, mode, count⟩ :=
      exists_ofCount? (SoundingKey.sharpsOf tone key.mode) (by omega) (by omega) key.mode
    refine ⟨signature, ?_, mode, ?_, fun _ => count, fun large => by omega⟩
    · rw [countOfKey_of_tabulated spelled small, count]
    · rw [position_eq_iff, count, mode]

end CountOfKey

end KeySignature

/-! ### The agreement -/

namespace Key

theorem toSounding_of_spells {key : Key} {tone : Tone} (spelled : key.root.Spells tone) :
    key.toSounding = .ok (SoundingKey.ofTonic tone key.mode) := by
  simp only [toSounding, spelled.toneName_eq, Intonation.ofNoteName_name,
    Intonation.toTone?_intonation]

/-- For every key that can be provided, three numbers of accidentals are congruent modulo twelve:
that of the sounding key, that of the key's signature, and that of the key which a score
gets for the key's event. The signature's is the sounding key's own as long as this is at most
seven, and else the least congruent number from -7 on; the score's is the one from -6 to 5. Read
back as roots, both give the root of the key, and the score's key has its mode and
a tonic of its pitch class. -/
theorem accidental_counts_agree {key : Key} (provided : key.Provided) :
    ∃ sounding count, key.toSounding = .ok sounding ∧ KeySignature.countOfKey key = .ok count
      ∧ let exported := ScoreBuilder.keyOf key.root.pitchClass.toInt key.mode.code
        (∀ builder : ScoreBuilder, builder.receiveEvent (Token.Signature.keyEvent key)
            = builder.insert (.key exported))
          ∧ count % 12 = sounding.sharps % 12
          ∧ exported.sharps % 12 = sounding.sharps % 12
          ∧ (sounding.sharps.natAbs ≤ 7 → count = sounding.sharps)
          ∧ (-7 ≤ count ∧ count ≤ 7)
          ∧ (7 < sounding.sharps.natAbs → ∀ number, -7 ≤ number → number ≤ 7 →
              number % 12 = sounding.sharps % 12 → count ≤ number)
          ∧ (-6 ≤ exported.sharps ∧ exported.sharps ≤ 5)
          ∧ (∀ number, -6 ≤ number → number ≤ 5 →
              number % 12 = sounding.sharps % 12 → number = exported.sharps)
          ∧ (exported.sharps = count ↔ -6 ≤ count ∧ count ≤ 5)
          ∧ KeySignature.rootOfCount count key.mode = .ok key.root.pitchClass
          ∧ KeySignature.rootOfCount exported.sharps key.mode = .ok key.root.pitchClass
          ∧ exported.mode = key.mode
          ∧ PitchClass.ofTone exported.tonic = key.root.pitchClass
          ∧ exported = SoundingKey.ofTonic exported.tonic key.mode := by
  obtain ⟨tone, spelled⟩ := provided.root.exists_spells
  obtain ⟨signature, counted, mode, root, small, large⟩ := KeySignature.exists_countOfKey spelled
  let simplest := KeySignature.simplest key.mode key.root.pitchClass
  have simplestMode : simplest.mode = key.mode := KeySignature.mode_simplest _ _
  have simplestRoot : simplest.position = key.root.pitchClass := KeySignature.position_simplest _ _
  have exported : ScoreBuilder.keyOf key.root.pitchClass.toInt key.mode.code
      = ⟨simplest.tonic, simplest.mode, simplest.count⟩ := by
    have sameClass : PitchClass.ofInt key.root.pitchClass.toInt = key.root.pitchClass := by
      apply Fin.ext
      have := key.root.pitchClass.isLt
      simp only [PitchClass.ofInt, PitchClass.toInt]
      omega
    rw [ScoreBuilder.keyOf, Mode.ofCode_code, sameClass, KeySignature.toSounding_eq]
  have congruent := signature.position_eq_iff.1 (root.trans spelled.pitchClass_eq)
  have exportedCongruent := simplest.position_eq_iff.1 (simplestRoot.trans spelled.pitchClass_eq)
  have bounds := signature.count_mem
  have exportedBounds : -6 ≤ simplest.count ∧ simplest.count ≤ 5 :=
    KeySignature.count_simplest_mem _ _
  rw [mode] at congruent
  rw [simplestMode] at exportedCongruent
  refine ⟨_, signature.count, toSounding_of_spells spelled, counted, ?_⟩
  simp only [exported]
  refine ⟨?inserts, congruent, exportedCongruent, small, bounds, large, exportedBounds, ?unique,
    ?same, ?root, ?exportedRoot, simplestMode, simplestRoot, ?circle⟩
  case inserts =>
    intro builder
    rw [← exported]
    rfl
  case unique =>
    intro number lower upper sameClass
    have own : number % 12 = SoundingKey.sharpsOf tone key.mode % 12 := sameClass
    show number = simplest.count
    omega
  case same =>
    show simplest.count = signature.count ↔ _
    omega
  case root => rw [← mode, KeySignature.rootOfCount_count, root]
  case exportedRoot =>
    show KeySignature.rootOfCount simplest.count key.mode = _
    rw [← simplestMode, KeySignature.rootOfCount_count, simplestRoot]
  case circle =>
    rw [SoundingKey.ofTonic, ← simplestMode, simplest.sharpsOf_tonic]

theorem accidental_counts_agree_sample :
    let key : Key := ⟨⟨61, some "C#".toText⟩, .major⟩
    key.Provided
      ∧ ∃ sounding count, key.toSounding = .ok sounding ∧ KeySignature.countOfKey key = .ok count
        ∧ sounding.sharps = 7 ∧ count = 7 ∧ (ScoreBuilder.keyOf 1 1).sharps = -5
        ∧ (ScoreBuilder.keyOf 1 1).sharps % 12 = sounding.sharps % 12
        ∧ KeySignature.rootOfCount 7 .major = .ok 1
        ∧ KeySignature.rootOfCount (-5) .major = .ok 1 := by
  intro key
  have accepted : Key.ofName "C#maj".toText = .ok key := by rfl
  have provided : key.Provided := .named accepted
  refine ⟨provided, ?_⟩
  obtain ⟨sounding, count, sounds, counted, -, -, congruent, own, -, -, few, -, -, root,
    exportedRoot, -⟩ := accidental_counts_agree provided
  obtain rfl : SoundingKey.ofTonic ⟨.c, .sharp⟩ .major = sounding :=
    Except.ok.inj ((by rfl : _ = key.toSounding).trans sounds)
  obtain rfl : 7 = count := (own (by decide)).symm
  have flats : (ScoreBuilder.keyOf 1 1).sharps = -5 := by
    have sevenSharps : (ScoreBuilder.keyOf 1 1).sharps % 12 = 7 % 12 := congruent
    have bounds : -6 ≤ (ScoreBuilder.keyOf 1 1).sharps ∧ (ScoreBuilder.keyOf 1 1).sharps ≤ 5 := few
    omega
  refine ⟨_, _, sounds, counted, by rfl, rfl, flats, congruent, root, ?_⟩
  rw [← flats]
  exact exportedRoot

end Key

end MusicText
