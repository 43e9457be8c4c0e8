import MusicText.Binary64
import MusicText.Pitch.Class
import MusicText.Pitch.Intonation

/-!
Contract: sounding pitches.

Owns: pitches with a written octave, their numbers in the range 0 to 127, and the
spelling of a number.

Does not own: notes, which know a value and perhaps a spelling; see `MusicText.Note`.
-/

namespace MusicText

/-- A pitch: a tone as it sounds in an octave, where octave 4 begins at middle C. -/
structure Pitch where
  tone : Intonation
  octave : Int
  deriving DecidableEq, Repr

namespace Pitch

/-- Folds a height into the range 0 to 127 and keeps its pitch class: a height above
the range goes into 115 to 126, a height below it into 0 to 11. -/
def fold (height : Int) : Int :=
  if 127 < height then
    if 108 + height % 12 < 115 then 120 + height % 12 else 108 + height % 12
  else if height < 0 then height % 12
  else height

/-- The height of a pitch in quarter tones. Middle C has height 120. -/
def quarterTones (pitch : Pitch) : Int :=
  24 * (pitch.octave + 1) + pitch.tone.quarterTones

/-- The height of a pitch in half-steps, before folding. Middle C has height 60. A height
between two half-steps counts as the upper one. -/
def height (pitch : Pitch) : Int :=
  (pitch.quarterTones + 1) / 2

/-- The height of a pitch as it is computed with binary numbers of 64 bits: first that of
the step in its octave, then with the inflection, then half a step higher to be cut off. -/
def computedHeight (pitch : Pitch) : Except Fault Int :=
  match Binary64.nearestInteger? (12 * (pitch.octave + 1) + pitch.tone.step.halfsteps) with
  | none => .error (.arithmetic .integerTooLarge)
  | some natural =>
      match Binary64.nearestHalves? (2 * natural + pitch.tone.inflection.quarterTones) with
      | none => .error (.arithmetic .infiniteInteger)
      | some inflected =>
          match Binary64.nearestHalves? (inflected + 1) with
          | none => .error (.arithmetic .infiniteInteger)
          | some raised => .ok (raised / 2)

/-- The number of a pitch in the range 0 to 127. -/
def number (pitch : Pitch) : Except Fault Int :=
  pitch.computedHeight.map fold

/-- The pitch that a number denotes, spelled the common way. -/
def ofNumber (number : Int) : Pitch :=
  ⟨(PitchClass.ofInt (fold number)).commonTone.intonation, fold number / 12 - 1⟩

/-- The name with octave, such as `E-4`. -/
def nameWithOctave (pitch : Pitch) : Text :=
  pitch.tone.name ++ Decimal.ofInt pitch.octave

/-- Heights that are not beyond all use are computed exactly. -/
theorem computedHeight_of_small {pitch : Pitch}
    (natural : (12 * (pitch.octave + 1) + pitch.tone.step.halfsteps).natAbs
      < 2 * Binary64.leastFull)
    (inflected : pitch.quarterTones.natAbs + 1 < 2 * Binary64.leastFull) :
    pitch.computedHeight = .ok pitch.height := by
  have sum : 2 * (12 * (pitch.octave + 1) + pitch.tone.step.halfsteps)
      + pitch.tone.inflection.quarterTones = pitch.quarterTones := by
    simp only [quarterTones, Intonation.quarterTones]
    omega
  have raised : (pitch.quarterTones + 1).natAbs < 2 * Binary64.leastFull := by omega
  unfold computedHeight
  rw [Binary64.nearestInteger?_of_small natural]
  simp only [sum]
  rw [Binary64.nearestHalves?_of_small (by omega)]
  simp only
  rw [Binary64.nearestHalves?_of_small raised]
  rfl

theorem fold_nonneg (height : Int) : 0 ≤ fold height := by
  unfold fold
  split
  · split <;> omega
  · split <;> omega

theorem fold_le (height : Int) : fold height ≤ 127 := by
  unfold fold
  split
  · split <;> omega
  · split <;> omega

theorem fold_emod (height : Int) : fold height % 12 = height % 12 := by
  unfold fold
  split
  · split <;> omega
  · split <;> omega

theorem fold_of_mem {height : Int} (lower : 0 ≤ height) (upper : height ≤ 127) :
    fold height = height := by
  unfold fold
  split
  · omega
  · split <;> omega

end Pitch

end MusicText
