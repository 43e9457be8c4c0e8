import Mathlib.Tactic.SplitIfs
import MusicText.Note

/-!
Contract: numbers of pitches, and what folding does to them.

Owns: how far a tone reaches out of its octave, the number of a pitch without quarter tones, and
the corrections of an octave that take a number back to itself.

Does not own: the notes whose pitches these are; see `MusicText.Proofs.Note.Sounding`.

A tone whose marks cross the border of its octave sounds in a neighbouring one, by one octave at
most. Near both ends of the numbers that octave lies beyond them. There folding does what the
correction would have done, and the correction finds nothing to do.
-/

namespace MusicText

namespace Tone

/-- A tone lies less than an octave below the octave of its letter, or above it. -/
theorem halfsteps_mem (tone : Tone) : -4 ≤ tone.halfsteps ∧ tone.halfsteps ≤ 15 := by
  obtain ⟨step, accidental⟩ := tone
  cases step <;> cases accidental <;> decide

end Tone

namespace PitchClass

/-- The common tones lie within their octave. -/
theorem halfsteps_commonTone (position : PitchClass) :
    position.commonTone.halfsteps = position.toInt := by
  revert position
  decide

end PitchClass

namespace Pitch

theorem number_intonation {tone : Tone} {octave : Int} (lower : -100 ≤ octave)
    (upper : octave ≤ 100) :
    (⟨tone.intonation, octave⟩ : Pitch).number
      = .ok (fold (12 * (octave + 1) + tone.halfsteps)) := by
  have limit : 2 * Binary64.leastFull = 9007199254740992 := by decide
  have step : 0 ≤ tone.step.halfsteps ∧ tone.step.halfsteps ≤ 11 := by
    cases tone.step <;> decide
  have reach := tone.halfsteps_mem
  have quarters : (⟨tone.intonation, octave⟩ : Pitch).quarterTones
      = 24 * (octave + 1) + 2 * tone.halfsteps := by
    rw [quarterTones, Intonation.quarterTones_intonation]
  have height : (⟨tone.intonation, octave⟩ : Pitch).height
      = 12 * (octave + 1) + tone.halfsteps := by
    rw [Pitch.height, quarters]
    omega
  have natural : (12 * (octave + 1) + tone.intonation.step.halfsteps).natAbs
      < 2 * Binary64.leastFull := by
    rw [limit, show tone.intonation.step = tone.step from rfl]
    omega
  have inflected : (⟨tone.intonation, octave⟩ : Pitch).quarterTones.natAbs + 1
      < 2 * Binary64.leastFull := by
    rw [limit, quarters]
    omega
  rw [number, computedHeight_of_small natural inflected, height]
  rfl

variable {value tone : Int}

/-- A tone is written in the octave in which a number lies. If it crosses the lower border, it
sounds an octave below the number, and if it crosses the upper border, an octave above; beyond the
ends of the numbers both are folded onto the number. -/
theorem fold_in_octave (lower : 0 ≤ value) (upper : value ≤ 127) (same : value % 12 = tone % 12)
    (low : -4 ≤ tone) (high : tone ≤ 15) :
    fold (12 * (value / 12) + tone)
      = if tone < 0 ∧ 12 ≤ value then value - 12
        else if 11 < tone ∧ value ≤ 115 then value + 12
        else value := by
  unfold fold
  split_ifs <;> omega

/-- A tone in the octave of a number, moved by the whole octaves between the two, has this
number. -/
theorem fold_corrected (lower : 0 ≤ value) (upper : value ≤ 127) (same : value % 12 = tone % 12)
    (low : -4 ≤ tone) (high : tone ≤ 15) :
    fold (12 * (value / 12 - 1 + (value - fold (12 * (value / 12) + tone)) / 12 + 1) + tone)
      = value := by
  -- Only a tone that crosses the border and stays among the numbers is moved. All others have the
  -- number already, or one that is folded onto it.
  have crossing : fold (12 * (value / 12 - 1
      + (value - fold (12 * (value / 12) + tone)) / 12 + 1) + tone)
        = fold (if (tone < 0 ∧ value < 12) ∨ (11 < tone ∧ 115 < value)
            then 12 * (value / 12) + tone else value) := by
    rw [fold_in_octave lower upper same low high]
    congr 1
    split_ifs <;> omega
  rw [crossing]
  split
  · rw [fold_in_octave lower upper same low high]
    split_ifs <;> omega
  · exact fold_of_mem lower upper

end Pitch

end MusicText
