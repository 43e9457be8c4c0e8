import MusicText.Pitch.Tone

/-!
Contract: pitch classes and their spellings.

Owns: the twelve pitch classes and their common, sharp and flat spellings.

Does not own: octaves.
-/

namespace MusicText

/-- A pitch class counts half-steps above C within the octave. -/
abbrev PitchClass := Fin 12

namespace PitchClass

/-- The pitch class of a height in half-steps. -/
def ofInt (height : Int) : PitchClass :=
  ⟨(height % 12).toNat, by omega⟩

/-- The pitch class as a number from 0 to 11. -/
def toInt (position : PitchClass) : Int :=
  position.val

/-- The spellings that are used when nothing else is known. -/
def commonTones : List Tone :=
  [⟨.c, .natural⟩, ⟨.c, .sharp⟩, ⟨.d, .natural⟩, ⟨.e, .flat⟩,
   ⟨.e, .natural⟩, ⟨.f, .natural⟩, ⟨.f, .sharp⟩, ⟨.g, .natural⟩,
   ⟨.g, .sharp⟩, ⟨.a, .natural⟩, ⟨.b, .flat⟩, ⟨.b, .natural⟩]

/-- The spellings with sharps. -/
def sharpTones : List Tone :=
  [⟨.c, .natural⟩, ⟨.c, .sharp⟩, ⟨.d, .natural⟩, ⟨.d, .sharp⟩,
   ⟨.e, .natural⟩, ⟨.f, .natural⟩, ⟨.f, .sharp⟩, ⟨.g, .natural⟩,
   ⟨.g, .sharp⟩, ⟨.a, .natural⟩, ⟨.a, .sharp⟩, ⟨.b, .natural⟩]

/-- The spellings with flats. -/
def flatTones : List Tone :=
  [⟨.c, .natural⟩, ⟨.d, .flat⟩, ⟨.d, .natural⟩, ⟨.e, .flat⟩,
   ⟨.e, .natural⟩, ⟨.f, .natural⟩, ⟨.g, .flat⟩, ⟨.g, .natural⟩,
   ⟨.a, .flat⟩, ⟨.a, .natural⟩, ⟨.b, .flat⟩, ⟨.b, .natural⟩]

def commonTone (position : PitchClass) : Tone :=
  commonTones.get position

/-- The tone of a pitch class that leans to flats when `disposition` is -1, and
to sharps for every other value. -/
def leaningTone (disposition : Int) (position : PitchClass) : Tone :=
  if disposition = -1 then flatTones.get position else sharpTones.get position

def ofTone (tone : Tone) : PitchClass :=
  ofInt tone.halfsteps

theorem toInt_ofInt (height : Int) : (ofInt height).toInt = height % 12 := by
  have lower := Int.emod_nonneg height (by decide : (12 : Int) ≠ 0)
  simp [toInt, ofInt]
  omega

theorem ofTone_commonTone (position : PitchClass) : ofTone (commonTone position) = position := by
  revert position
  decide

end PitchClass

end MusicText
