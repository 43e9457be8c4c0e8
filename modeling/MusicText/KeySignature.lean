import MusicText.Key
import MusicText.Ranked

/-!
Contract: key signatures and their accidental counts.

Owns: the two tables of tonics from seven flats to seven sharps, and the
conversions between counts, roots and keys.

Does not own: the tokens that set a key; see `MusicText.Token.Signature`.

A positive count means sharps, a negative one flats. C major and A minor, without
accidentals, stand in the middle of the tables.
-/

namespace MusicText

open MusicText.Text

/-- A key signature: a mode, and a place in the table of its tonics. -/
structure KeySignature where
  mode : Mode
  place : Fin 15
  deriving DecidableEq, Repr

namespace KeySignature

/-- The most accidentals of a key signature, and the place of the key without any. -/
def midpoint : Nat := 7

/-- The tonics of the major keys from seven flats to seven sharps. -/
def majorTonics : List Tone :=
  [⟨.c, .flat⟩, ⟨.g, .flat⟩, ⟨.d, .flat⟩, ⟨.a, .flat⟩, ⟨.e, .flat⟩,
   ⟨.b, .flat⟩, ⟨.f, .natural⟩, ⟨.c, .natural⟩, ⟨.g, .natural⟩, ⟨.d, .natural⟩,
   ⟨.a, .natural⟩, ⟨.e, .natural⟩, ⟨.b, .natural⟩, ⟨.f, .sharp⟩, ⟨.c, .sharp⟩]

/-- The tonics of the minor keys from seven flats to seven sharps. -/
def minorTonics : List Tone :=
  [⟨.a, .flat⟩, ⟨.e, .flat⟩, ⟨.b, .flat⟩, ⟨.f, .natural⟩, ⟨.c, .natural⟩,
   ⟨.g, .natural⟩, ⟨.d, .natural⟩, ⟨.a, .natural⟩, ⟨.e, .natural⟩, ⟨.b, .natural⟩,
   ⟨.f, .sharp⟩, ⟨.c, .sharp⟩, ⟨.g, .sharp⟩, ⟨.d, .sharp⟩, ⟨.a, .sharp⟩]

def tonic (signature : KeySignature) : Tone :=
  match signature.mode with
  | .major => majorTonics.get signature.place
  | .minor => minorTonics.get signature.place

/-- The number of accidentals. -/
def count (signature : KeySignature) : Int :=
  signature.place.val - midpoint

def position (signature : KeySignature) : PitchClass :=
  PitchClass.ofTone signature.tonic

/-- The key signature with a given number of accidentals, at most seven. -/
def ofCount? (count : Int) (mode : Mode) : Option KeySignature :=
  if small : count.natAbs ≤ midpoint then
    some ⟨mode, ⟨(count + midpoint).toNat, by simp only [midpoint] at *; omega⟩⟩
  else none

/-- The root pitch class of the key with a given number of accidentals. -/
def rootOfCount (count : Int) (mode : Mode) : Except Fault PitchClass :=
  match ofCount? count mode with
  | some signature => .ok signature.position
  | none => .error (.accidentalCountOutOfRange count)

/-- The signatures of a mode from seven flats to seven sharps. -/
def ascending (mode : Mode) : List KeySignature :=
  (List.finRange 15).map (⟨mode, ·⟩)

/-- The signatures of a mode from few accidentals to many, flats before sharps. -/
def simplestFirst (mode : Mode) : List KeySignature :=
  Ranked.sort (·.count.natAbs) (ascending mode)

/-- The simplest signature whose key has a given root. Twelve neighbours on the
circle of fifths meet every pitch class, so there always is one. -/
def simplest (mode : Mode) (root : PitchClass) : KeySignature :=
  ((simplestFirst mode).find? fun signature => signature.position = root).get
    (by cases mode <;> revert root <;> decide)

/-- The number of accidentals of the simplest signature with a given root. -/
def countOfRoot (position : Int) (mode : Mode) : Int :=
  (simplest mode (PitchClass.ofInt position)).count

/-- A signature's count is what the circle of fifths gives its tonic. -/
theorem sharpsOf_tonic (signature : KeySignature) :
    SoundingKey.sharpsOf signature.tonic signature.mode = signature.count := by
  obtain ⟨mode, place⟩ := signature
  cases mode <;> revert place <;> decide

theorem ofSharps?_count (signature : KeySignature) :
    SoundingKey.ofSharps? signature.count signature.mode
      = some (.ofTonic signature.tonic signature.mode) := by
  rw [← sharpsOf_tonic, SoundingKey.ofSharps?_sharpsOf]

/-- The key that sounds under a signature. It follows from the mode and the count alone. -/
def toSounding (signature : KeySignature) : SoundingKey :=
  (SoundingKey.ofSharps? signature.count signature.mode).get
    (by rw [ofSharps?_count, Option.isSome_some])

/-- The number of accidentals of a key. The spelled root is looked up first, else
the lowest signature with an enharmonic root is taken. A root that is not spelled
as a note is refused. -/
def countOfKey (key : Key) : Except Fault Int :=
  let tone := key.root.toneName
  match (ascending key.mode).find? fun signature => signature.tonic.name = tone with
  | some signature => .ok signature.count
  | none =>
      match Note.ofText tone with
      | .error fault => .error fault
      | .ok note =>
          match (ascending key.mode).find? fun signature =>
              signature.position = note.pitchClass with
          | some signature => .ok signature.count
          | none => .ok 0

/-- The name of the key with a given root, spelled the common way. -/
def keyName (position : Int) (mode : Mode) : Text :=
  (PitchClass.ofInt position).commonTone.name ++ mode.abbreviation

/-- The tonic that the circle gives is the one in the table. -/
theorem toSounding_eq (signature : KeySignature) :
    signature.toSounding = ⟨signature.tonic, signature.mode, signature.count⟩ := by
  simp only [toSounding, ofSharps?_count, Option.get_some, SoundingKey.ofTonic, sharpsOf_tonic]

theorem position_simplest (mode : Mode) (root : PitchClass) :
    (simplest mode root).position = root := by
  cases mode <;> revert root <;> decide

theorem mode_simplest (mode : Mode) (root : PitchClass) :
    (simplest mode root).mode = mode := by
  cases mode <;> revert root <;> decide

end KeySignature

end MusicText
