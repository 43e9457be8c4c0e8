import MusicText.Chord
import MusicText.Scale

/-!
Contract: keys.

Owns: keys as a root with a mode, their names, and the sounding key with its
number of accidentals on the circle of fifths.

Does not own: the tables of key signatures; see `MusicText.KeySignature`.
-/

namespace MusicText

open MusicText.Text

/-- A root note with a mode. -/
structure Key where
  root : Note
  mode : Mode
  deriving DecidableEq, Repr

/-- A key as it sounds: a spelled tonic, a mode, and the number of sharps, which
is negative for flats. -/
structure SoundingKey where
  tonic : Tone
  mode : Mode
  sharps : Int
  deriving DecidableEq, Repr

namespace SoundingKey

/-- The sharps of a tonic: its place on the circle of fifths, three less in minor. -/
def sharpsOf (tonic : Tone) : Mode → Int
  | .major => tonic.fifths
  | .minor => tonic.fifths - 3

def ofTonic (tonic : Tone) (mode : Mode) : SoundingKey :=
  ⟨tonic, mode, sharpsOf tonic mode⟩

/-- The place on the circle of fifths at which the tonic of a number of sharps stands. -/
def placeOfTonic (sharps : Int) : Mode → Int
  | .major => sharps
  | .minor => sharps + 3

/-- The key with a number of sharps: that of the tonic on the circle, if it can be spelled. -/
def ofSharps? (sharps : Int) (mode : Mode) : Option SoundingKey :=
  (Tone.ofFifths? (placeOfTonic sharps mode)).map fun tonic => ofTonic tonic mode

/-- A key in words, such as `A- major`. A minor key has a small letter. -/
def toText (key : SoundingKey) : Text :=
  let tonic :=
    match key.mode with
    | .major => key.tonic.pitchName
    | .minor => key.tonic.smallPitchName
  tonic ++ " ".toText ++ key.mode.word

/-- A key is found again by its number of sharps. -/
theorem ofSharps?_sharpsOf (tonic : Tone) (mode : Mode) :
    ofSharps? (sharpsOf tonic mode) mode = some (ofTonic tonic mode) := by
  have place : placeOfTonic (sharpsOf tonic mode) mode = tonic.fifths := by
    cases mode with
    | major => rfl
    | minor => simp only [placeOfTonic, sharpsOf, Int.sub_add_cancel]
  rw [ofSharps?, place, Tone.ofFifths?_fifths, Option.map_some]

end SoundingKey

namespace Key

/-- The key of a chord: minor if the chord has a minor third, else major. -/
def ofChord (chord : Chord) : Key :=
  ⟨chord.root, if chord.isMinor then .minor else .major⟩

/-- A key from a chord name such as `Gmaj` or `F#min`. -/
def ofName (name : Text) : Except Fault Key :=
  (Chord.ofName name).map ofChord

def scale (key : Key) : Scale :=
  Scale.ofMode key.mode

def isMajor (key : Key) : Bool :=
  key.mode == .major

/-- The name of a key: its root tone and the abbreviation of its mode. -/
def toText (key : Key) : Text :=
  key.root.toneName ++ key.mode.abbreviation

/-- A key with its type, for diagnosis. -/
def describe (key : Key) : Text :=
  "Key(".toText ++ quoted key.toText ++ ")".toText

/-- Whether two keys have the same root pitch class and the same mode. -/
def agrees (first second : Key) : Bool :=
  first.root.pitchClass == second.root.pitchClass && first.mode == second.mode

/-- The key as it sounds, if its root is spelled as a tone. Between the half-steps there is
no key. -/
def toSounding (key : Key) : Except Fault SoundingKey :=
  match Intonation.ofNoteName key.root.toneName with
  | .error fault => .error fault
  | .ok intonation =>
      match intonation.toTone? with
      | none => .error .tonicBetweenHalfsteps
      | some tonic => .ok (SoundingKey.ofTonic tonic key.mode)

end Key

end MusicText
