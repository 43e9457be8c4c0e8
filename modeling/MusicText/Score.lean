import MusicText.Event
import MusicText.Instrument.Sound
import MusicText.KeySignature
import MusicText.Meter
import MusicText.Ranked
import MusicText.Reaction

/-!
Contract: scores built from events.

Owns: scores with their parts and elements, the builder that follows the calls of a
parse, and the text of a score.

Does not own: other listeners; see `MusicText.Listener`.

Every voice has a part of its own, which is created when it is first needed. The score holds
the parts, and the builder remembers at which place of the score the part of a voice stands.
Instruments, keys and meters go to the part of the current voice.
-/

namespace MusicText

/-- An element of a part. -/
inductive ScoreElement
  | instrument (sound : Instrument.Sound)
  | key (sounding : SoundingKey)
  | meter (measure : Measure)
  deriving DecidableEq, Repr

namespace ScoreElement

/-- Where a part lists an element: instruments first, then keys, then meters. -/
def rank : ScoreElement → Nat
  | .instrument _ => 0
  | .key _ => 1
  | .meter _ => 2

def toText : ScoreElement → Text
  | .instrument sound =>
      "<music21.instrument.".toText ++ sound.kind ++ " '".toText ++ sound.name ++ "'>".toText
  | .key sounding => "<music21.key.Key of ".toText ++ sounding.toText ++ ">".toText
  | .meter measure => "<music21.meter.TimeSignature ".toText ++ measure.toText ++ ">".toText

end ScoreElement

/-- A part: its identifier and its name, and its elements in the order in which they arrived. -/
structure Part where
  id : Text
  name : Text
  elements : List ScoreElement
  deriving DecidableEq, Repr

namespace Part

/-- The part that is created for a voice. It is identified by the voice, and its name is the
identifier. -/
def ofVoice (track : Int) : Part :=
  let id := "Voice ".toText ++ Decimal.ofInt track
  ⟨id, id, []⟩

/-- Adds an element behind those that have arrived. -/
def add (element : ScoreElement) (part : Part) : Part :=
  { part with elements := part.elements ++ [element] }

/-- The elements in the order of their rank, those of one rank in the order of arrival. -/
def listing (part : Part) : List ScoreElement :=
  Ranked.sort ScoreElement.rank part.elements

/-- The place that everything in a score has: its beginning. -/
def beginning : Text :=
  "\x7b0.0\x7d ".toText

/-- A part as text: its heading, and its elements, one a line. -/
def toText (part : Part) : Text :=
  beginning ++ "<music21.stream.Part ".toText ++ part.id ++ ">\n".toText
    ++ "\n".toText.intercalate
      (part.listing.map fun element => "    ".toText ++ beginning ++ element.toText)

end Part

/-- A score: its parts in the order in which they were created. -/
structure Score where
  parts : List Part
  deriving DecidableEq, Repr

namespace Score

/-- The score without parts. -/
def empty : Score :=
  ⟨[]⟩

/-- A score as text, one part after the other. -/
def toText (score : Score) : Text :=
  "\n".toText.intercalate (score.parts.map Part.toText) ++ "\n".toText

end Score

/-- A score in the making, with the places that the parts of voices have in it, the current
voice and the current layer. -/
structure ScoreBuilder where
  score : Score
  places : List (Int × Nat)
  track : Int
  layer : Int
  deriving DecidableEq, Repr

namespace ScoreBuilder

/-- A builder that has received nothing. -/
def fresh : ScoreBuilder :=
  ⟨.empty, [], 0, 0⟩

/-- Sees to it that the current voice has a part. A new one goes to the end of the score, and
its place there is remembered. -/
def openPart (builder : ScoreBuilder) : Reaction ScoreBuilder :=
  match builder.places.lookup builder.track with
  | some _ => .quiet builder
  | none =>
      ⟨{ builder with
          score := ⟨builder.score.parts ++ [.ofVoice builder.track]⟩
          places := builder.places ++ [(builder.track, builder.score.parts.length)] },
        [.partCreated builder.track], none⟩

/-- Changes the part of the current voice where it stands in the score. -/
def changePart (change : Part → Part) (builder : ScoreBuilder) : ScoreBuilder :=
  match builder.places.lookup builder.track with
  | some place => { builder with score := ⟨builder.score.parts.modify place change⟩ }
  | none => builder

/-- Puts an element into the part of the current voice. -/
def insert (builder : ScoreBuilder) (element : ScoreElement) : Reaction ScoreBuilder :=
  builder.openPart.map (changePart (Part.add element))

/-- The sounding key of a key event: the one with the fewest accidentals that the root needs.
Every root has a key signature, so there is one. -/
def keyOf (position mode : Int) : SoundingKey :=
  (KeySignature.simplest (Mode.ofCode mode) (PitchClass.ofInt position)).toSounding

/-- What a builder makes of an event. Instruments without a sound and meters that
cannot be divided are remarked on and left out. A meter whose length cannot be computed
is an interruption. -/
def receiveEvent (builder : ScoreBuilder) : Event → Reaction ScoreBuilder
  | .track value => openPart { builder with track := value }
  | .layer value => .quiet { builder with layer := value }
  | .instrument program =>
      match Instrument.Sound.ofProgram program with
      | .error fault => ⟨builder, [.soundMissing program fault], none⟩
      | .ok sound => builder.insert (.instrument sound)
  | .key position mode => builder.insert (.key (keyOf position mode))
  | .meter numerator denominator =>
      match Measure.ofParts numerator denominator with
      | .ok measure => builder.insert (.meter measure)
      | .error (.arithmetic cause) => ⟨builder, [], some cause⟩
      | .error fault => ⟨builder, [.meterRefused numerator denominator fault], none⟩

/-- What a builder makes of a call. A start clears it. -/
def receive (builder : ScoreBuilder) : Call → Reaction ScoreBuilder
  | .start => .quiet fresh
  | .event happening => builder.receiveEvent happening
  | .finish => .quiet builder

/-- The part of a voice, if the voice has a place in the score. -/
def part? (builder : ScoreBuilder) (track : Int) : Option Part :=
  (builder.places.lookup track).bind fun place => builder.score.parts[place]?

end ScoreBuilder

end MusicText
