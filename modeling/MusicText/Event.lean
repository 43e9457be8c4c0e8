import MusicText.Decimal

/-!
Contract: what a parse tells its listeners.

Owns: the calls that a listener receives, the events among them, and the text of
an event.

Does not own: what a listener does with a call; see `MusicText.Listener`.
-/

namespace MusicText

/-- Something that music text says, with plain numbers as they were read. -/
inductive Event
  | instrument (program : Int)
  | layer (value : Int)
  | track (value : Int)
  /-- The pitch class of the root and the code of the mode. -/
  | key (position mode : Int)
  | meter (numerator denominator : Int)
  deriving DecidableEq, Repr

/-- A call to a listener: a parse starts, an event arrives, a parse is finished. -/
inductive Call
  | start
  | event (happening : Event)
  | finish
  deriving DecidableEq, Repr

namespace Event

private def field (name : String) (value : Int) : Text :=
  name.toText ++ "=".toText ++ Decimal.ofInt value

private def record (name : String) (fields : List Text) : Text :=
  name.toText ++ "(".toText ++ ", ".toText.intercalate fields ++ ")".toText

/-- The numbers that the text of an event shows. -/
def numbers : Event → List Int
  | .instrument program => [program]
  | .layer value | .track value => [value]
  | .key position mode => [position, mode]
  | .meter numerator denominator => [numerator, denominator]

/-- An event as a line of a report. -/
def toText : Event → Text
  | .instrument program => record "InstrumentParsed" [field "instrument" program]
  | .layer value => record "LayerChanged" [field "layer" value]
  | .track value => record "TrackChanged" [field "track" value]
  | .key position mode =>
      record "KeySignatureParsed" [field "key" position, field "scale" mode]
  | .meter numerator denominator =>
      record "TimeSignatureParsed"
        [field "numerator" numerator, field "denominator" denominator]

end Event

namespace Call

def event? : Call → Option Event
  | .start => none
  | .event happening => some happening
  | .finish => none

end Call

end MusicText
