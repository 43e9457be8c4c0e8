import MusicText.KeySignature
import MusicText.Token.Recogniser

/-!
Contract: key and meter tokens.

Owns: their marks, and the reading of what follows the marks.

Does not own: key signatures as such; see `MusicText.KeySignature`.

A key is named like a chord, as in `KEY:Cmaj` or `KEY:Amin`, or counted in accidentals
behind a `K`, as in `KEY:K###` or `KEY:Kbb`. A counted key is always major. A meter
is a fraction, as in `TIME:3/4`.
-/

namespace MusicText.Token.Signature

open MusicText.Text

def keyMark : Text := ['K', 'E', 'Y', ':']

def meterMark : Text := ['T', 'I', 'M', 'E', ':']

def beginsWithKey (text : Text) : Bool :=
  keyMark.isPrefixOf text

def beginsWithMeter (text : Text) : Bool :=
  meterMark.isPrefixOf text

/-- Whether the text behind the mark of a key counts accidentals: a `K` with a sharp or
a flat behind it. -/
def countsAccidentals : Text → Bool
  | 'K' :: second :: _ => capital second == "#".toText || capital second == "B".toText
  | _ => false

/-- The major key with the net accidentals of a text, and the remark on it. -/
def countedKey (text : Text) : Except Failure (Key × List Remark) :=
  let count := Accidental.netMarks text
  match KeySignature.ofCount? count .major with
  | none => .error (.ofDefect (.tooManyAccidentals count text) text)
  | some signature =>
      let tonic := signature.tonic.name
      match Key.ofName (tonic ++ Mode.major.abbreviation) with
      | .error fault => .error (.fault fault)
      | .ok key => .ok (key, [.accidentalsCounted text count tonic])

/-- The key of the text behind the mark, and the remarks on it. -/
def readKey (text : Text) : Except Failure (Key × List Remark) :=
  if text = [] then .error (.ofDefect .keyMissing keyMark)
  else if countsAccidentals text then countedKey text
  else
    match Key.ofName text with
    | .error _ => .error (.ofDefect (.malformedKey text) text)
    | .ok key => .ok (key, [])

def keyEvent (key : Key) : Event :=
  .key key.root.pitchClass.toInt key.mode.code

def meterEvent (meter : Meter) : Event :=
  .meter meter.numerator meter.denominator

def readKeyToken (token : Text) (context : Context) : Outcome :=
  match readKey (token.drop keyMark.length) with
  | .error failure => .refused context failure
  | .ok (key, remarks) =>
      .accepted { context with key := key }
        (remarks.map .remark ++ [.call (.event (keyEvent key))]) token

def readMeterToken (token : Text) (context : Context) : Outcome :=
  let text := token.drop meterMark.length
  match cutAt? '/' text with
  | none => .refused context (.ofDefect (.separatorMissing text) token)
  | some (numerator, denominator) =>
      match Meter.ofPartTexts numerator denominator with
      | .error _ => .refused context (.ofDefect (.malformedMeter text) token)
      | .ok meter =>
          .accepted { context with meter := meter } [.call (.event (meterEvent meter))] token

/-- Reads a key or meter token. -/
def read (remaining : Text) (context : Context) : Outcome :=
  if beginsWithKey remaining then readKeyToken (Token.first remaining) context
  else if beginsWithMeter remaining then readMeterToken (Token.first remaining) context
  else .ignored context

def kind (token : Text) : TokenKind :=
  if beginsWithKey token then .keySignature
  else if beginsWithMeter token then .timeSignature
  else .unknown

/-- The recogniser of key and meter tokens. -/
def recogniser : Recogniser where
  name := "SignatureSubparser".toText
  accepts remaining := beginsWithKey remaining || beginsWithMeter remaining
  kind := kind
  read := read

end MusicText.Token.Signature
