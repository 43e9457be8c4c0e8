import MusicText.Fault

/-!
Contract: why a text is not a value of a settings file.

Owns: the kinds of defects, their place in a text, and their wording.

Does not own: the reader that finds them; see `MusicText.Json.Reader`.
-/

namespace MusicText.Json

open MusicText.Text

/-- What is wrong at a place of the text. -/
inductive Defect
  | byteOrderMark
  | valueExpected
  | nameExpected
  | colonExpected
  | commaExpected
  | stringNotClosed
  | controlCharacter
  | unknownEscape
  | unicodeEscapeExpected
  | furtherText
  deriving DecidableEq, Repr

namespace Defect

/-- The wording of a defect. -/
def message : Defect → Text
  | byteOrderMark => "Unexpected UTF-8 BOM (decode using utf-8-sig)".toText
  | valueExpected => "Expecting value".toText
  | nameExpected => "Expecting property name enclosed in double quotes".toText
  | colonExpected => "Expecting ':' delimiter".toText
  | commaExpected => "Expecting ',' delimiter".toText
  | stringNotClosed => "Unterminated string starting at".toText
  | controlCharacter => "Invalid control character at".toText
  | unknownEscape => "Invalid \\escape".toText
  | unicodeEscapeExpected => "Invalid \\uXXXX escape".toText
  | furtherText => "Extra data".toText

end Defect

/-- The values that hold values. -/
inductive Container
  | array | object
  deriving DecidableEq, Repr

def Container.word : Container → Text
  | array => "array".toText
  | object => "object".toText

/-- Why reading stops: a defect with the number of characters that are left from its
place on, or a limit that is exceeded. -/
inductive Stop
  | defect (kind : Defect) (left : Nat)
  /-- An integer has more digits than are read. -/
  | integerTooLong (digits : Nat)
  /-- A container stands within more containers than are followed. -/
  | nestedTooDeeply (container : Container)
  deriving DecidableEq, Repr

/-- Why a text holds no value: a defect at a position, or a limit that is exceeded. -/
inductive Refusal
  | malformed (kind : Defect) (line column position : Nat)
  | integerTooLong (digits : Nat)
  | nestedTooDeeply (container : Container)
  deriving DecidableEq, Repr

namespace Refusal

/-- The refusal of a text for which reading stopped. Lines and columns count from one. -/
def ofStop (source : Text) : Stop → Refusal
  | .integerTooLong digits => integerTooLong digits
  | .nestedTooDeeply container => nestedTooDeeply container
  | .defect kind left =>
      let position := source.length - left
      let before := source.take position
      malformed kind (before.count (.scalar '\n') + 1)
        ((before.reverse.takeWhile (· ≠ .scalar '\n')).length + 1) position

/-- Whether a limit is exceeded, so that the text may well hold a value. -/
def isLimit : Refusal → Bool
  | malformed _ _ _ _ => false
  | integerTooLong _ => true
  | nestedTooDeeply _ => true

/-- The wording of a refusal. -/
def message : Refusal → Text
  | integerTooLong digits => Fault.message (.integerTooLong digits)
  | nestedTooDeeply container =>
      "maximum recursion depth exceeded while decoding a JSON ".toText ++ container.word
        ++ " from a unicode string".toText
  | malformed kind line column position =>
      kind.message ++ ": line ".toText ++ Decimal.ofNat line ++ " column ".toText
        ++ Decimal.ofNat column ++ " (char ".toText ++ Decimal.ofNat position ++ ")".toText

end Refusal

end MusicText.Json
