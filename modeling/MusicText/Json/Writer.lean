import MusicText.Json.Value

/-!
Contract: the text of a settings file.

Owns: the indented form with one item a line, and strings that hold ASCII only.

Does not own: the reading of such text; see `MusicText.Json.Reader`.
-/

namespace MusicText.Json

open MusicText.Text

/-- The escape of one UTF-16 unit. -/
def unitEscape (unit : Nat) : Text :=
  "\\u".toText ++ hexadecimal 4 unit

/-- The escapes of a character: one unit, or a surrogate pair. -/
def unicodeEscape (code : Nat) : Text :=
  if code < 0x10000 then unitEscape code
  else
    let offset := code - 0x10000
    unitEscape (0xD800 + offset / 0x400) ++ unitEscape (0xDC00 + offset % 0x400)

/-- A character inside a string. Only printable ASCII stands for itself. -/
def stringEscape (c : CodePoint) : Text :=
  if c = doubleQuote then ['\\', doubleQuote]
  else if c = '\\' then ['\\', '\\']
  else if c = '\n' then ['\\', 'n']
  else if c = '\r' then ['\\', 'r']
  else if c = '\t' then ['\\', 't']
  else if c = '\x08' then ['\\', 'b']
  else if c = '\x0c' then ['\\', 'f']
  else if 0x20 ≤ c.toNat ∧ c.toNat < 0x7F then [c]
  else unicodeEscape c.toNat

/-- A string between double quotes. -/
def writeString (text : Text) : Text :=
  doubleQuote :: (text.flatMap stringEscape ++ [doubleQuote])

/-- The word for a number beyond all finite ones. -/
def infinityWord : Text := "Infinity".toText

/-- The word for a number without a value. -/
def undefinedWord : Text := "NaN".toText

/-- A new line with two blanks for each level of nesting. -/
def newLine (level : Nat) : Text :=
  '\n' :: List.replicate (2 * level) ' '

/-- Written items between brackets, each on a line of its own. -/
def bracketed (opening closing : CodePoint) (level : Nat) (items : List Text) : Text :=
  if items.isEmpty then [opening, closing]
  else
    [opening] ++ newLine (level + 1) ++ (",".toText ++ newLine (level + 1)).intercalate items
      ++ newLine level ++ [closing]

mutual

/-- The text of a value at a level of nesting. -/
def write (level : Nat) : Json → Text
  | null => "null".toText
  | boolean true => "true".toText
  | boolean false => "false".toText
  | integer value => Decimal.ofInt value
  | fraction value => value.toText infinityWord undefinedWord
  | string value => writeString value
  | array items => bracketed '[' ']' level (writeItems (level + 1) items)
  | object members => bracketed '\x7b' '\x7d' level (writeMembers (level + 1) members)

def writeItems (level : Nat) : List Json → List Text
  | [] => []
  | item :: rest => write level item :: writeItems level rest

def writeMembers (level : Nat) : List (Text × Json) → List Text
  | [] => []
  | (name, value) :: rest =>
      (writeString name ++ ": ".toText ++ write level value) :: writeMembers level rest

end

/-- The text of a value, one item a line, without a final line break. -/
def toText (value : Json) : Text :=
  write 0 value

end MusicText.Json
