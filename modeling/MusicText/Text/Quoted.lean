import MusicText.Text.Printable

/-!
Contract: quoted text, the form in which texts are shown inside messages.

Owns: the choice of the quotation mark and the escapes.

Does not own: the quoting of JSON, which has other escapes.
-/

namespace MusicText.Text

/-- The single quotation mark U+0027. -/
def singleQuote : CodePoint := '\x27'

/-- The double quotation mark U+0022. -/
def doubleQuote : CodePoint := '\x22'

/-- A number in lower-case hexadecimal, filled with zeros up to `width`. -/
def hexadecimal (width value : Nat) : Text :=
  let digits := inBase 16 value
  (List.replicate (width - digits.length) '0' : Text) ++ digits

/-- The shortest numeric escape that fits a code point. -/
def numericEscape (code : Nat) : Text :=
  if code < 0x100 then "\\x".toText ++ hexadecimal 2 code
  else if code < 0x10000 then "\\u".toText ++ hexadecimal 4 code
  else "\\U".toText ++ hexadecimal 8 code

/-- One character between quotation marks `mark`. -/
def escaped (mark c : CodePoint) : Text :=
  if c = '\\' then ['\\', '\\']
  else if c = mark then ['\\', mark]
  else if c = '\t' then ['\\', 't']
  else if c = '\n' then ['\\', 'n']
  else if c = '\r' then ['\\', 'r']
  else if isPrintable c then [c]
  else numericEscape c.toNat

/-- Single marks, unless the text holds a single mark and no double one. -/
def quotationMark (text : Text) : CodePoint :=
  if singleQuote ∈ text ∧ doubleQuote ∉ text then doubleQuote else singleQuote

/-- A text between quotation marks, on one line. -/
def quoted (text : Text) : Text :=
  let mark := quotationMark text
  mark :: (text.flatMap (escaped mark) ++ [mark])

end MusicText.Text
