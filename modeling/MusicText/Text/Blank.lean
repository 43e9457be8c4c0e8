import MusicText.Text.Basic

/-!
Contract: white space.

Owns: the set of blank characters, stripping, and the words of a text.

Does not own: the separator between tokens, which is the space U+0020 alone.
-/

namespace MusicText.Text

/-- The blank characters, as ranges of code points. The information separators
U+001C to U+001F are blank; the zero-width space U+200B and the byte order mark
U+FEFF are not. -/
def blankRanges : List (Nat × Nat) :=
  [(0x09, 0x0D), (0x1C, 0x20), (0x85, 0x85), (0xA0, 0xA0), (0x1680, 0x1680),
   (0x2000, 0x200A), (0x2028, 0x2029), (0x202F, 0x202F), (0x205F, 0x205F),
   (0x3000, 0x3000)]

/-- Whether a character is white space. -/
def isBlank (c : CodePoint) : Bool :=
  blankRanges.any fun range => range.1 ≤ c.toNat && c.toNat ≤ range.2

/-- Drops the leading characters that satisfy `margin`, and the trailing ones. -/
def trim (margin : CodePoint → Bool) (text : Text) : Text :=
  ((text.dropWhile margin).reverse.dropWhile margin).reverse

/-- Drops the blanks on both sides. -/
def strip (text : Text) : Text :=
  trim isBlank text

/-- The longest runs of characters that are not blank, in order. -/
def words (text : Text) : List Text :=
  (pieces isBlank text).filter (· ≠ [])

/-- Words joined by single spaces. -/
def unwords (words : List Text) : Text :=
  " ".toText.intercalate words

theorem isBlank_space : isBlank ' ' = true := by decide

end MusicText.Text
