import MusicText.Text.Basic

/-!
Contract: the lines of a text.

Owns: the breaks that end a line, the division of a text into lines, and the reading
of all carriage returns as line feeds.

Does not own: white space; see `MusicText.Text.Blank`.
-/

namespace MusicText.Text

/-- The code points that end a line. A carriage return with a line feed behind it ends
one line. -/
def lineBreaks : List Nat :=
  [0x0A, 0x0B, 0x0C, 0x0D, 0x1C, 0x1D, 0x1E, 0x85, 0x2028, 0x2029]

def endsLine (c : CodePoint) : Bool :=
  lineBreaks.contains c.toNat

/-- The lines of a text without their breaks. No line begins behind a final break. -/
def lines : Text → List Text
  | [] => []
  | '\r' :: '\n' :: rest => [] :: lines rest
  | c :: rest =>
      if endsLine c then [] :: lines rest
      else
        match lines rest with
        | [] => [[c]]
        | first :: others => (c :: first) :: others

/-- The last line of a text, which is empty when the text has no lines. -/
def lastLine (text : Text) : Text :=
  (lines text).getLast?.getD []

/-- Line breaks as files are read: a carriage return, with or without a line feed behind
it, is a line feed. -/
def unifyLineBreaks : Text → Text
  | '\r' :: '\n' :: rest => '\n' :: unifyLineBreaks rest
  | '\r' :: rest => '\n' :: unifyLineBreaks rest
  | c :: rest => c :: unifyLineBreaks rest
  | [] => []

end MusicText.Text
