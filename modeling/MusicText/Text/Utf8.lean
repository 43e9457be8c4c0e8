import MusicText.Text.Quoted

/-!
Contract: the encoding of texts in bytes.

Owns: the number of bytes of a text, and the surrogates that no bytes encode.

Does not own: which bytes they are, because nothing depends on them.

In the names of files the surrogates U+DC80 to U+DCFF stand for bytes that encode no
character.
-/

namespace MusicText.Text

/-- Whether a code point stands for a single byte that encodes no character. -/
def isStrayByte (c : CodePoint) : Bool :=
  0xDC80 ≤ c.toNat && c.toNat ≤ 0xDCFF

/-- The number of bytes of a code point in the name of a file. -/
def byteCount (c : CodePoint) : Nat :=
  if c.toNat < 0x80 ∨ isStrayByte c then 1
  else if c.toNat < 0x800 then 2
  else if c.toNat < 0x10000 then 3
  else 4

/-- The number of bytes of a text in the name of a file. -/
def byteLength (text : Text) : Nat :=
  text.foldl (fun length c => length + byteCount c) 0

/-- Surrogates that no bytes encode: the position of the first one, and the surrogates
behind it. -/
structure SurrogateRun where
  position : Nat
  first : CodePoint
  others : Text
  deriving DecidableEq, Repr

namespace SurrogateRun

/-- The wording for surrogates that cannot be encoded. -/
def message (run : SurrogateRun) : Text :=
  let place :=
    if run.others = [] then
      " '".toText ++ numericEscape run.first.toNat ++ "' in position ".toText
        ++ inBase 10 run.position
    else
      "s in position ".toText ++ inBase 10 run.position ++ "-".toText
        ++ inBase 10 (run.position + run.others.length)
  "'utf-8' codec can't encode character".toText ++ place ++ ": surrogates not allowed".toText

/-- The first surrogates of a text that cannot be encoded, where those that `admitted`
takes can. The text begins at a position of the whole. -/
def find? (admitted : CodePoint → Bool) (position : Nat) : Text → Option SurrogateRun
  | [] => none
  | c :: rest =>
      if c.isSurrogate && !admitted c then
        some ⟨position, c, rest.takeWhile CodePoint.isSurrogate⟩
      else find? admitted (position + 1) rest

end SurrogateRun

/-- The surrogates that keep a text from being the contents of a file. -/
def contentSurrogates? (text : Text) : Option SurrogateRun :=
  SurrogateRun.find? (fun _ => false) 0 text

/-- The surrogates that keep a text from being the name of a file. -/
def nameSurrogates? (text : Text) : Option SurrogateRun :=
  SurrogateRun.find? isStrayByte 0 text

end MusicText.Text
