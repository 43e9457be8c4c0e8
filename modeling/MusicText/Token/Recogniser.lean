import MusicText.Context
import MusicText.Event
import MusicText.Journal

/-!
Contract: what every recogniser of tokens offers.

Owns: token kinds, the cut of a token, notices, outcomes, and the interface of a
recogniser.

Does not own: the recognisers themselves; see `MusicText.Token.Value` and
`MusicText.Token.Signature`.
-/

namespace MusicText

/-- The kinds of tokens. -/
inductive TokenKind
  | instrument | voice | layer | keySignature | timeSignature | unknown
  deriving DecidableEq, Repr

namespace TokenKind

def word : TokenKind → Text
  | instrument => "instrument".toText
  | voice => "voice".toText
  | layer => "layer".toText
  | keySignature => "key_signature".toText
  | timeSignature => "time_signature".toText
  | unknown => "unknown_token".toText

end TokenKind

namespace Token

/-- Whether a character belongs to a token. Only the space U+0020 ends one. -/
def isPart (c : CodePoint) : Bool :=
  c != ' '

def first (remaining : Text) : Text :=
  remaining.takeWhile isPart

end Token

/-- What comes out of a parse, in order: calls to the listener, and remarks. -/
inductive Notice
  | call (content : Call)
  | remark (content : Remark)
  deriving DecidableEq, Repr

/-- What a recogniser does with the remaining music: the state it leaves, what it
gives notice of, and either a failure or the number of characters consumed. -/
structure Outcome where
  context : Context
  notices : List Notice
  result : Except Failure Int

namespace Outcome

/-- Nothing is recognised, nothing is consumed. -/
def ignored (context : Context) : Outcome :=
  ⟨context, [], .ok 0⟩

/-- The token is refused and leaves no trace. -/
def refused (context : Context) (failure : Failure) : Outcome :=
  ⟨context, [], .error failure⟩

/-- The token is consumed together with the separator behind it, which is counted at
the end of the music too. -/
def accepted (context : Context) (notices : List Notice) (token : Text) : Outcome :=
  ⟨context, notices, .ok (token.length + 1)⟩

end Outcome

/-- A recogniser of some kinds of tokens. It is offered the remaining music. -/
structure Recogniser where
  /-- The name under which it is remarked on. -/
  name : Text
  /-- Whether the remaining music begins with a token of its kinds. -/
  accepts : Text → Bool
  /-- The kind of a token. -/
  kind : Text → TokenKind
  /-- Reads one token at the beginning of the remaining music. -/
  read : Text → Context → Outcome

end MusicText
