import MusicText.Text.Blank
import MusicText.Token.Signature
import MusicText.Token.Value

/-!
Contract: the parse of music text.

Owns: the dispatch of tokens to recognisers, the rule for unknown tokens, and the run
through a text.

Does not own: what listeners make of the calls; see `MusicText.Listener`.

Tokens are separated by blanks, but only a space ends one. At every token the first
recogniser that accepts the remaining music reads it. A parse ends because every
step leaves less of the music.
-/

namespace MusicText

open MusicText.Text

/-- A parser: recognisers in the order in which they are asked, and options. -/
structure Parser where
  recognisers : List Recogniser
  options : Options

/-- What a parse gives: the notices in order, and the final state or a failure. -/
structure Run where
  notices : List Notice
  result : Except Failure Context

namespace Run

/-- A run with earlier notices in front. -/
def after (earlier : List Notice) (run : Run) : Run :=
  { run with notices := earlier ++ run.notices }

def calls (run : Run) : List Call :=
  run.notices.filterMap fun notice =>
    match notice with
    | .call content => some content
    | .remark _ => none

def remarks (run : Run) : List Remark :=
  run.notices.filterMap fun notice =>
    match notice with
    | .call _ => none
    | .remark content => some content

/-- How a run ends for listeners that may have interrupted it. -/
def resultWith (run : Run) : Option ArithmeticFault → Except Failure Context
  | some cause => .error (.fault (.arithmetic cause))
  | none => run.result

end Run

namespace Parser

/-- The recognisers in the usual order. -/
def usualRecognisers : List Recogniser :=
  [Token.Value.recogniser, Token.Signature.recogniser]

def usual (options : Options) : Parser :=
  ⟨usualRecognisers, options⟩

/-- The first recogniser that accepts a text. -/
def recogniserOf? (parser : Parser) (text : Text) : Option Recogniser :=
  parser.recognisers.find? fun recogniser => recogniser.accepts text

/-- The kind of a token, as the first recogniser that accepts it says. -/
def kindOf (parser : Parser) (token : Text) : TokenKind :=
  match parser.recogniserOf? token with
  | some recogniser => recogniser.kind token
  | none => .unknown

/-- The number of characters that a remark on a claimed token shows. -/
def openingLength : Nat := 16

/-- What happens to a token that no recogniser accepts: it is an error in a strict
parse, else it is remarked on and passed over. -/
def passUnknown (parser : Parser) (remaining : Text) (context : Context) : Outcome :=
  let token := Token.first remaining
  if parser.options.isStrict then .refused context (.ofDefect (.unknownToken token) token)
  else .accepted context [.remark (.tokenUnknown token)] token

/-- Reads one token at the beginning of the remaining music. -/
def readToken (parser : Parser) (remaining : Text) (context : Context) : Outcome :=
  match parser.recogniserOf? remaining with
  | none => parser.passUnknown remaining context
  | some recogniser =>
      let outcome := recogniser.read remaining context
      let claim := Notice.remark (.tokenClaimed recogniser.name (remaining.take openingLength))
      { outcome with notices := claim :: outcome.notices }

/-- How far a reading moves on: what was consumed, but at least one character. -/
def advance (consumed : Int) : Nat :=
  (max consumed 1).toNat

theorem one_le_advance (consumed : Int) : 1 ≤ advance consumed := by
  unfold advance
  omega

/-- Parses the remaining music, which begins at a position of the whole. -/
def runFrom (parser : Parser) (position : Nat) (remaining : Text) (context : Context) : Run :=
  match remaining with
  | [] => ⟨[.call .finish], .ok context⟩
  | c :: rest =>
      if isBlank c then runFrom parser (position + 1) rest context
      else
        let outcome := parser.readToken (c :: rest) context
        match outcome.result with
        | .error failure => ⟨outcome.notices, .error (failure.placed position)⟩
        | .ok consumed =>
            have := one_le_advance consumed
            (runFrom parser (position + advance consumed) ((c :: rest).drop (advance consumed))
              outcome.context).after outcome.notices
termination_by remaining.length
decreasing_by
  · simp
  · simp; omega

/-- Parses music. The options are read first; a fault in them keeps the parse from
starting. -/
def run (parser : Parser) (music : Text) : Run :=
  match Context.ofOptions parser.options with
  | .error failure => ⟨[], .error failure⟩
  | .ok context => (parser.runFrom 0 music context).after [.call .start]

end Parser

end MusicText
