import MusicText.Fault

/-!
Contract: why a parse fails.

Owns: the faults of tokens with their place, the failures of a parse, and their
wording.

Does not own: faults of music theory; see `MusicText.Fault`.
-/

namespace MusicText

/-- What is wrong with a token. -/
inductive TokenDefect
  /-- No recogniser takes the token. -/
  | unknownToken (token : Text)
  /-- The name is not defined. -/
  | unknownIdentifier (name : Text)
  /-- The name is defined, but not as a number. -/
  | notANumber (name shown : Text)
  /-- Nothing follows the mark of a key. -/
  | keyMissing
  /-- The text behind the mark of a key is not a key. -/
  | malformedKey (text : Text)
  /-- The net number of accidentals exceeds seven. -/
  | tooManyAccidentals (count : Int) (text : Text)
  /-- The text behind the mark of a meter has no slash. -/
  | separatorMissing (text : Text)
  /-- The text behind the mark of a meter is not a meter. -/
  | malformedMeter (text : Text)
  deriving DecidableEq, Repr

namespace TokenDefect

/-- The wording of a defect. -/
def message : TokenDefect → Text
  | unknownToken token => "Unknown token: ".toText ++ token
  | unknownIdentifier name => "Unknown identifier: ".toText ++ name
  | notANumber name shown =>
      "Identifier ".toText ++ name ++ " does not name a number: ".toText ++ shown
  | keyMissing => "Key signature is empty".toText
  | malformedKey text => "Malformed key signature: ".toText ++ text
  | tooManyAccidentals count text =>
      "Too many accidentals in key signature (".toText ++ Decimal.ofInt count
        ++ "): ".toText ++ text
  | separatorMissing text =>
      "Time signature is missing the '/' separator: ".toText ++ text
  | malformedMeter text => "Malformed time signature: ".toText ++ text

end TokenDefect

/-- A faulty token: the defect, the part of the token that shows it, and the position
where the token begins. -/
structure TokenFault where
  defect : TokenDefect
  token : Text
  position : Nat
  deriving DecidableEq, Repr

/-- Why a parse fails. -/
inductive Failure
  /-- A token is faulty. -/
  | token (located : TokenFault)
  /-- A default, or an over-long number, is refused. -/
  | fault (cause : Fault)
  /-- A default or a root is no text: its kind, and what would have been done with a text. -/
  | notText (kind operation : Text)
  deriving DecidableEq, Repr

namespace Failure

/-- The failure of a token whose place is not known yet. -/
def ofDefect (defect : TokenDefect) (token : Text) : Failure :=
  .token ⟨defect, token, 0⟩

/-- Places a faulty token. Other failures have no place. -/
def placed (position : Nat) : Failure → Failure
  | .token located => .token { located with position := position }
  | .fault cause => .fault cause
  | .notText kind operation => .notText kind operation

/-- Whether a failure says that the music, or an option for it, is wrong. -/
def isOfMusic : Failure → Bool
  | .token _ => true
  | .fault (.arithmetic _) => false
  | .fault _ => true
  | .notText _ _ => false

/-- The wording of a failure. -/
def message : Failure → Text
  | .token located => located.defect.message
  | .fault cause => cause.message
  | .notText kind operation =>
      "'".toText ++ kind ++ "' object has no attribute '".toText ++ operation ++ "'".toText

end Failure

end MusicText
