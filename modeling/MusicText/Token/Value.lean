import MusicText.Token.Recogniser

/-!
Contract: instrument, voice and layer tokens.

Owns: their markers, the reading of their values, and the narrowing to a signed byte.

Does not own: the identifiers that values may name; see `MusicText.Definitions`.

A value is a number, as in `I40`, `V9` or `L2`, or an identifier, as in `I[VIOLIN]`
or `IVIOLIN`. A marker alone has the value -1. Values beyond a signed byte wrap, so
`I200` means -56.
-/

namespace MusicText

/-- The marker that begins a value token. -/
inductive Marker
  | instrument | layer | voice
  deriving DecidableEq, Repr

namespace Marker

def letter : Marker → CodePoint
  | instrument => 'I'
  | layer => 'L'
  | voice => 'V'

def ofLetter? (letter : CodePoint) : Option Marker :=
  [instrument, layer, voice].find? fun marker => marker.letter = letter

def kind : Marker → TokenKind
  | instrument => .instrument
  | layer => .layer
  | voice => .voice

def event (value : Int) : Marker → Event
  | instrument => .instrument value
  | layer => .layer value
  | voice => .track value

/-- A letter denotes a marker exactly when it is the marker's letter. -/
theorem ofLetter?_eq_some_iff {letter : CodePoint} {marker : Marker} :
    ofLetter? letter = some marker ↔ letter = marker.letter := by
  constructor
  · intro found
    have fits := List.find?_some found
    exact (of_decide_eq_true fits).symm
  · rintro rfl
    cases marker <;> decide

end Marker

namespace Token.Value

/-- The value of a marker that stands alone. -/
def bareValue : Int := -1

/-- The number from -128 to 127 that is congruent to a value modulo 256. -/
def signedByte (value : Int) : Int :=
  (value + 128) % 256 - 128

/-- Whether an identifier is a number: ASCII digits only, at least one. -/
def isNumber (identifier : Text) : Bool :=
  identifier ≠ [] && identifier.all CodePoint.isDigit

/-- The name that an identifier means. A bracket in front is dropped, and so is the
closing bracket at the end if there is one. -/
def nameOf : Text → Text
  | '[' :: rest => if rest.getLast? = some (.scalar ']') then rest.dropLast else rest
  | identifier => identifier

/-- The value of an identifier before narrowing: a number as it is written, else what
its name is defined as. -/
def resolve (definitions : Definitions) (identifier : Text) : Except Failure Int :=
  if isNumber identifier then
    match Numeral.readRun identifier with
    | .ok value => .ok value
    | .error fault => .error (.fault fault)
  else
    let name := nameOf identifier
    match definitions.value? name with
    | none => .error (.ofDefect (.unknownIdentifier name) identifier)
    | some value =>
        match Definitions.toInteger value with
        | .ok number => .ok number
        | .error .notANumber => .error (.ofDefect (.notANumber name value.inline) identifier)
        | .error .infinite => .error (.fault (.arithmetic .infiniteInteger))

/-- The value of a token behind its marker. -/
def valueOf (definitions : Definitions) (identifier : Text) : Except Failure Int :=
  if identifier = [] then .ok bareValue else (resolve definitions identifier).map signedByte

def markerOf? : Text → Option Marker
  | [] => none
  | letter :: _ => Marker.ofLetter? letter

def read (remaining : Text) (context : Context) : Outcome :=
  match markerOf? remaining with
  | none => .ignored context
  | some marker =>
      let token := Token.first remaining
      match valueOf context.definitions token.tail with
      | .error failure => .refused context failure
      | .ok value => .accepted context [.call (.event (marker.event value))] token

def recogniser : Recogniser where
  name := "IVLSubparser".toText
  accepts remaining := (markerOf? remaining).isSome
  kind token := ((markerOf? token).map Marker.kind).getD .unknown
  read := read

theorem signedByte_mem (value : Int) : -128 ≤ signedByte value ∧ signedByte value ≤ 127 := by
  unfold signedByte
  omega

theorem signedByte_emod (value : Int) : signedByte value % 256 = value % 256 := by
  unfold signedByte
  omega

end Token.Value

end MusicText
