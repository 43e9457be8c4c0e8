import MusicText.Instrument.Name
import MusicText.Json.Value
import MusicText.Numeral

/-!
Contract: the identifiers that value tokens may name.

Owns: the built-in identifiers, definitions laid over them, and the number that a
defined value stands for.

Does not own: the tokens that use identifiers; see `MusicText.Token.Value`.
-/

namespace MusicText

open MusicText.Text

namespace Definitions

/-- The voice of the percussion. -/
def percussionVoice : Nat := 9

/-- The built-in identifiers: the percussion voice and all instrument names. -/
def seed : List (Text × Nat) :=
  ("PERCUSSION".toText, percussionVoice) :: Instrument.programs

end Definitions

/-- Definitions that lie over the built-in identifiers. Each name occurs once. -/
structure Definitions where
  own : List (Text × Json)
  deriving Repr

namespace Definitions

/-- No definitions beyond the built-in ones. -/
def builtIn : Definitions :=
  ⟨[]⟩

/-- Why a name is not found. -/
inductive Absence
  /-- The name is not defined at all. -/
  | undefined (name : Text)
  /-- The name has no definition over the built-in ones. -/
  | notOwn (name : Text)
  deriving DecidableEq, Repr

namespace Absence

/-- The wording of an absence. -/
def message : Absence → Text
  | undefined name => quoted name
  | notOwn name =>
      quoted ("Key not found in the first mapping: ".toText ++ quoted name)

end Absence

/-- The value of a name: its own definition, else the built-in one. -/
def value? (definitions : Definitions) (name : Text) : Option Json :=
  match definitions.own.lookup name with
  | some value => some value
  | none => (seed.lookup name).map fun program => .integer program

/-- The value of a name that has to be defined. -/
def value (definitions : Definitions) (name : Text) : Except Absence Json :=
  match definitions.value? name with
  | some value => .ok value
  | none => .error (.undefined name)

/-- Defines a name, over any earlier definition. -/
def define (definitions : Definitions) (name : Text) (value : Json) : Definitions :=
  ⟨Json.setMember name value definitions.own⟩

/-- Removes the own definition of a name. The built-in one comes to light again. -/
def undefine (definitions : Definitions) (name : Text) : Except Absence Definitions :=
  if (definitions.own.lookup name).isSome then
    .ok ⟨definitions.own.filter fun entry => entry.1 ≠ name⟩
  else .error (.notOwn name)

/-- Why a defined value stands for no integer. -/
inductive Unfit
  /-- The value is no number. -/
  | notANumber
  /-- The value is an infinite number. -/
  | infinite
  deriving DecidableEq, Repr

/-- The integer that a defined value stands for: numbers are cut to their integer
part, truth values count 1 and 0, texts are read as numerals. -/
def toInteger : Json → Except Unfit Int
  | .null => .error .notANumber
  | .boolean value => .ok (if value then 1 else 0)
  | .integer value => .ok value
  | .fraction (.infinite _) => .error .infinite
  | .fraction value => value.integerPart?.elim (.error .notANumber) .ok
  | .string text => (Numeral.read text).mapError fun _ => .notANumber
  | .array _ => .error .notANumber
  | .object _ => .error .notANumber

theorem value?_define (definitions : Definitions) (name other : Text) (value : Json) :
    (definitions.define name value).value? other
      = if other = name then some value else definitions.value? other := by
  rw [value?, define, Json.lookup_setMember]
  by_cases same : other = name
  · rw [if_pos same, if_pos same]
  · rw [if_neg same, if_neg same, value?]

end Definitions

end MusicText
