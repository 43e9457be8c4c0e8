import MusicText.Text.Basic

/-!
Contract: integers written in decimal.

Owns: the text of natural numbers and integers.

Does not own: the reading of numerals; see `MusicText.Numeral`.
-/

namespace MusicText.Decimal

/-- A natural number in decimal digits, without leading zeros. -/
def ofNat (value : Nat) : Text :=
  Text.inBase 10 value

/-- An integer in decimal digits, with a minus sign when it is negative. -/
def ofInt (value : Int) : Text :=
  if value < 0 then '-' :: ofNat value.natAbs else ofNat value.natAbs

/-- Integers between square brackets, separated by a comma and a space. -/
def ofList (values : List Int) : Text :=
  "[".toText ++ ", ".toText.intercalate (values.map ofInt) ++ "]".toText

theorem ofInt_natCast (value : Nat) : ofInt value = ofNat value := by
  have nonnegative : ¬ (value : Int) < 0 := by omega
  simp [ofInt, nonnegative]

end MusicText.Decimal
