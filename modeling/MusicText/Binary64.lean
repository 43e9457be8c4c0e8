import MusicText.Text.Basic

/-!
Contract: binary numbers of 64 bits.

Owns: finite, infinite and undefined numbers, the number nearest to a decimal, and the
integer part of a number.

Does not own: how such a number is written; see `MusicText.Binary64.Shortest`.
-/

namespace MusicText

/-- A binary number of 64 bits. The magnitude of a finite one is its significand, below
2^53, times a power of two; zero has a sign too. -/
inductive Binary64
  | finite (negative : Bool) (significand : Nat) (power : Int)
  | infinite (negative : Bool)
  | undefined
  deriving DecidableEq, Repr

namespace Binary64

/-- The least power of two of a finite number. -/
def leastPower : Int := -1074

/-- The greatest power of two of a finite number. -/
def greatestPower : Int := 971

/-- The least significand of a number with all its 53 digits. -/
def leastFull : Nat := Nat.pow 2 52

/-- Rounds a quotient to the nearest natural number, a tie to the even one. -/
def roundQuotient (numerator denominator : Nat) : Nat :=
  let quotient := numerator / denominator
  let twice := 2 * (numerator % denominator)
  if twice < denominator then quotient
  else if denominator < twice then quotient + 1
  else quotient + quotient % 2

/-- The power of two of the last binary digit that a quotient keeps: 53 digits, and
nothing below the least power. -/
def lastPlace (numerator denominator : Nat) : Int :=
  let estimate : Int := numerator.log2 - denominator.log2
  let reached :=
    if estimate < 0 then denominator ≤ numerator * Nat.pow 2 (-estimate).toNat
    else denominator * Nat.pow 2 estimate.toNat ≤ numerator
  let magnitude := if reached then estimate else estimate - 1
  max (magnitude - 52) leastPower

/-- The number of a significand that was rounded to at most 53 digits, or just beyond. -/
def ofRounded (negative : Bool) (significand : Nat) (power : Int) : Binary64 :=
  let carried := significand = 2 * leastFull
  let significand := if carried then leastFull else significand
  let power := if carried then power + 1 else power
  if greatestPower < power then infinite negative else finite negative significand power

/-- The number nearest to a positive quotient. -/
def ofQuotient (negative : Bool) (numerator denominator : Nat) : Binary64 :=
  let place := lastPlace numerator denominator
  let rounded :=
    if place < 0 then roundQuotient (numerator * Nat.pow 2 (-place).toNat) denominator
    else roundQuotient numerator (denominator * Nat.pow 2 place.toNat)
  ofRounded negative rounded place

/-- The number nearest to a significand times a power of ten. Magnitudes beyond 400
digits are settled without computing them. -/
def ofDecimal (negative : Bool) (significand : Nat) (tens : Int) : Binary64 :=
  let magnitude : Int := (Text.inBase 10 significand).length + tens
  if significand = 0 ∨ magnitude < -400 then finite negative 0 leastPower
  else if 400 < magnitude then infinite negative
  else if tens < 0 then ofQuotient negative significand (Nat.pow 10 (-tens).toNat)
  else ofQuotient negative (significand * Nat.pow 10 tens.toNat) 1

/-- Whether the number nearest to a natural number is infinite. -/
def overflows (value : Nat) : Bool :=
  ofDecimal false value 0 == infinite false

/-- The integer part of a finite number. -/
def integerPart? : Binary64 → Option Int
  | finite negative significand power =>
      let magnitude : Nat :=
        if power < 0 then significand / Nat.pow 2 (-power).toNat
        else significand * Nat.pow 2 power.toNat
      some (if negative then -magnitude else magnitude)
  | infinite _ => none
  | undefined => none

/-- The integer that the number nearest to an integer is, nothing when it is infinite. An
integer below 2^53 is its own nearest number. -/
def nearestInteger? (value : Int) : Option Int :=
  if value.natAbs < 2 * leastFull then some value
  else (ofDecimal (value < 0) value.natAbs 0).integerPart?

/-- The halves in the number that is nearest to so many halves, nothing when it is infinite.
Below 2^53 halves the number is exact, and from there on it has no half of its own. -/
def nearestHalves? (halves : Int) : Option Int :=
  if halves.natAbs < 2 * leastFull then some halves
  else (ofQuotient (halves < 0) halves.natAbs 2).integerPart?.map (2 * ·)

/-- Whether a number is zero, of either sign. -/
def isZero : Binary64 → Bool
  | finite _ significand _ => significand == 0
  | infinite _ => false
  | undefined => false

theorem nearestInteger?_of_small {value : Int} (small : value.natAbs < 2 * leastFull) :
    nearestInteger? value = some value := by
  simp [nearestInteger?, small]

theorem nearestHalves?_of_small {halves : Int} (few : halves.natAbs < 2 * leastFull) :
    nearestHalves? halves = some halves := by
  simp [nearestHalves?, few]

end Binary64

end MusicText
