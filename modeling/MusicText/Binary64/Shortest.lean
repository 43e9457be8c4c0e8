import MusicText.Binary64
import MusicText.Decimal

/-!
Contract: the shortest decimal that denotes a binary number.

Owns: the decimals that round to a number, the choice of the shortest one, and its
layout.

Does not own: the words for infinite and undefined numbers, which depend on where they
are written.

A number is written with the fewest digits that read back to it, and of those with the
nearest. Digits are positional while the point stands within sixteen digits to the right
of the first one, or within three zeros to the left of it.
-/

namespace MusicText.Binary64

/-- Compares digits times a power of ten with a significand times a power of two. -/
def compareScaled (digits : Nat) (tens : Int) (significand : Nat) (twos : Int) : Ordering :=
  compare (digits * Nat.pow 10 tens.toNat * Nat.pow 2 (-twos).toNat)
    (significand * Nat.pow 2 twos.toNat * Nat.pow 10 (-tens).toNat)

/-- Whether digits times a power of ten lie among the reals that round to a significand
times a power of two. These reach halfway to the two neighbours, and the ends belong
to them when the significand is even. Below a power of two the neighbour is nearer. -/
def readsBack (significand : Nat) (power : Int) (digits : Nat) (tens : Int) : Bool :=
  let narrow := significand = leastFull ∧ leastPower < power
  let lower := 4 * significand - if narrow then 1 else 2
  let fromLower := compareScaled digits tens lower (power - 2)
  let fromUpper := compareScaled digits tens (4 * significand + 2) (power - 2)
  if significand % 2 = 0 then fromLower != .lt && fromUpper != .gt
  else fromLower == .gt && fromUpper == .lt

/-- A significand times a power of two as a quotient. -/
def quotientOf (significand : Nat) (power : Int) : Nat × Nat :=
  if power < 0 then (significand, Nat.pow 2 (-power).toNat)
  else (significand * Nat.pow 2 power.toNat, 1)

/-- The least power of ten that exceeds a positive quotient. -/
def decimalMagnitude (numerator denominator : Nat) : Int :=
  if denominator ≤ numerator then (Decimal.ofNat (numerator / denominator)).length
  else
    let length := (Decimal.ofNat (denominator / numerator)).length
    if denominator ≤ Nat.pow 10 (length - 1) * numerator then 2 - length else 1 - length

/-- The digits in front of a power of ten that read back: of the two neighbours of the
number the nearer one if both do. -/
def digitsAt? (significand : Nat) (power tens : Int) : Option Nat :=
  let (numerator, denominator) := quotientOf significand power
  let numerator := numerator * Nat.pow 10 (-tens).toNat
  let denominator := denominator * Nat.pow 10 tens.toNat
  let below := numerator / denominator
  match readsBack significand power below tens, readsBack significand power (below + 1) tens with
  | true, true => some (roundQuotient numerator denominator)
  | true, false => some below
  | false, true => some (below + 1)
  | false, false => none

/-- The exact decimal of a significand times a power of two. -/
def exactDecimal (significand : Nat) (power : Int) : Nat × Int :=
  if power < 0 then (significand * Nat.pow 5 (-power).toNat, power)
  else (significand * Nat.pow 2 power.toNat, 0)

/-- The most digits that are tried. As many always suffice. -/
def mostDigits : Nat := 17

/-- The fewest digits that read back, with their power of ten. -/
def shortest (significand : Nat) (power : Int) : Nat × Int :=
  let (numerator, denominator) := quotientOf significand power
  let magnitude := decimalMagnitude numerator denominator
  let found := (List.range mostDigits).findSome? fun more =>
    let tens := magnitude - (more + 1 : Nat)
    (digitsAt? significand power tens).map fun digits => (digits, tens)
  found.getD (exactDecimal significand power)

def withoutFinalZeros (digits : Text) : Text :=
  (digits.reverse.dropWhile (· == .scalar '0')).reverse

/-- A number of zeros. -/
def zeros (count : Int) : Text :=
  List.replicate count.toNat (.scalar '0')

/-- Digits with the point where it belongs, and at least one digit on both sides of it. -/
def positional (digits : Text) (point : Int) : Text :=
  if point ≤ 0 then "0.".toText ++ zeros (-point) ++ digits
  else if digits.length ≤ point then digits ++ zeros (point - digits.length) ++ ".0".toText
  else digits.take point.toNat ++ ".".toText ++ digits.drop point.toNat

/-- Digits with the point behind the first one, if others follow, and a power of ten with
a sign and at least two digits. -/
def scientific (digits : Text) (point : Int) : Text :=
  let exponent := point - 1
  let sign := if exponent < 0 then "e-".toText else "e+".toText
  let figures := Decimal.ofNat exponent.natAbs
  digits.take 1 ++ (if digits.length ≤ 1 then [] else ".".toText) ++ digits.drop 1
    ++ sign ++ zeros (2 - figures.length) ++ figures

/-- Whether digits are written positionally when the point stands so far behind the
place in front of the first one. -/
def isPositional (point : Int) : Bool :=
  -4 < point && point ≤ 16

/-- A finite magnitude as text. -/
def magnitudeText (significand : Nat) (power : Int) : Text :=
  if significand = 0 then "0.0".toText
  else
    let (digits, tens) := shortest significand power
    let figures := Decimal.ofNat digits
    let point := figures.length + tens
    let figures := withoutFinalZeros figures
    if isPositional point then positional figures point else scientific figures point

def signed (negative : Bool) (text : Text) : Text :=
  if negative then '-' :: text else text

/-- A number as text, with the words for infinity and for an undefined number. -/
def toText (infinity undefinedWord : Text) : Binary64 → Text
  | finite negative significand power => signed negative (magnitudeText significand power)
  | infinite negative => signed negative infinity
  | undefined => undefinedWord

end MusicText.Binary64
