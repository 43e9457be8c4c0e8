/-!
Contract: code points.

Owns: characters and lone surrogates as code points, their numbers, the ASCII digits,
and the character that stands for a code point where only characters can be shown.

Does not own: texts, which are lists of code points; see `MusicText.Text.Basic`.
-/

namespace MusicText

/-- A code point: a character, or a surrogate that stands alone. Surrogates are counted
from U+D800. -/
inductive CodePoint
  | scalar (character : Char)
  | surrogate (offset : Fin 2048)
  deriving DecidableEq, Repr

/-- A character is a code point. -/
instance : Coe Char CodePoint := ⟨.scalar⟩

namespace CodePoint

def toNat : CodePoint → Nat
  | scalar character => character.toNat
  | surrogate offset => 0xD800 + offset.val

/-- The code point of a number. A number beyond U+10FFFF gives U+0000. -/
def ofNat (number : Nat) : CodePoint :=
  if between : 0xD800 ≤ number ∧ number < 0xE000 then
    surrogate ⟨number - 0xD800, by omega⟩
  else Char.ofNat number

/-- Whether a code point is one of the ASCII digits. -/
def isDigit (c : CodePoint) : Bool :=
  48 ≤ c.toNat && c.toNat ≤ 57

def isSurrogate : CodePoint → Bool
  | scalar _ => false
  | surrogate _ => true

/-- The character that is shown for a code point. A surrogate is shown as U+FFFD. -/
def shown : CodePoint → Char
  | scalar character => character
  | surrogate _ => '\uFFFD'

/-- The number of a character is not that of a surrogate. -/
theorem not_surrogate_toNat (character : Char) :
    ¬ (0xD800 ≤ character.toNat ∧ character.toNat < 0xE000) := by
  have valid := character.valid
  have number : character.val.toNat = character.toNat := rfl
  simp only [UInt32.isValidChar, Nat.isValidChar, number] at valid
  omega

/-- A code point is determined by its number. -/
theorem ofNat_toNat (c : CodePoint) : ofNat c.toNat = c := by
  cases c with
  | scalar character =>
      simp [ofNat, toNat, not_surrogate_toNat, Char.ofNat_toNat]
  | surrogate offset =>
      have small := offset.isLt
      have between : 0xD800 ≤ 0xD800 + offset.val ∧ 0xD800 + offset.val < 0xE000 := by omega
      simp [ofNat, toNat, between]

end CodePoint

end MusicText
