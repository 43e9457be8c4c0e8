import MusicText.Key
import MusicText.Meter

/-!
Contract: equality of musical values of different kinds.

Owns: values of mixed kinds, and when two of them are the same.

Does not own: equality within one kind, which the kinds define themselves.
-/

namespace MusicText

/-- A musical value, or a text that stands beside one. -/
inductive MusicalValue
  | note (value : Note)
  | intervals (value : Intervals)
  | key (value : Key)
  | scale (value : Scale)
  | meter (value : Meter)
  | text (value : Text)
  deriving Repr

namespace MusicalValue

/-- Whether two values are the same. Values of different kinds never are, and a text is
no musical value even if it names one. -/
def same : MusicalValue → MusicalValue → Bool
  | .note first, .note second => first.sounds second
  | .intervals first, .intervals second => first.samePattern second
  | .key first, .key second => first.agrees second
  | .scale first, .scale second => first == second
  | .meter first, .meter second => first == second
  | .text first, .text second => first == second
  | _, _ => false

end MusicalValue

end MusicText
