import MusicText.Score

/-!
Contract: the order in which a part lists its elements.

Owns: the three kinds of elements, and the listing of a part by them.

Does not own: the order of a list by a rank; see `MusicText.Ranked`.
-/

namespace MusicText

namespace ScoreElement

def isInstrument : ScoreElement → Bool
  | .instrument _ => true
  | _ => false

def isKey : ScoreElement → Bool
  | .key _ => true
  | _ => false

def isMeter : ScoreElement → Bool
  | .meter _ => true
  | _ => false

end ScoreElement

/-- A part lists its instruments, then its keys, then its meters, each as they arrived. -/
theorem Part.listing_eq (part : Part) :
    part.listing = part.elements.filter ScoreElement.isInstrument
      ++ part.elements.filter ScoreElement.isKey ++ part.elements.filter ScoreElement.isMeter := by
  have low : ∀ element ∈ part.elements, element.rank < 3 := by
    intro element _
    cases element <;> simp [ScoreElement.rank]
  have instruments : (fun element : ScoreElement => decide (element.rank = 0))
      = ScoreElement.isInstrument := by
    funext element
    cases element <;> rfl
  have keys : (fun element : ScoreElement => decide (element.rank = 1)) = ScoreElement.isKey := by
    funext element
    cases element <;> rfl
  have meters : (fun element : ScoreElement => decide (element.rank = 2))
      = ScoreElement.isMeter := by
    funext element
    cases element <;> rfl
  rw [listing, Ranked.sort_eq_groups low]
  simp only [Ranked.groups, List.nil_append, instruments, keys, meters]

end MusicText
