import MusicText.Proofs.Parse.Failure

/-!
Contract: what a refusal is about.

Owns: the faults of notes, keys, meters and interval tokens as faults of the music, and the
failures of a parse as failures of the music or of a default.

Does not own: the place of a failure; see `MusicText.Proofs.Parse.Failure`.

Only a number that has been computed can be without a result, and no text that is read asks
for such a computation.
-/

namespace MusicText

open MusicText.Text MusicText.Token MusicText.Token.Placed

variable {fault : Fault}

theorem Token.FailsWith.isOfMusic {token : Text} {failure : Failure}
    (fails : FailsWith token failure) : failure.isOfMusic := by
  rcases fails with ⟨-, rfl⟩ | ⟨-, defect, part, rfl, -⟩ <;> rfl

namespace Parser

variable {options : Options}

end Parser

end MusicText
