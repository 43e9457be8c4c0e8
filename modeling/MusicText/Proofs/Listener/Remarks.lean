import MusicText.Proofs.Listener.Pairing

/-!
Contract: how severe the remarks on a parse are.

Owns: the remarks of tokens, of a builder, and of a pair that hears a parse, none of which is
an error.

Does not own: the error that ends the journal of a failed run; see
`MusicText.CommandLine.Report`.
-/

namespace MusicText

open MusicText.Token MusicText.Token.Placed

variable {remark : Remark}

/-! ### Tokens -/

namespace ScoreBuilder

end ScoreBuilder

namespace Listener

end Listener

end MusicText
