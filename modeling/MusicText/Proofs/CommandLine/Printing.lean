import MusicText.CommandLine.Report
import MusicText.Proofs.Interval.Pattern
import MusicText.Proofs.Parse.Refusal
import MusicText.Proofs.Parse.Rewriting
import MusicText.Proofs.Parse.Views

/-!
Contract: what the two tasks print.

Owns: the printing of pieces, and the printed forms of a resolved pattern and of a parse.

Does not own: the half-steps of a pattern, see `MusicText.Proofs.Interval.Pattern`; the journal
and the ending of a run, see `MusicText.Proofs.CommandLine.Completeness`.

Of two pieces the second may fail behind the first. It does not where both are computed from
the same tokens, and where every number that is printed has been read from a numeral.
-/

namespace MusicText

open MusicText.Text

namespace CommandLine

/-! ### Pieces -/

variable {pattern root : Text} {note : Note}

end CommandLine

end MusicText
