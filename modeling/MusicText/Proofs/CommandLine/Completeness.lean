import MusicText.Proofs.CommandLine.Printing
import MusicText.Proofs.Json.Plain
import MusicText.Proofs.Listener.Remarks

/-!
Contract: a report is complete or empty.

Owns: what a request comes down to, what is refused and what is completed, and the report of
a run in either case.

Does not own: what is printed in full; see `MusicText.Proofs.CommandLine.Printing`.

Everything that can be refused is refused before the first piece is printed. The error that
ends the journal is subject to the threshold of the journal like any other remark.
-/

namespace MusicText.CommandLine

open MusicText.Text

/-- What a task works on: a pattern with the text of its root, or music. -/
inductive Work
  | resolve (pattern root : Text)
  | parse (music : Text)
  deriving DecidableEq, Repr

namespace Work

/-- The events that a listener is told of. -/
def events (options : Options) : Work → List Event
  | .resolve _ _ => []
  | .parse music => ((Parser.usual options).run music).events

/-- The report on a work. -/
def report (threshold : Int) (options : Options) (showScore : Bool) : Work → Report
  | .resolve pattern root => (resolvePattern pattern root).report threshold []
  | .parse music => parseMusic threshold options showScore music

variable {options : Options} {work : Work} {showScore : Bool}

end Work

/-! ### The journal -/

variable {options : Options} {music : Text} {key meter : Text}

end MusicText.CommandLine
