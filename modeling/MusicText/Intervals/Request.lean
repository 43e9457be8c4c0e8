import MusicText.Intervals

/-!
Contract: requests to a pattern.

Owns: what may be asked of a pattern, what it answers, and the pattern behind the answer.

Does not own: rotation, resolution and the reading of tokens; see `MusicText.Intervals`.

A pattern is kept from one request to the next. What fails leaves no trace in it.
-/

namespace MusicText

namespace Intervals

/-- What may be asked of a pattern. -/
inductive Request
  /-- To rotate to the left, to the right for a negative amount. -/
  | rotate (amount : Int)
  /-- To take a note for the root. -/
  | setRoot (root : Note)
  /-- To take the note that a text names for the root. -/
  | setRootText (text : Text)
  /-- The notes above the root that is set. -/
  | notes
  /-- The notes above another root. -/
  | resolve (root : Note)
  /-- The half-steps of all tokens. -/
  | halfsteps
  /-- The token at an index. -/
  | token (index : Int)
  deriving DecidableEq, Repr

/-- What a pattern answers. -/
inductive Answer
  /-- The pattern has changed as asked. -/
  | done
  | notes (notes : List Note)
  | halfsteps (steps : List Int)
  | token (token : Text)
  deriving DecidableEq, Repr

/-- The pattern behind a request, and its answer. -/
def serve (pattern : Intervals) : Request → Intervals × Except Fault Answer
  | .rotate amount => (pattern.rotate amount, .ok .done)
  | .setRoot root => (pattern.withRoot root, .ok .done)
  | .setRootText text =>
      match pattern.withRootText text with
      | .ok rooted => (rooted, .ok .done)
      | .error fault => (pattern, .error fault)
  | .notes => (pattern, pattern.notes.map .notes)
  | .resolve root => (pattern, (pattern.resolve root).map .notes)
  | .halfsteps => (pattern, pattern.halfsteps.map .halfsteps)
  | .token index => (pattern, (pattern.nth index).map .token)

/-- The pattern behind several requests, one after the other. -/
def serveEach (pattern : Intervals) : List Request → Intervals
  | [] => pattern
  | request :: later => (pattern.serve request).1.serveEach later

end Intervals

end MusicText
