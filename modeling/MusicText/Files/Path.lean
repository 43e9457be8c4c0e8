import MusicText.Text.Basic

/-!
Contract: paths of files and folders.

Owns: the reading and the writing of paths, and the steps to a child and to the parent.

Does not own: what a path leads to; see `MusicText.Files.Tree`.

A path keeps its steps to a parent folder, because what they lead to depends on the
folders that are there.
-/

namespace MusicText

open MusicText.Text

/-- Where a path begins. A path with exactly two slashes in front keeps them, though it
begins at the root too. -/
inductive Anchor
  | workingFolder | root | doubleRoot
  deriving DecidableEq, Repr

namespace Anchor

/-- The slashes in front of a path. -/
def slashes : Anchor → Text
  | workingFolder => []
  | root => "/".toText
  | doubleRoot => "//".toText

/-- The anchor of a path with so many slashes in front. -/
def ofCount : Nat → Anchor
  | 0 => workingFolder
  | 2 => doubleRoot
  | _ => root

end Anchor

/-- A path: where it begins, and the names of the steps from there. -/
structure Path where
  anchor : Anchor
  steps : List Text
  deriving DecidableEq, Repr

namespace Path

/-- Whether a piece between slashes is a step: it is neither empty nor a single point. -/
def isStep (piece : Text) : Bool :=
  piece ≠ [] && piece ≠ ".".toText

/-- The path that a text denotes. Empty steps and single points are dropped. -/
def ofText (text : Text) : Path :=
  ⟨.ofCount (text.takeWhile (· == .scalar '/')).length, (pieces (· == '/') text).filter isStep⟩

/-- A path as text. The working folder is a single point. -/
def toText (path : Path) : Text :=
  let text := path.anchor.slashes ++ "/".toText.intercalate path.steps
  if text = [] then ".".toText else text

def child (folder : Path) (name : Text) : Path :=
  { folder with steps := folder.steps ++ [name] }

/-- A path without its last step. -/
def parent (path : Path) : Path :=
  { path with steps := path.steps.dropLast }

/-- The parent of a path with steps has fewer of them. -/
theorem length_steps_parent {path : Path} (nonempty : path.steps ≠ []) :
    path.parent.steps.length < path.steps.length := by
  have positive := List.length_pos_iff.2 nonempty
  simp only [parent, List.length_dropLast]
  omega

end Path

end MusicText
