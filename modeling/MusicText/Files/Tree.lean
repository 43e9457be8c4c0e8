import MusicText.Files.Fault

/-!
Contract: files and folders.

Owns: the tree of files and folders, the walk along a path, and the reading, making and
writing of what is at its end.

Does not own: what the texts of files mean.

A path is walked step by step. Every step but the last has to lead into a folder, and a
step to the parent of a file is as wrong as one to a child of it.
-/

namespace MusicText

open MusicText.Text

/-- A place in the tree: the names that lead to it from the root. -/
abbrev Place := List Text

/-- What is at a place. -/
inductive FileNode
  | folder
  | file (text : Text)
  deriving DecidableEq, Repr

/-- Files and folders by their places. -/
structure FileTree where
  nodes : List (Place × FileNode)
  deriving Repr

namespace FileTree

/-- The place of the working folder, which is the home folder too. Its own name is not
known, and no step can have the empty one. -/
def workingPlace : Place :=
  ["tmp".toText, []]

/-- The names of the folders at the root. -/
def rootFolders : List Text :=
  ["bin", "boot", "dev", "etc", "home", "lib", "media", "mnt", "opt", "proc", "root", "run",
   "sbin", "srv", "sys", "tmp", "usr", "var"].map String.toText

/-- The place of the file that is always empty. -/
def emptyDevice : Place :=
  ["dev".toText, "null".toText]

/-- The tree with an empty working folder. -/
def fresh : FileTree :=
  ⟨([], .folder) :: (workingPlace, .folder) :: (emptyDevice, .file [])
    :: rootFolders.map fun name => ([name], .folder)⟩

def node? (tree : FileTree) (place : Place) : Option FileNode :=
  tree.nodes.lookup place

/-- Puts something at a place, instead of what was there. -/
def put (tree : FileTree) (place : Place) (node : FileNode) : FileTree :=
  ⟨(place, node) :: tree.nodes.filter fun entry => entry.1 ≠ place⟩

/-- The most bytes of a name. -/
def longestName : Nat := 255

/-- The most bytes of a path. -/
def longestPath : Nat := 4095

/-- The step to a parent folder. -/
def parentStep : Text := "..".toText

/-- The place that a step leads to from a place, whether or not anything is there. -/
def step (tree : FileTree) (place : Place) (name : Text) : Except PathDefect Place :=
  match tree.node? place with
  | none => .error .missing
  | some (.file _) => .error .notAFolder
  | some .folder =>
      if longestName < byteLength name then .error .nameTooLong
      else if name = parentStep then .ok place.dropLast
      else .ok (place ++ [name])

/-- The place that steps lead to, whether or not anything is at the last one. -/
def walk (tree : FileTree) (place : Place) : List Text → Except PathDefect Place
  | [] => .ok place
  | name :: rest =>
      match tree.step place name with
      | .error defect => .error defect
      | .ok next => tree.walk next rest

/-- The place where a path begins. -/
def origin : Anchor → Place
  | .workingFolder => workingPlace
  | .root => []
  | .doubleRoot => []

/-- What keeps a path from being looked for at all. -/
def nameFault? (path : Path) : Option FileFault :=
  match nameSurrogates? path.toText with
  | some run => some (.surrogates run)
  | none =>
      if path.toText.contains '\x00' then some .nullInPath
      else if longestPath < byteLength path.toText then some (.ofPath .nameTooLong path)
      else none

/-- The place that a path leads to, whether or not anything is there. -/
def locate (tree : FileTree) (path : Path) : Except FileFault Place :=
  match nameFault? path with
  | some fault => .error fault
  | none => (tree.walk (origin path.anchor) path.steps).mapError (.ofPath · path)

/-- What a path leads to. -/
def find (tree : FileTree) (path : Path) : Except FileFault FileNode :=
  match tree.locate path with
  | .error fault => .error fault
  | .ok place =>
      match tree.node? place with
      | none => .error (.ofPath .missing path)
      | some node => .ok node

/-- Whether a path leads to something. A name that cannot be looked for leads nowhere, but
one that is too long is refused. -/
def holds (tree : FileTree) (path : Path) : Except FileFault Bool :=
  match tree.find path with
  | .ok _ => .ok true
  | .error (.ofPath .nameTooLong long) => .error (.ofPath .nameTooLong long)
  | .error _ => .ok false

/-- Whether a path leads to a folder. -/
def isFolder (tree : FileTree) (path : Path) : Bool :=
  match tree.find path with
  | .ok .folder => true
  | _ => false

/-- The text of the file that a path leads to. -/
def read (tree : FileTree) (path : Path) : Except FileFault Text :=
  match tree.find path with
  | .error fault => .error fault
  | .ok .folder => .error (.ofPath .folder path)
  | .ok (.file text) => .ok text

/-- Makes a folder in a folder that is there. -/
def makeFolder (tree : FileTree) (path : Path) : Except FileFault FileTree :=
  match tree.locate path with
  | .error fault => .error fault
  | .ok place =>
      match tree.node? place with
      | none => .ok (tree.put place .folder)
      | some _ => .error (.ofPath .taken path)

/-- Sees to it that there is a folder in a folder that is there. The result is the tree
afterwards, and the fault if there is one. -/
def ensureFolder (tree : FileTree) (path : Path) : FileTree × Option FileFault :=
  match tree.makeFolder path with
  | .ok made => (made, none)
  | .error fault => (tree, if tree.isFolder path then none else some fault)

/-- Sees to it that there is a folder, and folders on the way to it. Folders on the way stay
when the last one cannot be made. -/
def ensureFolders (tree : FileTree) (path : Path) : FileTree × Option FileFault :=
  match tree.ensureFolder path with
  | (_, some (.ofPath .missing missing)) =>
      if steps : path.steps = [] then (tree, some (.ofPath .missing missing))
      else
        have := Path.length_steps_parent steps
        match tree.ensureFolders path.parent with
        | (prepared, none) => prepared.ensureFolder path
        | failed => failed
  | result => result
termination_by path.steps.length

/-- Writes a file in a folder that is there, in place of a file that was there. -/
def write (tree : FileTree) (path : Path) (text : Text) : Except FileFault FileTree :=
  match contentSurrogates? text with
  | some run => .error (.surrogates run)
  | none =>
      match tree.locate path with
      | .error fault => .error fault
      | .ok place =>
          match tree.node? place with
          | some .folder => .error (.ofPath .folder path)
          | _ => .ok (tree.put place (.file text))

end FileTree

end MusicText
