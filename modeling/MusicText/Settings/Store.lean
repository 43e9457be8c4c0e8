import MusicText.Files.Tree
import MusicText.Settings.Loading

/-!
Contract: settings and the files that keep them.

Owns: profiles, the profile in use, the shared profile, and what loading, changing,
saving and resetting do to them and to the files.

Does not own: what the text of a file means; see `MusicText.Settings.Loading`. Files and
folders as such; see `MusicText.Files.Tree`.

The shared profile is loaded from the home folder when it is first asked for. Once it
is in use, changes to the profile in use are changes to the shared one, until the
shared one is replaced or another profile is loaded.
-/

namespace MusicText.Settings

open MusicText.Text

/-- The folder in the home folder that keeps settings. -/
def homeFolder : Path := .ofText ".staccato_engine".toText

def fileName : Text := "config.json".toText

/-- The text of a settings file, if there is one. -/
def storedText? (files : FileTree) (folder : Path) : Except FileFault (Option Text) :=
  let path := folder.child fileName
  match files.holds path with
  | .error fault => .error fault
  | .ok false => .ok none
  | .ok true => (files.read path).map some

/-- Settings with the folder that they are kept in. -/
structure Profile where
  settings : Settings
  folder : Path
  deriving Repr

namespace Profile

/-- The defaults, kept in the home folder. -/
def initial : Profile :=
  ⟨{}, homeFolder⟩

/-- The path of the file that keeps a profile. -/
def path (profile : Profile) : Path :=
  profile.folder.child fileName

end Profile

/-- Files, the profile in use, and the shared profile once it is loaded. -/
structure Store where
  files : FileTree
  own : Profile
  shared : Option Profile
  /-- Whether the shared profile is in use. -/
  sharing : Bool
  deriving Repr

namespace Store

/-- A store without settings files. -/
def empty : Store :=
  ⟨.fresh, .initial, none, false⟩

/-- The profile in use. -/
def profile (store : Store) : Profile :=
  if store.sharing then store.shared.getD store.own else store.own

/-- Replaces the profile in use by a changed one. -/
def change (store : Store) (edit : Settings → Settings) : Store :=
  let changed : Profile := { store.profile with settings := edit store.profile.settings }
  if store.sharing then { store with shared := some changed } else { store with own := changed }

/-- Puts a text into the settings file of a folder, which is made if need be. The result
is the store afterwards, and the fault if there is one. -/
def putFile (store : Store) (folder : Path) (text : Text) : Store × Option FileFault :=
  match store.files.ensureFolders folder with
  | (prepared, some fault) => ({ store with files := prepared }, some fault)
  | (prepared, none) =>
      match prepared.write (folder.child fileName) text with
      | .error fault => ({ store with files := prepared }, some fault)
      | .ok written => ({ store with files := written }, none)

/-- The text of the settings file of a folder, as it is stored. -/
def fileText (store : Store) (folder : Path) : Except FileFault Text :=
  store.files.read (folder.child fileName)

/-- The profile that a folder keeps, and the complaints about its file. -/
def loadFolder (store : Store) (folder : Path) : Except LoadFault (Profile × List Complaint) :=
  match loadStored (storedText? store.files folder) with
  | .error fault => .error fault
  | .ok loaded => .ok (⟨loaded.settings, folder⟩, loaded.complaints)

/-- Takes a profile into use that is not the shared one. -/
def adopt (store : Store) (profile : Profile) : Store :=
  { store with own := profile, sharing := false }

/-- Loads the profile that a folder keeps and takes it into use. -/
def loadFrom (store : Store) (folder : Path) : Except LoadFault (Store × List Complaint) :=
  match store.loadFolder folder with
  | .error fault => .error fault
  | .ok (profile, complaints) => .ok (store.adopt profile, complaints)

/-- Takes the shared profile into use, loading it from the home folder if need be. -/
def share (store : Store) : Except LoadFault (Store × List Complaint) :=
  match store.shared with
  | some _ => .ok ({ store with sharing := true }, [])
  | none =>
      match store.loadFolder homeFolder with
      | .error fault => .error fault
      | .ok (profile, complaints) =>
          .ok ({ store with shared := some profile, sharing := true }, complaints)

/-- Saves the profile in use in its folder. -/
def save (store : Store) : Store × Option FileFault :=
  store.putFile store.profile.folder store.profile.settings.savedText

/-- Makes the defaults the shared profile. The profile in use stays as it is and is shared
no longer. -/
def unshare (store : Store) : Store :=
  { store with own := store.profile, shared := some .initial, sharing := false }

/-- Makes the defaults the shared profile and saves them. When they cannot be saved they
are the shared profile all the same. -/
def reset (store : Store) : Store × Option FileFault :=
  store.unshare.putFile homeFolder ({} : Settings).savedText

end Store

end MusicText.Settings
