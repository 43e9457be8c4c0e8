import MusicText.Decimal
import MusicText.Files.Path
import MusicText.Text.Utf8

/-!
Contract: why files and folders are refused.

Owns: the causes with their numbers, the refusal of names that the system cannot take,
and their wording.

Does not own: which operation fails for which cause; see `MusicText.Files.Tree`.
-/

namespace MusicText

open MusicText.Text

/-- What is wrong with a path. -/
inductive PathDefect
  /-- Nothing is there. -/
  | missing
  /-- Something is there already. -/
  | taken
  /-- A step leads through a file. -/
  | notAFolder
  /-- A folder is there in place of a file. -/
  | folder
  /-- The name of a step, or the whole path, has too many bytes. -/
  | nameTooLong
  deriving DecidableEq, Repr

namespace PathDefect

def number : PathDefect → Nat
  | missing => 2
  | taken => 17
  | notAFolder => 20
  | folder => 21
  | nameTooLong => 36

def all : List PathDefect :=
  [missing, taken, notAFolder, folder, nameTooLong]

def ofNumber? (number : Nat) : Option PathDefect :=
  all.find? fun defect => defect.number = number

/-- The wording of a defect. -/
def phrase : PathDefect → Text
  | missing => "No such file or directory".toText
  | taken => "File exists".toText
  | notAFolder => "Not a directory".toText
  | folder => "Is a directory".toText
  | nameTooLong => "File name too long".toText

end PathDefect

/-- Why an operation on files fails. -/
inductive FileFault
  /-- A path has a defect. -/
  | ofPath (defect : PathDefect) (path : Path)
  /-- A path holds the code point U+0000. -/
  | nullInPath
  /-- A path or a text holds surrogates that cannot be encoded. -/
  | surrogates (run : SurrogateRun)
  deriving DecidableEq, Repr

namespace FileFault

/-- The wording of a fault. -/
def message : FileFault → Text
  | ofPath defect path =>
      "[Errno ".toText ++ Decimal.ofNat defect.number ++ "] ".toText ++ defect.phrase
        ++ ": ".toText ++ quoted path.toText
  | nullInPath => "embedded null byte".toText
  | surrogates run => run.message

/-- Whether a fault is one of the name itself, so that nothing was looked for. -/
def isOfName : FileFault → Bool
  | ofPath _ _ => false
  | nullInPath => true
  | surrogates _ => true

end FileFault

end MusicText
