import MusicText.Files.Fault
import MusicText.Json.Reader
import MusicText.Settings
import MusicText.Text.Line

/-!
Contract: settings loaded from the text of a file.

Owns: what a settings file may hold, what is complained about, and what cannot be
loaded at all.

Does not own: the grammar of values; see `MusicText.Json.Reader`.

A file that holds something else than settings gives the defaults and one complaint.
Some cannot be loaded at all: an array or a string that does not hold the name of the
options, an integer with too many digits, and values within too many others.
-/

namespace MusicText.Settings

open MusicText.Text

/-- What a settings file is complained about for. -/
inductive Complaint
  /-- The text holds no value. -/
  | notAValue (refusal : Json.Refusal)
  /-- A value of this kind holds nothing under any name. -/
  | notAContainer (kind : Text)
  /-- An array holds nothing under a name. -/
  | arrayIndexed
  /-- A string holds nothing under a name. -/
  | stringIndexed
  /-- The options are a value of this kind, without names. -/
  | optionsNotNamed (kind : Text)
  /-- An option is refused. -/
  | optionRefused (refusal : Options.Refusal)
  deriving DecidableEq, Repr

namespace Complaint

def reason : Complaint → Text
  | notAValue refusal => refusal.message
  | notAContainer kind =>
      "argument of type '".toText ++ kind ++ "' is not iterable".toText
  | arrayIndexed => "list indices must be integers or slices, not str".toText
  | stringIndexed => "string indices must be integers, not 'str'".toText
  | optionsNotNamed kind =>
      "staccato_engine.config.ParserConfig() argument after ** must be a mapping, not ".toText
        ++ kind
  | optionRefused refusal => refusal.message

/-- A complaint as it is shown. -/
def message (complaint : Complaint) : Text :=
  "Could not load config file: ".toText ++ complaint.reason

end Complaint

/-- Why settings cannot be loaded at all. -/
inductive LoadFault
  /-- A value of this kind cannot be asked for a member. -/
  | noMembers (kind : Text)
  /-- A limit on values is exceeded. -/
  | limit (refusal : Json.Refusal)
  /-- The file is there but cannot be read. -/
  | file (fault : FileFault)
  deriving DecidableEq, Repr

namespace LoadFault

/-- The wording of a fault. -/
def message : LoadFault → Text
  | noMembers kind => "'".toText ++ kind ++ "' object has no attribute 'get'".toText
  | limit refusal => refusal.message
  | file fault => fault.message

end LoadFault

/-- Settings from the members of an object. The options are read first; when they are
refused, the level is not looked at. -/
def ofMembers (members : List (Text × Json)) : Except Complaint Settings :=
  let level := (Json.member? levelName members).getD ({} : Settings).logLevel
  match Json.member? optionsName members with
  | none => .ok ⟨{}, level⟩
  | some (.object named) =>
      match Options.ofMembers named with
      | .ok options => .ok ⟨options, level⟩
      | .error refusal => .error (.optionRefused refusal)
  | some other => .error (.optionsNotNamed other.kindName)

/-- Settings from a value. -/
def ofJson : Json → Except LoadFault (Except Complaint Settings)
  | .object members => .ok (ofMembers members)
  | .array items =>
      if Json.holdsString optionsName items then .ok (.error .arrayIndexed)
      else .error (.noMembers (Json.array items).kindName)
  | .string text =>
      if (indexOf? optionsName text).isSome then .ok (.error .stringIndexed)
      else .error (.noMembers (Json.string text).kindName)
  | other => .ok (.error (.notAContainer other.kindName))

/-- The most arrays and objects within each other that a settings file may have. -/
def nestingLimit : Nat := 987

/-- Settings from the text of a file. -/
def ofText (text : Text) : Except LoadFault (Except Complaint Settings) :=
  match Json.read nestingLimit text with
  | .ok value => ofJson value
  | .error refusal =>
      if refusal.isLimit then .error (.limit refusal) else .ok (.error (.notAValue refusal))

/-- The outcome of loading: settings, which are the defaults after a complaint. -/
structure Loaded where
  settings : Settings
  complaints : List Complaint

/-- Loads settings from the text of a file as it is stored, or the defaults when there is
no file. -/
def load : Option Text → Except LoadFault Loaded
  | none => .ok ⟨{}, []⟩
  | some text =>
      match ofText (unifyLineBreaks text) with
      | .error fault => .error fault
      | .ok (.ok settings) => .ok ⟨settings, []⟩
      | .ok (.error complaint) => .ok ⟨{}, [complaint]⟩

/-- Loads settings from the text of a file, unless the file cannot be read. -/
def loadStored : Except FileFault (Option Text) → Except LoadFault Loaded
  | .error fault => .error (.file fault)
  | .ok text? => load text?

end MusicText.Settings
