import MusicText.Context
import MusicText.Json.Writer
import MusicText.Text.UpperCase

/-!
Contract: settings.

Owns: the settings with their defaults, the threshold of the journal that they name,
and their saved text.

Does not own: how settings are loaded, and where they are kept; see
`MusicText.Settings.Loading` and `MusicText.Settings.Store`.
-/

namespace MusicText

open MusicText.Text

/-- Options of a parse and the level of the journal. Both may hold any value until
they are used. -/
structure Settings where
  options : Options := {}
  logLevel : Json := .string "WARNING".toText
  deriving Repr

namespace Settings

/-- The name of the member that holds the options. -/
def optionsName : Text := "parser".toText

/-- The name of the member that holds the level of the journal. -/
def levelName : Text := "log_level".toText

/-- Settings as a value. -/
def toJson (settings : Settings) : Json :=
  .object [(optionsName, .object settings.options.members), (levelName, settings.logLevel)]

/-- The text that is saved. -/
def savedText (settings : Settings) : Text :=
  settings.toJson.toText

/-- The named thresholds of the journal. -/
def thresholds : List (String × Int) :=
  [("NOTSET", 0), ("DEBUG", 10), ("INFO", 20), ("WARN", 30), ("WARNING", 30), ("ERROR", 40),
   ("FATAL", 50), ("CRITICAL", 50)]

/-- The threshold of a level name in any case. An unknown name means warnings. -/
def thresholdOf (name : Text) : Int :=
  match thresholds.find? fun entry => entry.1.toText = upper name with
  | some entry => entry.2
  | none => 30

/-- The threshold that settings name. -/
def threshold (settings : Settings) : Except Failure Int :=
  (Context.textOption "upper" settings.logLevel).map thresholdOf

end Settings

end MusicText
