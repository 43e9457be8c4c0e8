import MusicText.Intervals

/-!
Contract: modes and scales.

Owns: the two modes with their codes, and scales as patterns with a mode.

Does not own: keys, which add a root.
-/

namespace MusicText

open MusicText.Text

/-- The mode of a scale. -/
inductive Mode
  | major | minor
  deriving DecidableEq, Repr

namespace Mode

/-- The code of a mode: 1 leans to sharps, -1 leans to flats. -/
def code : Mode → Int
  | major => 1
  | minor => -1

/-- The mode of a code, where every code but 1 means minor. -/
def ofCode (code : Int) : Mode :=
  if code = 1 then major else minor

/-- The mode of a code that has to be one of the two. -/
def ofCodeStrict (code : Int) : Except Fault Mode :=
  if code = 1 then .ok major
  else if code = -1 then .ok minor
  else .error (.unknownMode code)

def word : Mode → Text
  | major => "major".toText
  | minor => "minor".toText

/-- The constant that names a mode, for diagnosis. -/
def label : Mode → Text
  | major => "MAJOR".toText
  | minor => "MINOR".toText

/-- The abbreviation of a mode in key names. -/
def abbreviation : Mode → Text
  | major => "maj".toText
  | minor => "min".toText

theorem ofCode_code (mode : Mode) : ofCode mode.code = mode := by
  cases mode <;> rfl

end Mode

/-- A mode together with its interval pattern. -/
structure Scale where
  tokens : List Text
  mode : Mode
  deriving DecidableEq, Repr

namespace Scale

def ofPattern (pattern : Text) (mode : Mode) : Scale :=
  ⟨words pattern, mode⟩

def ofMode : Mode → Scale
  | .major => ofPattern "1 2 3 4 5 6 7".toText .major
  | .minor => ofPattern "1 2 b3 4 5 b6 b7".toText .minor

/-- The lean of a scale's spelling: 1 to sharps, -1 to flats. -/
def disposition (scale : Scale) : Int :=
  scale.mode.code

/-- A scale with its components, for diagnosis. -/
def describe (scale : Scale) : Text :=
  "Scale(".toText ++ quoted (unwords scale.tokens) ++ ", ".toText ++ scale.mode.label ++ ")".toText

end Scale

end MusicText
