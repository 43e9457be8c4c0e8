import MusicText.Definitions
import MusicText.Failure
import MusicText.Key
import MusicText.Meter
import MusicText.Options

/-!
Contract: the state of one parse.

Owns: the key and the meter that are in force, the definitions, and the state that
a parse begins with.

Does not own: listeners, which receive what a parse says.
-/

namespace MusicText

/-- The state of one parse. -/
structure Context where
  key : Key
  meter : Meter
  definitions : Definitions
  deriving Repr

namespace Context

/-- An option that has to be a text, because of an operation on it. -/
def textOption (operation : String) : Json → Except Failure Text
  | .string text => .ok text
  | other => .error (.notText other.kindName operation.toText)

/-- The key that a parse begins with. -/
def initialKey (options : Options) : Except Failure Key :=
  match textOption "strip" options.key with
  | .error failure => .error failure
  | .ok name =>
      match Key.ofName name with
      | .error fault => .error (.fault fault)
      | .ok key => .ok key

/-- The meter that a parse begins with. -/
def initialMeter (options : Options) : Except Failure Meter :=
  match textOption "partition" options.meter with
  | .error failure => .error failure
  | .ok text =>
      match Meter.ofText text with
      | .error fault => .error (.fault fault)
      | .ok meter => .ok meter

/-- The state that a parse begins with. The key is read before the meter. -/
def ofOptions (options : Options) : Except Failure Context :=
  match initialKey options with
  | .error failure => .error failure
  | .ok key =>
      match initialMeter options with
      | .error failure => .error failure
      | .ok meter => .ok ⟨key, meter, .builtIn⟩

end Context

end MusicText
