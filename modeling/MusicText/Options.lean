import MusicText.Json.Value

/-!
Contract: the options of a parse.

Owns: the three options with their names and defaults, options from named values, and
the names that are refused.

Does not own: the files that options are read from; see `MusicText.Settings`.

Options may come from a file, so they hold any value. What they have to be is seen
when a parse begins.
-/

namespace MusicText

/-- The options of a parse. -/
structure Options where
  /-- Whether an unknown token is an error. -/
  strict : Json := .boolean false
  /-- The key before the first key token. -/
  key : Json := .string "Cmaj".toText
  /-- The meter before the first meter token. -/
  meter : Json := .string "4/4".toText
  deriving Repr

namespace Options

/-- The options under their names, in the order in which they are saved. -/
def members (options : Options) : List (Text × Json) :=
  [("throw_on_unknown_token".toText, options.strict),
   ("default_key".toText, options.key),
   ("default_time_signature".toText, options.meter)]

/-- Sets the option of a name, if there is one. -/
def set? (options : Options) (name : Text) (value : Json) : Option Options :=
  if name = "throw_on_unknown_token".toText then some { options with strict := value }
  else if name = "default_key".toText then some { options with key := value }
  else if name = "default_time_signature".toText then some { options with meter := value }
  else none

/-- Why a name is refused as that of an option. -/
inductive Refusal
  /-- No option has this name. -/
  | unknown (name : Text)
  /-- The name stands for the options as a whole. -/
  | reserved
  deriving DecidableEq, Repr

namespace Refusal

/-- The name that stands for the options as a whole. -/
def reservedName : Text := "self".toText

/-- The refusal of a name that is no option. -/
def ofName (name : Text) : Refusal :=
  if name = reservedName then reserved else unknown name

/-- The wording of a refusal. -/
def message : Refusal → Text
  | unknown name =>
      "ParserConfig.__init__() got an unexpected keyword argument '".toText ++ name ++ "'".toText
  | reserved =>
      "ParserConfig.__init__() got multiple values for argument '".toText ++ reservedName
        ++ "'".toText

end Refusal

/-- Sets options one after the other. The first name that is no option is refused. -/
def setAll (options : Options) : List (Text × Json) → Except Refusal Options
  | [] => .ok options
  | (name, value) :: rest =>
      match options.set? name value with
      | none => .error (.ofName name)
      | some changed => changed.setAll rest

/-- Sets the options among named values and passes over the other names. -/
def update (options : Options) (members : List (Text × Json)) : Options :=
  members.foldl (fun known entry => (known.set? entry.1 entry.2).getD known) options

/-- Options from named values over the defaults. -/
def ofMembers (members : List (Text × Json)) : Except Refusal Options :=
  setAll {} members

/-- Whether an unknown token is an error. -/
def isStrict (options : Options) : Bool :=
  options.strict.isTrue

end Options

end MusicText
