import MusicText.Files.Path
import MusicText.Text.Blank
import MusicText.Text.DecimalDigit
import MusicText.Text.Quoted

/-!
Contract: the arguments of the command line.

Owns: the options, how arguments are told apart, and what they ask for.

Does not own: what is done about it; see `MusicText.CommandLine.Report`.

Arguments are first told apart, then read in order. A long option may be shortened
to a beginning that no other option shares, `--name=value` gives a value, short flags
may be run together, and `--` ends the options.
-/

namespace MusicText.CommandLine

open MusicText.Text

/-- The options. -/
inductive Flag
  | help | file | score | intervals | root | verbose
  deriving DecidableEq, Repr

namespace Flag

/-- The options in the order in which they are listed. -/
def all : List Flag :=
  [help, file, score, intervals, root, verbose]

def longName : Flag → Text
  | help => "--help".toText
  | file => "--file".toText
  | score => "--music21".toText
  | intervals => "--intervals".toText
  | root => "--root".toText
  | verbose => "--verbose".toText

def letter? : Flag → Option CodePoint
  | help => some 'h'
  | verbose => some 'v'
  | _ => none

/-- Whether an option demands a value. -/
def takesValue : Flag → Bool
  | file | intervals | root => true
  | help | score | verbose => false

def shortName? (flag : Flag) : Option Text :=
  flag.letter?.map fun letter => '-' :: [letter]

/-- The names of an option, as messages give them. -/
def names (flag : Flag) : Text :=
  match flag.shortName? with
  | some name => name ++ "/".toText ++ flag.longName
  | none => flag.longName

def ofLetter? (letter : CodePoint) : Option Flag :=
  all.find? fun flag => flag.letter? = some letter

/-- The option whose name is exactly this. -/
def ofName? (name : Text) : Option Flag :=
  all.find? fun flag =>
    flag.longName = name ∨ flag.shortName? = some name

/-- The options whose long name begins like this. -/
def beginningWith (opening : Text) : List Flag :=
  all.filter fun flag => opening.isPrefixOf flag.longName

end Flag

/-- Why arguments are refused. -/
inductive UsageFault
  | ambiguous (argument : Text) (candidates : List Flag)
  | valueMissing (flag : Flag)
  | valueIgnored (flag : Flag) (value : Text)
  | unrecognised (arguments : List Text)
  deriving DecidableEq, Repr

namespace UsageFault

/-- The wording of a refusal. -/
def message : UsageFault → Text
  | ambiguous argument candidates =>
      "ambiguous option: ".toText ++ argument ++ " could match ".toText
        ++ ", ".toText.intercalate (candidates.map Flag.longName)
  | valueMissing flag =>
      "argument ".toText ++ flag.names ++ ": expected one argument".toText
  | valueIgnored flag value =>
      "argument ".toText ++ flag.names ++ ": ignored explicit argument ".toText ++ quoted value
  | unrecognised arguments =>
      "unrecognized arguments: ".toText ++ unwords arguments

/-- The line that reports a refusal. -/
def line (fault : UsageFault) : Text :=
  "staccato-engine: error: ".toText ++ fault.message

end UsageFault

/-- The mark that ends the options. -/
def endOfOptions : Text := "--".toText

/-- What an argument is. -/
inductive Word
  /-- A value, or a text to parse. -/
  | plain (text : Text)
  /-- The mark that ends the options. -/
  | separator
  /-- An option by its long name, perhaps with a value behind an equals sign. -/
  | long (flag : Flag) (value : Option Text)
  /-- A flag by its letter, with what stands behind the letter, or behind an equals sign
  behind the letter, in the same argument. -/
  | short (flag : Flag) (tail : Option Text)
  /-- An option that does not exist. -/
  | unknown (text : Text)
  deriving DecidableEq, Repr

namespace Word

/-- Whether a text consists of decimal digits, at least one. -/
def allDigits (text : Text) : Bool :=
  text ≠ [] && text.all isDecimalDigit

/-- Whether an argument looks like a negative number. A line break may end it. -/
def looksNegative : Text → Bool
  | '-' :: body =>
      let body := if body.getLast? = some (.scalar '\n') then body.dropLast else body
      allDigits body ||
        match cutAt? '.' body with
        | some (whole, decimals) => whole.all isDecimalDigit && allDigits decimals
        | none => false
  | _ => false

/-- An option by its exact name, before an equals sign if there is one. -/
def named (flag : Flag) (exact : Text) (value : Option Text) : Word :=
  if exact = flag.longName then .long flag value else .short flag value

/-- An argument that begins with a hyphen and is no exact name. -/
def abbreviated (argument : Text) : Except UsageFault Word :=
  let otherwise : Word :=
    if looksNegative argument || argument.contains ' ' then .plain argument
    else .unknown argument
  match argument with
  | '-' :: '-' :: _ =>
      let (opening, value) :=
        match cutAt? '=' argument with
        | some (opening, value) => (opening, some value)
        | none => (argument, none)
      match Flag.beginningWith opening with
      | [] => .ok otherwise
      | [flag] => .ok (.long flag value)
      | candidates => .error (.ambiguous argument candidates)
  | '-' :: letter :: tail =>
      match Flag.ofLetter? letter with
      | some flag => .ok (.short flag (some tail))
      | none => .ok otherwise
  | _ => .ok otherwise

/-- What an argument before the mark that ends the options is. -/
def classify (argument : Text) : Except UsageFault Word :=
  if argument.head? ≠ some (.scalar '-') then .ok (.plain argument)
  else
    match Flag.ofName? argument with
    | some flag => .ok (named flag argument none)
    | none =>
        if argument.length = 1 then .ok (.plain argument)
        else
          match cutAt? '=' argument with
          | some (name, value) =>
              match Flag.ofName? name with
              | some flag => .ok (named flag name (some value))
              | none => abbreviated argument
          | none => abbreviated argument

/-- What the arguments are. Behind the mark that ends the options all are plain. -/
def classifyAll : List Text → Except UsageFault (List Word)
  | [] => .ok []
  | argument :: rest =>
      if argument = endOfOptions then .ok (.separator :: rest.map .plain)
      else
        match classify argument with
        | .error fault => .error fault
        | .ok word => (classifyAll rest).map (word :: ·)

/-- Drops the mark that ends the options if it comes first. -/
def skipSeparator : List Word → List Word
  | .separator :: rest => rest
  | words => words

theorem length_skipSeparator_le (words : List Word) :
    (skipSeparator words).length ≤ words.length := by
  unfold skipSeparator
  split <;> simp

end Word

/-- What the arguments ask for. -/
structure Request where
  /-- The text to parse. -/
  music : Option Text := none
  /-- The file that holds the text to parse. -/
  file : Option Path := none
  /-- Whether the score is shown. -/
  showScore : Bool := false
  /-- The interval pattern to resolve. -/
  pattern : Option Text := none
  /-- The root of the interval pattern. -/
  root : Option Text := some ['C']
  /-- Whether all remarks are shown. -/
  verbose : Bool := false
  deriving DecidableEq, Repr

/-- Where reading of arguments leads. -/
inductive Reading
  | help
  | request (request : Request)
  deriving DecidableEq, Repr

namespace Request

/-- A request with the value of an option, or with none in its place. -/
def withValue (request : Request) (flag : Flag) (value : Option Text) : Request :=
  match flag with
  | .file => { request with file := value.map Path.ofText }
  | .intervals => { request with pattern := value }
  | .root => { request with root := value }
  | .help | .score | .verbose => request

/-- A request with an option that has no value. -/
def withFlag (request : Request) (flag : Flag) : Request :=
  match flag with
  | .score => { request with showScore := true }
  | .verbose => { request with verbose := true }
  | .help | .file | .intervals | .root => request

end Request

/-- The value that stands behind an equals sign. The mark that ends the options is no value
even there. -/
def attachedValue (value : Text) : Option Text :=
  if value = endOfOptions then none else some value

/-- The state of reading: the request so far, whether the text to parse was met, and
the arguments that are not recognised. -/
structure Progress where
  request : Request := {}
  musicMet : Bool := false
  extras : List Text := []

/-- The flags that a run of letters stands for, when the letter of a flag has been read.
What follows the last letter of a flag is refused. -/
def readLetters (flag : Flag) : Text → Except UsageFault (List Flag)
  | [] => .ok [flag]
  | letter :: rest =>
      match Flag.ofLetter? letter with
      | none => .error (.valueIgnored flag (letter :: rest))
      | some next => (readLetters next rest).map (flag :: ·)

/-- The flags that an argument with a letter stands for. What an equals sign parts from the
letter is read like letters behind it, but must not be empty. -/
def readShort (flag : Flag) : Option Text → Except UsageFault (List Flag)
  | none => .ok [flag]
  | some [] => .error (.valueIgnored flag [])
  | some (letter :: rest) => readLetters flag (letter :: rest)

/-- Reads the arguments in order. Help is given as soon as it is asked for. -/
def readWords (progress : Progress) : List Word → Except UsageFault Reading
  | [] =>
      if progress.extras = [] then .ok (.request progress.request)
      else .error (.unrecognised progress.extras)
  | .unknown text :: rest =>
      readWords { progress with extras := progress.extras ++ [text] } rest
  | .long flag value :: rest =>
      if flag.takesValue then
        match value with
        | some value =>
            let request := progress.request.withValue flag (attachedValue value)
            readWords { progress with request := request } rest
        | none =>
            match _shape : rest with
            | .plain value :: others =>
                let request := progress.request.withValue flag (some value)
                readWords { progress with request := request } others
            | _ => .error (.valueMissing flag)
      else
        match value with
        | some value => .error (.valueIgnored flag value)
        | none =>
            if flag = .help then .ok .help
            else readWords { progress with request := progress.request.withFlag flag } rest
  | .short flag tail :: rest =>
      match readShort flag tail with
      | .error fault => .error fault
      | .ok flags =>
          if .help ∈ flags then .ok .help
          else
            readWords
              { progress with request := flags.foldl Request.withFlag progress.request } rest
  | .plain text :: rest =>
      if progress.musicMet then
        readWords { progress with extras := progress.extras ++ [text] } rest
      else
        let met := { progress with
          request := { progress.request with music := some text }, musicMet := true }
        have := Word.length_skipSeparator_le rest
        readWords met (Word.skipSeparator rest)
  | .separator :: rest =>
      if progress.musicMet then
        readWords { progress with extras := progress.extras ++ [endOfOptions] } rest
      else readWords progress rest
termination_by words => words.length

/-- What the arguments ask for. -/
def readArguments (arguments : List Text) : Except UsageFault Reading :=
  match Word.classifyAll arguments with
  | .error fault => .error fault
  | .ok words => readWords {} words

end MusicText.CommandLine
