import MusicText.CommandLine.Arguments
import MusicText.Listener
import MusicText.Settings.Store

/-!
Contract: what the command line reports.

Owns: the two tasks of the command line, their reports, and how a run ends.

Does not own: the reading of arguments; see `MusicText.CommandLine.Arguments`. Files,
standard input and standard output belong to `MusicText.Main`.

A report is printed piece by piece, each when it has been computed. What is printed by the
time of a failure stays, and the journal ends with one error.
-/

namespace MusicText.CommandLine

open MusicText.Text

/-- The task that a request sets. -/
inductive Task
  /-- Resolve an interval pattern above a root, if there is one. -/
  | resolve (pattern : Text) (root : Option Text)
  /-- Parse the text of a file. -/
  | parseFile (path : Path)
  /-- Parse a text. -/
  | parseText (music : Text)
  /-- Parse what standard input holds. -/
  | parseInput
  deriving DecidableEq, Repr

/-- The task that a request sets. An interval pattern comes first, then a file, then a
text. An empty pattern or text counts as none. -/
def Request.task (request : Request) : Task :=
  match request.pattern with
  | some (c :: rest) => .resolve (c :: rest) request.root
  | _ =>
      match request.file with
      | some path => .parseFile path
      | none =>
          match request.music with
          | some (c :: rest) => .parseText (c :: rest)
          | _ => .parseInput

/-- What surrounds a run: the text of the settings file if there is one, the files by
path, and standard input. -/
structure Surroundings where
  settingsText : Except FileFault (Option Text)
  file : Path → Except FileFault Text
  input : Text

/-- The surroundings of a run in a tree of files. -/
def Surroundings.ofTree (files : FileTree) (input : Text) : Surroundings :=
  ⟨Settings.storedText? files Settings.homeFolder, files.read, input⟩

/-- Why a run breaks off without a report. -/
inductive Break
  /-- The settings cannot be loaded. -/
  | settings (fault : Settings.LoadFault)
  /-- A setting or a root is no text, or a computation has no result. -/
  | failure (cause : Failure)
  /-- The file cannot be read. -/
  | file (fault : FileFault)
  deriving DecidableEq, Repr

namespace Break

/-- The wording of a break. -/
def message : Break → Text
  | .settings fault => fault.message
  | .failure cause => cause.message
  | .file fault => fault.message

end Break

/-- How a run ends. -/
inductive Ending
  | success
  | reportedFailure
  | brokenOff (reason : Break)
  deriving DecidableEq, Repr

/-- A run: what is printed, the journal, and the ending. -/
structure Report where
  output : Text
  journal : Text
  ending : Ending
  deriving Repr

/-- The lines of the remarks that reach a threshold. -/
def journalOf (threshold : Int) (remarks : List Remark) : Text :=
  (remarks.filter (Remark.reaches threshold)).flatMap Remark.line

namespace Report

/-- A run that fails with a message, which ends the journal. -/
def failed (threshold : Int) (remarks : List Remark) (output message : Text) : Report :=
  ⟨output, journalOf threshold (remarks ++ [.runFailed message]), .reportedFailure⟩

/-- A run that breaks off. -/
def broken (threshold : Int) (remarks : List Remark) (output : Text) (reason : Break) : Report :=
  ⟨output, journalOf threshold remarks, .brokenOff reason⟩

/-- A report with something in front of its journal. -/
def behind (lines : Text) (report : Report) : Report :=
  { report with journal := lines ++ report.journal }

end Report

/-- What a task prints, and the failure that stops it, if one does. -/
structure Printout where
  output : Text
  failure? : Option Failure
  deriving DecidableEq, Repr

namespace Printout

/-- A task that fails before it prints anything. -/
def stopped (failure : Failure) : Printout :=
  ⟨[], some failure⟩

/-- Prints pieces one after the other. A piece that cannot be computed stops the task behind
what is printed by then. -/
def ofPieces : List (Except Fault Text) → Printout
  | [] => ⟨[], none⟩
  | .error fault :: _ => stopped (.fault fault)
  | .ok piece :: rest =>
      let later := ofPieces rest
      { later with output := piece ++ later.output }

/-- The report of a task. A failure that is not of the music breaks the run off. -/
def report (threshold : Int) (remarks : List Remark) (printout : Printout) : Report :=
  match printout.failure? with
  | none => ⟨printout.output, journalOf threshold remarks, .success⟩
  | some failure =>
      if failure.isOfMusic then .failed threshold remarks printout.output failure.message
      else .broken threshold remarks printout.output (.failure failure)

end Printout

def outputLine (text : Text) : Text :=
  text ++ "\n".toText

/-- A line that shows numbers, unless one of them has more digits than are written. -/
def numberedLine (numbers : List Int) (text : Text) : Except Fault Text :=
  if numbers.all Numeral.isWritable then .ok (outputLine text) else .error .integerTooLongToWrite

/-- The line of the half-steps. Each is counted in a token, so no token is long enough for
one that is not written. -/
def halfstepsLine (halfsteps : List Int) : Text :=
  outputLine ("Half-steps: ".toText ++ Decimal.ofList halfsteps)

/-- The line of the notes. -/
def notesLine (notes : List Note) : Text :=
  outputLine ("Notes:      ".toText ++ unwords (notes.map Note.toText))

/-- Resolves an interval pattern above a root. The root is read before the pattern, and the
pattern is read again for the notes. -/
def resolvePattern (pattern root : Text) : Printout :=
  match (Intervals.ofText pattern).withRootText root with
  | .error fault => .stopped (.fault fault)
  | .ok intervals =>
      .ofPieces [intervals.halfsteps.map halfstepsLine, intervals.notes.map notesLine]

/-- The listener of the command line: the events for the report, and the score. -/
def audience : Listener :=
  .group [.collector [], .builder .fresh]

/-- The events of the listener of the command line. -/
def eventsOf : Listener → List Event
  | .group [.collector events, _] => events
  | _ => []

/-- The score of the listener of the command line. -/
def scoreOf : Listener → Score
  | .group [_, .builder state] => state.score
  | _ => .empty

/-- The line of the key and the meter at the end of a parse. -/
def contextLine (context : Context) : Except Fault Text :=
  numberedLine [context.meter.numerator, context.meter.denominator]
    ("Key: ".toText ++ context.key.toText ++ "  Time: ".toText ++ context.meter.toText)

/-- Prints what a parse has come to: the events, the key and the meter at the end, and
perhaps the score, which shows no numbers but those of the events. -/
def printParsed (showScore : Bool) (listener : Listener) (context : Context) : Printout :=
  .ofPieces ((eventsOf listener).map (fun event => numberedLine event.numbers event.toText)
    ++ contextLine context :: if showScore then [.ok (scoreOf listener).toText] else [])

/-- Parses music and reports on it. The first thing a run remarks on is the number of
built-in identifiers. -/
def parseMusic (threshold : Int) (options : Options) (showScore : Bool) (music : Text) : Report :=
  let hearing := audience.hear ((Parser.usual options).run music)
  let remarks := .identifiersSeeded Definitions.seed.length :: hearing.remarks
  let printout :=
    match hearing.result with
    | .ok context => printParsed showScore hearing.listener context
    | .error failure => .stopped failure
  printout.report threshold remarks

/-- Carries out the task of a request. A root that was left without a value is an empty list
in place of a text. -/
def carryOut (threshold : Int) (options : Options) (request : Request)
    (surroundings : Surroundings) : Report :=
  match request.task with
  | .resolve _ none => .broken threshold [] [] (.failure (.notText "list".toText "strip".toText))
  | .resolve pattern (some root) => (resolvePattern pattern root).report threshold []
  | .parseFile path =>
      match surroundings.file path with
      | .ok text => parseMusic threshold options request.showScore (unifyLineBreaks text)
      | .error fault =>
          if fault.isOfName then .failed threshold [] [] fault.message
          else .broken threshold [] [] (.file fault)
  | .parseText music => parseMusic threshold options request.showScore music
  | .parseInput => parseMusic threshold options request.showScore surroundings.input

/-- Runs a request: loads the settings, finds the threshold of the journal, and carries
out the task. A complaint about the settings comes before the journal. -/
def run (request : Request) (surroundings : Surroundings) : Report :=
  match Settings.loadStored surroundings.settingsText with
  | .error fault => ⟨[], [], .brokenOff (.settings fault)⟩
  | .ok loaded =>
      let complaints := loaded.complaints.flatMap fun complaint => outputLine complaint.message
      let threshold :=
        if request.verbose then .ok Severity.debug.level else loaded.settings.threshold
      match threshold with
      | .error failure => ⟨[], complaints, .brokenOff (.failure failure)⟩
      | .ok threshold =>
          (carryOut threshold loaded.settings.options request surroundings).behind complaints

/-- The text that explains the command line. -/
def helpText : Text :=
  ("usage: staccato-engine [-h] [--file FILE] [--music21] [--intervals INTERVALS]\n"
    ++ "                       [--root ROOT] [-v]\n"
    ++ "                       [music]\n\n"
    ++ "Parse Staccato music text and work with interval patterns.\n\n"
    ++ "positional arguments:\n"
    ++ "  music                 Staccato text to parse\n\n"
    ++ "options:\n"
    ++ "  -h, --help            show this help message and exit\n"
    ++ "  --file FILE           Read Staccato text from a file\n"
    ++ "  --music21             Print the music21 stream\n"
    ++ "  --intervals INTERVALS\n"
    ++ "                        Interval pattern, e.g. \"1 b3 5\"\n"
    ++ "  --root ROOT           Root note for --intervals (default C)\n"
    ++ "  -v, --verbose         Enable debug logging\n").toText

end MusicText.CommandLine
