import MusicText.CommandLine.Report

/-!
Contract: the program.

Owns: arguments, files, standard input and standard output.

Does not own: any decision about them; see `MusicText.CommandLine.Report`.
-/

namespace MusicText

open MusicText.CommandLine

/-- The fault that the system reports for a path. -/
def faultOf (path : Path) (error : IO.Error) : IO FileFault :=
  match error with
  | .noFileOrDirectory _ _ _ => return .ofPath .missing path
  | .inappropriateType _ number _ | .invalidArgument _ number _
  | .resourceExhausted _ number _ | .otherError number _ =>
      match PathDefect.ofNumber? number.toNat with
      | some defect => return .ofPath defect path
      | none => throw error
  | _ => throw error

/-- The text of a file. The path is looked for under another folder than the working one
if one is given. -/
def readFile (folder : String) (path : Path) : IO (Except FileFault Text) := do
  match FileTree.nameFault? path with
  | some fault => return .error fault
  | none =>
      try
        let text ← IO.FS.readFile (folder ++ Text.toShown path.toText)
        return .ok text.toText
      catch error => return .error (← faultOf path error)

/-- The text of the settings file in the home folder, if there is one. -/
def readSettings : IO (Except FileFault (Option Text)) := do
  match ← IO.getEnv "HOME" with
  | none => return .ok none
  | some home =>
      match ← readFile (home ++ "/") (Settings.homeFolder.child Settings.fileName) with
      | .ok text => return .ok (some text)
      | .error (.ofPath .missing _) => return .ok none
      | .error (.ofPath .notAFolder _) => return .ok none
      | .error fault => return .error fault

/-- What a request needs of its surroundings. Standard input is read only if it is the
text to parse. -/
def gather (request : Request) : IO Surroundings := do
  let settingsText ← readSettings
  match request.task with
  | .parseFile path =>
      let content ← readFile "" path
      return ⟨settingsText, fun _ => content, []⟩
  | .parseInput =>
      let input ← (← IO.getStdin).readToEnd
      return ⟨settingsText, fun path => .error (.ofPath .missing path), input.toText⟩
  | .resolve _ _ | .parseText _ =>
      return ⟨settingsText, fun path => .error (.ofPath .missing path), []⟩

/-- Prints a report and returns the exit code. -/
def present (report : Report) : IO UInt32 := do
  IO.print (Text.toShown report.output)
  IO.eprint (Text.toShown report.journal)
  match report.ending with
  | .success => return 0
  | .reportedFailure => return 1
  | .brokenOff reason =>
      IO.eprintln (Text.toShown reason.message)
      return 1

end MusicText

open MusicText MusicText.CommandLine in
/-- Parses music text or resolves an interval pattern, as the arguments say. -/
def main (arguments : List String) : IO UInt32 := do
  match readArguments (arguments.map String.toText) with
  | .error fault =>
      IO.eprintln (Text.toShown fault.line)
      return 2
  | .ok .help =>
      IO.print (Text.toShown helpText)
      return 0
  | .ok (.request request) => present (CommandLine.run request (← gather request))
