import MusicText.Fault

/-!
Contract: the journal of a run.

Owns: what is remarked on, how severe a remark is, who makes it, and its wording.

Does not own: which remarks are shown; see `MusicText.CommandLine.Report`.
-/

namespace MusicText

open MusicText.Text

/-- How severe a remark is. -/
inductive Severity
  | debug | warning | error
  deriving DecidableEq, Repr

namespace Severity

/-- The number that thresholds compare with. -/
def level : Severity → Int
  | debug => 10
  | warning => 30
  | error => 40

/-- The word that begins a line of the journal. -/
def word : Severity → Text
  | debug => "DEBUG".toText
  | warning => "WARNING".toText
  | error => "ERROR".toText

end Severity

/-- A remark that is made in the course of a run. -/
inductive Remark
  /-- The built-in identifiers were collected. -/
  | identifiersSeeded (count : Nat)
  /-- A recogniser takes over the text that begins like this. -/
  | tokenClaimed (recogniser opening : Text)
  /-- No recogniser takes the token. -/
  | tokenUnknown (token : Text)
  /-- A key is read from its accidentals. -/
  | accidentalsCounted (signature : Text) (count : Int) (tonic : Text)
  /-- A voice gets its part of the score. -/
  | partCreated (track : Int)
  /-- The score has no sound for a program. -/
  | soundMissing (program : Int) (fault : Fault)
  /-- The score refuses a meter. -/
  | meterRefused (numerator denominator : Int) (fault : Fault)
  /-- The run has failed. -/
  | runFailed (message : Text)
  deriving DecidableEq, Repr

namespace Remark

/-- How severe a remark is. -/
def severity : Remark → Severity
  | identifiersSeeded _ | tokenClaimed _ _ | accidentalsCounted _ _ _ | partCreated _ => .debug
  | tokenUnknown _ | soundMissing _ _ | meterRefused _ _ _ => .warning
  | runFailed _ => .error

/-- Who makes a remark. -/
def source : Remark → Text
  | identifiersSeeded _ => "staccato_engine.parser.ivl".toText
  | tokenClaimed _ _ | tokenUnknown _ => "staccato_engine.parser.staccato_parser".toText
  | accidentalsCounted _ _ _ => "staccato_engine.parser.signature".toText
  | partCreated _ | soundMissing _ _ | meterRefused _ _ _ =>
      "staccato_engine.export.stream_builder".toText
  | runFailed _ => "staccato_engine.main".toText

/-- The wording of a remark. -/
def message : Remark → Text
  | identifiersSeeded count =>
      "Seeded ".toText ++ Decimal.ofNat count ++ " identifiers".toText
  | tokenClaimed recogniser opening =>
      recogniser ++ " claims ".toText ++ quoted opening
  | tokenUnknown token => "Unknown token: ".toText ++ token
  | accidentalsCounted signature count tonic =>
      "Key signature ".toText ++ signature ++ " has ".toText ++ Decimal.ofInt count
        ++ " accidentals: ".toText ++ tonic ++ " major".toText
  | partCreated track => "Created part for voice ".toText ++ Decimal.ofInt track
  | soundMissing program fault =>
      "No music21 instrument for program ".toText ++ Decimal.ofInt program
        ++ ": ".toText ++ fault.message
  | meterRefused numerator denominator fault =>
      "music21 rejected time signature ".toText ++ Decimal.ofInt numerator ++ "/".toText
        ++ Decimal.ofInt denominator ++ ": ".toText ++ fault.message
  | runFailed message => message

def line (remark : Remark) : Text :=
  remark.severity.word ++ " ".toText ++ remark.source ++ ": ".toText ++ remark.message ++ "\n".toText

/-- Whether a remark is shown at a threshold. -/
def reaches (threshold : Int) (remark : Remark) : Bool :=
  threshold ≤ remark.severity.level

end Remark

end MusicText
