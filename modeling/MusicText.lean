import MusicText.Comparison
import MusicText.Main
import MusicText.Proofs.Parse.Failure
import MusicText.Proofs.Parse.Rewriting
import MusicText.Proofs.Score.Building
import MusicText.Session
import MusicText.Proofs.Token.Reading
import MusicText.Proofs.Listener.Renewal
import MusicText.Proofs.Parse.Leniency
import MusicText.Proofs.Parse.Spacing
import MusicText.Proofs.Key.Fifths
import MusicText.Proofs.Parse.Rendering
import MusicText.Proofs.Listener.Pairing
import MusicText.Proofs.Parse.Views
import MusicText.Proofs.Parse.Refusal
import MusicText.Proofs.CommandLine.Printing
import MusicText.Proofs.Listener.Remarks
import MusicText.Proofs.CommandLine.Completeness
import MusicText.Proofs.Interval.Normal
import MusicText.Proofs.Interval.Measuring
import MusicText.Proofs.Interval.Degree
import MusicText.Proofs.Interval.Printing
import MusicText.Proofs.Parse.Dispatch
import MusicText.Proofs.Parse.Classification
import MusicText.Proofs.Listener.Registration
import MusicText.Proofs.Interval.History
import MusicText.Proofs.Note.Printing
import MusicText.Proofs.Note.Reading
import MusicText.Proofs.Chord.Reading
import MusicText.Proofs.Chord.Third
import MusicText.Proofs.Token.KeyText
import MusicText.Proofs.Parse.Counting
import MusicText.Proofs.Parse.Metering
import MusicText.Proofs.Token.Identifier
import MusicText.Proofs.Settings.Loading
