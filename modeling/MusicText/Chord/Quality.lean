import MusicText.Intervals

/-!
Contract: the qualities of chords.

Owns: the table of abbreviations and their interval patterns, and look-up in it.

Does not own: how a quality is cut off a chord name; see `MusicText.Chord`.
-/

namespace MusicText.Chord

open MusicText.Text

/-- The known qualities in upper case, each with its interval pattern. -/
def qualityPatterns : List (String × String) :=
  [("MAJ", "1 3 5"),
   ("MAJ6", "1 3 5 6"),
   ("MAJ7", "1 3 5 7"),
   ("MAJ9", "1 3 5 7 9"),
   ("ADD9", "1 3 5 9"),
   ("MAJ6%9", "1 3 5 6 9"),
   ("MAJ7%6", "1 3 5 6 7"),
   ("MAJ13", "1 3 5 7 9 13"),
   ("MIN", "1 b3 5"),
   ("MIN6", "1 b3 5 6"),
   ("MIN7", "1 b3 5 b7"),
   ("MIN9", "1 b3 5 b7 9"),
   ("MIN11", "1 b3 5 b7 9 11"),
   ("MIN7%11", "1 b3 5 b7 11"),
   ("MINADD9", "1 b3 5 9"),
   ("MIN6%9", "1 b3 5 6 9"),
   ("MINMAJ7", "1 b3 5 7"),
   ("MINMAJ9", "1 b3 5 7 9"),
   ("DOM7", "1 3 5 b7"),
   ("DOM7%6", "1 3 5 6 b7"),
   ("DOM7%11", "1 3 5 b7 11"),
   ("DOM7SUS", "1 4 5 b7"),
   ("DOM7%6SUS", "1 4 5 6 b7"),
   ("DOM9", "1 3 5 b7 9"),
   ("DOM11", "1 3 5 b7 9 11"),
   ("DOM13", "1 3 5 b7 9 13"),
   ("DOM13SUS", "1 3 5 b7 11 13"),
   ("DOM7<5", "1 3 b5 b7"),
   ("DOM7>5", "1 3 #5 b7"),
   ("DOM7<9", "1 3 5 b7 b9"),
   ("DOM7>9", "1 3 5 b7 #9"),
   ("AUG", "1 3 #5"),
   ("AUG7", "1 3 #5 b7"),
   ("DIM", "1 b3 b5"),
   ("DIM7", "1 b3 b5 6"),
   ("SUS2", "1 2 5"),
   ("SUS4", "1 4 5")]

/-- The known qualities with the tokens of their patterns. -/
def qualities : List (Text × List Text) :=
  qualityPatterns.map fun entry => (entry.1.toText, words entry.2.toText)

/-- The tokens of a quality that is written in upper case. -/
def qualityTokens? (quality : Text) : Option (List Text) :=
  qualities.lookup quality

/-- Whether one text stands before another in the order of code points. -/
def precedes : Text → Text → Bool
  | [], _ => true
  | _ :: _, [] => false
  | c :: first, d :: second => c.toNat < d.toNat || (c == d && precedes first second)

/-- The names of the known qualities in the order of code points. -/
def qualityNames : List Text :=
  (qualities.map Prod.fst).mergeSort precedes

end MusicText.Chord
