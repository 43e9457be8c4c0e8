import MusicText.Proofs.Interval.Naming
import MusicText.Proofs.Interval.Pattern

/-!
Contract: patterns as lists of gaps.

Owns: the pattern that names given gaps, the gaps of several half-steps above the first, and the
pattern of notes as that of their gaps.

Does not own: which patterns are of this kind; see `MusicText.Proofs.Interval.Normal`.

Gaps lie within an octave, so they forget by how many octaves two notes are apart, and they are
measured from the first note, so they forget where that is.
-/

namespace MusicText.Intervals

open MusicText.Text MusicText.Interval

/-- The pattern whose tokens name the given gaps. -/
def ofGaps (gaps : List PitchClass) : Intervals :=
  ⟨gaps.map name, none⟩

/-- The gaps of several half-steps above the first. -/
def gapsAbove : List Int → List PitchClass
  | [] => []
  | first :: later => (first :: later).map fun step => .ofInt (step - first)

theorem halfsteps_ofGaps (gaps : List PitchClass) :
    (ofGaps gaps).halfsteps = .ok (gaps.map PitchClass.toInt) := by
  rw [ofGaps, halfsteps_eq_ok_iff, List.forall₂_map_left_iff, List.forall₂_map_right_iff,
    List.forall₂_same]
  intro gap _
  exact halfsteps_name gap

theorem ofGaps_injective : Function.Injective ofGaps := by
  intro gaps others same
  exact List.map_injective_iff.2 name_injective (congrArg tokens same)

theorem length_gapsAbove (steps : List Int) : (gapsAbove steps).length = steps.length := by
  cases steps with
  | nil => rfl
  | cons first later => rw [gapsAbove, List.length_map]

theorem gapsAbove_cons (first : Int) (later : List Int) :
    gapsAbove (first :: later) = 0 :: later.map fun step => .ofInt (step - first) := by
  have unison : PitchClass.ofInt (first - first) = 0 := by
    rw [Int.sub_self]
    rfl
  rw [gapsAbove, List.map_cons, unison]

/-- Gaps that begin with the unison are the gaps of their own half-steps. -/
theorem gapsAbove_map_toInt (later : List PitchClass) :
    gapsAbove ((0 :: later).map PitchClass.toInt) = 0 :: later := by
  have own : ∀ gap : PitchClass, .ofInt (gap.toInt - PitchClass.toInt 0) = gap := by
    intro gap
    have zero : PitchClass.toInt 0 = 0 := rfl
    rw [zero, Int.sub_zero, PitchClass.ofInt_toInt]
  rw [List.map_cons, gapsAbove_cons, List.map_map]
  refine congrArg (0 :: ·) ?_
  conv_rhs => rw [← List.map_id later]
  apply List.map_congr_left
  intro gap _
  exact own gap

/-- Gaps do not depend on a common shift, nor on octaves. -/
theorem gapsAbove_of_shifted {shift : Int} {steps shifted : List Int}
    (moves : List.Forall₂ (fun step other => ∃ octaves, other = step + shift + 12 * octaves)
      steps shifted) : gapsAbove shifted = gapsAbove steps := by
  cases moves with
  | nil => rfl
  | @cons first beginning later others moved movesLater =>
      obtain ⟨octaves, rfl⟩ := moved
      rw [gapsAbove_cons, gapsAbove_cons]
      refine congrArg (0 :: ·) ?_
      induction movesLater with
      | nil => rfl
      | @cons step other _ _ movedStep _ inductionHypothesis =>
          obtain ⟨stepOctaves, rfl⟩ := movedStep
          have same : PitchClass.ofInt (step + shift + 12 * stepOctaves
              - (first + shift + 12 * octaves)) = .ofInt (step - first) := by
            apply Fin.ext
            simp only [PitchClass.ofInt]
            omega
          rw [List.map_cons, List.map_cons, same, inductionHypothesis]

theorem map_name_gapsAbove (first : Note) (later : List Note) :
    (gapsAbove ((first :: later).map Note.value)).map name
      = "1".toText :: later.map fun note => name (note.pitchClass - first.pitchClass) := by
  rw [List.map_cons, gapsAbove_cons, List.map_cons, name_zero, List.map_map, List.map_map]
  refine congrArg ("1".toText :: ·) (List.map_congr_left ?_)
  intro note _
  exact congrArg name (PitchClass.ofInt_sub_ofInt note.value first.value).symm

/-- The pattern of notes is that of their gaps. It is spelled by tokens without blanks, so its
text is cut where it was joined. -/
theorem ofNotes_eq_ofGaps (notes : List Note) :
    ofNotes notes = ofGaps (gapsAbove (notes.map Note.value)) := by
  cases notes with
  | nil => rfl
  | cons first later =>
      rw [ofNotes, ← map_name_gapsAbove, ofText, words_unwords]
      · rfl
      · intro token member
        obtain ⟨gap, -, rfl⟩ := List.mem_map.1 member
        exact solid_name gap

end MusicText.Intervals
