import Mathlib.Data.Set.List
import MusicText.Proofs.Interval.Gaps

/-!
Contract: the normal form of a pattern.

Owns: patterns that begin with the unison and have only tokens within an octave, and what a
pattern becomes when it is resolved to notes and these are measured again.

Does not own: what notes become by way of a pattern; see `MusicText.Proofs.Interval.Measuring`.

The root drops out, because only the distances between the notes are measured. What remains of
a pattern are the gaps of its tokens above the first one within an octave, and every list of
gaps has one spelling.
-/

namespace MusicText.Intervals

open MusicText.Text MusicText.Interval

/-! ### Offsets -/

/-- How far each of several half-steps lies above the first, octaves left out. -/
def offsets : List Int → List Int
  | [] => []
  | first :: later => (first :: later).map fun step => (step - first) % 12

theorem map_toInt_gapsAbove (steps : List Int) :
    (gapsAbove steps).map PitchClass.toInt = offsets steps := by
  cases steps with
  | nil => rfl
  | cons first later =>
      rw [gapsAbove, offsets, List.map_map]
      apply List.map_congr_left
      intro step _
      exact PitchClass.toInt_ofInt (step - first)

theorem gapsAbove_eq_iff {steps others : List Int} :
    gapsAbove steps = gapsAbove others ↔ offsets steps = offsets others := by
  have distinct : Function.Injective PitchClass.toInt :=
    Function.LeftInverse.injective PitchClass.ofInt_toInt
  rw [← map_toInt_gapsAbove, ← map_toInt_gapsAbove]
  exact (List.map_injective_iff.2 distinct).eq_iff.symm

/-! ### Normal patterns -/

/-- Whether tokens are those of a pattern in normal form. -/
def Normal (tokens : List Text) : Prop :=
  ∃ later, tokens = "1".toText :: later ∧ ∀ token ∈ later, token ∈ names

theorem normal_iff {tokens : List Text} :
    Normal tokens ↔ ∃ later, tokens = (ofGaps (0 :: later)).tokens := by
  constructor
  · rintro ⟨later, rfl, named⟩
    have spelled : ∃ gaps : List PitchClass, later = gaps.map name := by
      have inRange : later ∈ Set.range (List.map name) := by
        rw [Set.range_list_map]
        intro token member
        exact mem_names_iff.1 (named token member)
      obtain ⟨gaps, same⟩ := inRange
      exact ⟨gaps, same.symm⟩
    obtain ⟨gaps, rfl⟩ := spelled
    exact ⟨gaps, by rw [ofGaps, List.map_cons, name_zero]⟩
  · rintro ⟨later, rfl⟩
    refine ⟨later.map name, by rw [ofGaps, List.map_cons, name_zero], ?_⟩
    intro token member
    obtain ⟨gap, -, rfl⟩ := List.mem_map.1 member
    exact mem_names_iff.2 ⟨gap, rfl⟩

/-! ### The way through notes -/

/-- The pattern of the notes above a root. -/
def reread (pattern : Intervals) (root : Note) : Except Fault Intervals :=
  (pattern.resolve root).map ofNotes

/-- A pattern that resolves becomes the pattern of its gaps, whatever the root. -/
theorem reread_of_steps {pattern : Intervals} {steps : List Int}
    (resolves : pattern.halfsteps = .ok steps) (root : Note) :
    pattern.reread root = .ok (ofGaps (gapsAbove steps)) := by
  let notes : List Note := steps.map fun step => ⟨root.value + step, none⟩
  have shifted : List.Forall₂ (fun step other => ∃ octaves, other = step + root.value + 12 * octaves)
      steps (notes.map Note.value) := by
    rw [List.map_map, List.forall₂_map_right_iff, List.forall₂_same]
    intro step _
    refine ⟨0, ?_⟩
    show root.value + step = step + root.value + 12 * 0
    omega
  rw [reread, resolve, resolves]
  show Except.ok (ofNotes notes) = _
  rw [ofNotes_eq_ofGaps, gapsAbove_of_shifted shifted]

/-- A normal pattern is what it becomes by way of notes. -/
theorem reread_of_normal {tokens : List Text} (normal : Normal tokens) (former : Option Note)
    (root : Note) : reread ⟨tokens, former⟩ root = .ok ⟨tokens, none⟩ := by
  obtain ⟨later, rfl⟩ := normal_iff.1 normal
  have resolves : halfsteps ⟨(ofGaps (0 :: later)).tokens, former⟩
      = .ok ((0 :: later).map PitchClass.toInt) := halfsteps_ofGaps (0 :: later)
  rw [reread_of_steps resolves, gapsAbove_map_toInt]
  rfl

theorem normal_ofGaps {pattern : Intervals} {steps : List Int}
    (nonempty : pattern.tokens ≠ []) (resolves : pattern.halfsteps = .ok steps) :
    Normal (ofGaps (gapsAbove steps)).tokens := by
  cases steps with
  | nil =>
      have lengths := (halfsteps_eq_ok_iff.1 resolves).length_eq
      exact absurd (List.length_eq_zero_iff.1 lengths) nonempty
  | cons first later =>
      rw [gapsAbove_cons]
      exact normal_iff.2 ⟨_, rfl⟩

/-- A pattern that resolves becomes by way of notes, from any root alike, a pattern of as many
tokens in normal form, whose half-steps are those of the pattern above its first token within an
octave. Nothing that is in normal form is changed, and two patterns become the same exactly when
their half-steps above their first tokens agree up to octaves. -/
theorem reread_normalizes {pattern : Intervals} {steps : List Int}
    (nonempty : pattern.tokens ≠ []) (resolves : pattern.halfsteps = .ok steps) :
    (∃ normal : Intervals, (∀ root, pattern.reread root = .ok normal)
        ∧ normal.size = pattern.size
        ∧ normal.halfsteps = .ok (offsets steps)
        ∧ Normal normal.tokens
        ∧ ∀ root, normal.reread root = .ok normal)
      ∧ (∀ tokens, Normal tokens → ∀ former root, reread ⟨tokens, former⟩ root = .ok ⟨tokens, none⟩)
      ∧ ∀ (other : Intervals) (otherSteps : List Int), other.halfsteps = .ok otherSteps →
          ∀ root otherRoot,
            (pattern.reread root = other.reread otherRoot ↔ offsets steps = offsets otherSteps) := by
  refine ⟨⟨ofGaps (gapsAbove steps), reread_of_steps resolves, ?size, ?halfsteps, ?normal, ?again⟩,
    fun _ => reread_of_normal, ?same⟩
  case size =>
    have lengths := (halfsteps_eq_ok_iff.1 resolves).length_eq
    rw [size, size, lengths, ofGaps, List.length_map, length_gapsAbove]
  case halfsteps =>
    rw [halfsteps_ofGaps, map_toInt_gapsAbove]
  case normal =>
    exact normal_ofGaps nonempty resolves
  case again =>
    intro root
    exact reread_of_normal (normal_ofGaps nonempty resolves) none root
  case same =>
    intro other otherSteps otherResolves root otherRoot
    rw [reread_of_steps resolves, reread_of_steps otherResolves, Except.ok.injEq,
      ofGaps_injective.eq_iff, gapsAbove_eq_iff]

theorem reread_normalizes_sample :
    let pattern : Intervals := ofText "b3 #11 13bb 2".toText
    pattern.tokens ≠ [] ∧ pattern.halfsteps = .ok [3, 18, 19, 2]
      ∧ (∃ normal : Intervals, (∀ root, pattern.reread root = .ok normal)
        ∧ normal.halfsteps = .ok [0, 3, 4, 11]) := by
  intro pattern
  have nonempty : pattern.tokens ≠ [] := by decide
  have resolves : pattern.halfsteps = .ok [3, 18, 19, 2] := by rfl
  obtain ⟨normal, becomes, -, halfsteps, -⟩ := (reread_normalizes nonempty resolves).1
  exact ⟨nonempty, resolves, normal, becomes, halfsteps⟩

end MusicText.Intervals
