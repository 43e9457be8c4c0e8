import MusicText.Proofs.Interval.Gaps

/-!
Contract: notes that are measured and sounded again.

Owns: the pattern of notes resolved above the first of them, and the moves of notes that leave
their pattern as it is.

Does not own: what a pattern becomes by way of notes; see `MusicText.Proofs.Interval.Normal`.

All notes come back in the octave above the first one, each with its pitch class. So octaves are
lost, and the pattern cannot tell notes that differ by octaves or by a common transposition.
-/

namespace MusicText.Intervals

open MusicText.Text MusicText.Interval

/-- A note above another one by the gap between their pitch classes. -/
def raised (first note : Note) : Note :=
  ⟨first.value + (PitchClass.ofInt (note.value - first.value)).toInt, none⟩

theorem value_raised (first note : Note) :
    (raised first note).value = first.value + (note.value - first.value) % 12 := by
  rw [raised, PitchClass.toInt_ofInt]

theorem pitchClass_raised (first note : Note) : (raised first note).pitchClass = note.pitchClass := by
  apply Fin.ext
  simp only [Note.pitchClass, PitchClass.ofInt, value_raised]
  omega

theorem raised_self (first : Note) : raised first first = ⟨first.value, none⟩ := by
  have same : (raised first first).value = first.value := by
    rw [value_raised]
    omega
  rw [← same]
  rfl

/-- The pattern of notes is resolved above any of them to the notes raised above it. -/
theorem resolve_ofNotes (first : Note) (later : List Note) :
    (ofNotes (first :: later)).resolve first
      = .ok ((first :: later).map (raised first)) := by
  have gaps : gapsAbove ((first :: later).map Note.value)
      = (first :: later).map fun note => .ofInt (note.value - first.value) := by
    rw [List.map_cons, gapsAbove, ← List.map_cons, List.map_map]
    rfl
  rw [ofNotes_eq_ofGaps, resolve, halfsteps_ofGaps, gaps]
  simp only [Except.map, List.map_map]
  rfl

/-- Every gap of a list of notes above the first has a token, and the tokens make up a pattern
that sounds above the first note like the notes up to octaves: as many notes, the first of them
unchanged, each of the same pitch class, and none a full octave above the first. The pattern does
not change when the notes are transposed together or moved by octaves one by one. -/
theorem ofNotes_keeps_pitchClasses (first : Note) (later : List Note) :
    let notes := first :: later
    (∃ tokens, (ofNotes notes).tokens = "1".toText :: tokens
        ∧ List.Forall₂ (fun note token =>
            name? (note.pitchClass - first.pitchClass).toInt = some token) later tokens)
      ∧ (∃ heard others, (ofNotes notes).resolve first = .ok heard
        ∧ heard.length = notes.length
        ∧ heard = ⟨first.value, none⟩ :: others
        ∧ List.Forall₂ (fun note sounding => sounding.pitchClass = note.pitchClass) notes heard
        ∧ ∀ sounding ∈ heard,
            first.value ≤ sounding.value ∧ sounding.value ≤ first.value + 11)
      ∧ ∀ (shift : Int) (moved : List Note),
          List.Forall₂ (fun note other => ∃ octaves, other.value = note.value + shift + 12 * octaves)
            notes moved → ofNotes moved = ofNotes notes := by
  intro notes
  refine ⟨⟨later.map fun note => name (note.pitchClass - first.pitchClass), ?spelled, ?named⟩,
    ⟨notes.map (raised first), later.map (raised first), resolve_ofNotes first later, ?length,
      ?first, ?classes, ?within⟩, ?moved⟩
  case spelled =>
    rw [ofNotes_eq_ofGaps, ofGaps, map_name_gapsAbove]
  case named =>
    rw [List.forall₂_map_right_iff, List.forall₂_same]
    intro note _
    exact name?_eq_name _
  case length =>
    exact List.length_map _
  case first =>
    rw [List.map_cons, raised_self]
  case classes =>
    rw [List.forall₂_map_right_iff, List.forall₂_same]
    intro note _
    exact pitchClass_raised first note
  case within =>
    intro sounding member
    obtain ⟨note, -, rfl⟩ := List.mem_map.1 member
    rw [value_raised]
    omega
  case moved =>
    intro shift moved moves
    rw [ofNotes_eq_ofGaps, ofNotes_eq_ofGaps, gapsAbove_of_shifted]
    rw [List.forall₂_map_left_iff, List.forall₂_map_right_iff]
    exact moves

theorem ofNotes_keeps_pitchClasses_sample :
    let first : Note := ⟨-3, none⟩
    let later : List Note := [⟨130, none⟩, ⟨-40, some "Ab".toText⟩, ⟨5, none⟩]
    let moved : List Note := [⟨11, none⟩, ⟨132, none⟩, ⟨-14, none⟩, ⟨-5, none⟩]
    List.Forall₂ (fun note other => ∃ octaves, other.value = note.value + 2 + 12 * octaves)
        (first :: later) moved
      ∧ ofNotes moved = ofNotes (first :: later)
      ∧ (ofNotes moved).tokens = ["1", "b2", "7", "b6"].map String.toText := by
  intro first later moved
  have moves : List.Forall₂
      (fun note other => ∃ octaves, other.value = note.value + 2 + 12 * octaves)
      (first :: later) moved :=
    .cons ⟨1, rfl⟩ (.cons ⟨0, rfl⟩ (.cons ⟨2, rfl⟩ (.cons ⟨-1, rfl⟩ .nil)))
  exact ⟨moves, (ofNotes_keeps_pitchClasses first later).2.2 2 moved moves, by rfl⟩

end MusicText.Intervals
