import Mathlib.Data.List.Basic
import MusicText.Score

/-!
Contract: parts at the places of their voices.

Owns: the builder whose voices have their parts in a given order, the part that it finds for a
voice, and what it becomes when a part is opened or changed.

Does not own: which voices have parts, and what these contain; see
`MusicText.Proofs.Score.Building`.

The score knows the order of the parts, and only the places tell whose they are. Both grow
together at the end. So the place of a voice stays what it was, and leads to its part.
-/

namespace MusicText

namespace ScoreBuilder

/-- The builder that has a part for each of some voices, in their order. -/
def arranged (tracks : List Int) (partOf : Int → Part) (track layer : Int) : ScoreBuilder :=
  ⟨⟨tracks.map partOf⟩, tracks.zipIdx, track, layer⟩

/-- A voice has the first place at which it stands. -/
theorem lookup_zipIdx (tracks : List Int) (track : Int) (start : Nat) :
    (tracks.zipIdx start).lookup track
      = if track ∈ tracks then some (start + tracks.idxOf track) else none := by
  induction tracks generalizing start with
  | nil => rfl
  | cons first rest inductionHypothesis =>
      rw [List.zipIdx_cons, List.lookup_cons, inductionHypothesis]
      by_cases same : track = first
      · subst same
        simp
      · have different : (track == first) = false := by simpa using same
        have later : (first :: rest).idxOf track = rest.idxOf track + 1 :=
          List.idxOf_cons_ne rest (Ne.symm same)
        simp only [different, List.mem_cons, same, false_or, later]
        congr 2
        omega

variable {tracks : List Int} {partOf : Int → Part} {track layer : Int}

theorem lookup_places_arranged (tracks : List Int) (partOf : Int → Part) (track layer voice : Int) :
    (arranged tracks partOf track layer).places.lookup voice
      = if voice ∈ tracks then some (tracks.idxOf voice) else none := by
  rw [arranged, lookup_zipIdx, Nat.zero_add]

/-- The place of a voice leads to its part. -/
theorem part?_arranged (tracks : List Int) (partOf : Int → Part) (track layer voice : Int) :
    (arranged tracks partOf track layer).part? voice
      = if voice ∈ tracks then some (partOf voice) else none := by
  rw [part?, lookup_places_arranged]
  by_cases known : voice ∈ tracks
  · simp [known, arranged, List.getElem?_idxOf]
  · simp [known]

/-- The part of the current voice is opened behind the others, unless it is there. -/
theorem next_openPart_arranged (opened : track ∉ tracks → partOf track = .ofVoice track) :
    (arranged tracks partOf track layer).openPart.next
      = arranged (tracks ++ if track ∈ tracks then [] else [track]) partOf track layer := by
  rw [openPart, show (arranged tracks partOf track layer).track = track from rfl,
    lookup_places_arranged]
  by_cases known : track ∈ tracks
  · simp [known, Reaction.quiet]
  · simp [known, arranged, opened known, List.zipIdx_append]

/-- A change at the place of a voice changes the part of this voice only. -/
theorem modify_map_idxOf (change : Part → Part) (distinct : tracks.Nodup) :
    (tracks.map partOf).modify (tracks.idxOf track) change
      = tracks.map fun voice => if voice = track then change (partOf voice) else partOf voice := by
  induction tracks with
  | nil => rfl
  | cons first rest inductionHypothesis =>
      obtain ⟨only, others⟩ := List.nodup_cons.1 distinct
      by_cases same : first = track
      · subst same
        have unchanged : ∀ voice ∈ rest,
            (if voice = first then change (partOf voice) else partOf voice) = partOf voice := by
          intro voice member
          rw [if_neg]
          rintro rfl
          exact only member
        simp [List.map_congr_left unchanged]
      · simp [same, List.idxOf_cons_ne rest same, inductionHypothesis others]

theorem changePart_arranged (change : Part → Part) (distinct : tracks.Nodup)
    (known : track ∈ tracks) :
    (arranged tracks partOf track layer).changePart change
      = arranged tracks
          (fun voice => if voice = track then change (partOf voice) else partOf voice) track layer := by
  rw [changePart, show (arranged tracks partOf track layer).track = track from rfl,
    lookup_places_arranged, if_pos known]
  simp only [arranged, modify_map_idxOf change distinct]

end ScoreBuilder

end MusicText
