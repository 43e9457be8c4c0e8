import Mathlib.Data.List.Count
import MusicText.Pitch.Tone

/-!
Contract: the net count of accidentals in a text.

Owns: the characters whose capitals are marks, and the count of a text as a difference of
three character counts.

Does not own: accidentals of at most four marks; see `MusicText.Pitch.Tone`.

The count goes through the upper case of the whole text, which may be longer than the text.
No character but `b` gets a new `B` there, and none gets a new `#`.
-/

namespace MusicText

namespace CodePoint

theorem eq_toNat_of_ofNat {number : Nat} {character : Char} (marked : character ≠ '\x00')
    (same : ofNat number = scalar character) : number = character.toNat := by
  unfold ofNat at same
  split at same
  · cases same
  · have equal : Char.ofNat number = character := CodePoint.scalar.inj same
    by_cases valid : number.isValidChar
    · rw [← equal, Char.ofNat, dif_pos valid]
      rfl
    · refine absurd ?_ marked
      rw [← equal, Char.ofNat, dif_neg valid]
      rfl

theorem eq_iff_toNat_eq {c d : CodePoint} : c = d ↔ c.toNat = d.toNat := by
  constructor
  · exact congrArg toNat
  · intro same
    rw [← ofNat_toNat c, same, ofNat_toNat]

end CodePoint

namespace Accidental

open MusicText.Text

/-! ### Capitals that are marks -/

theorem unmarked_capitalSequences : ∀ entry ∈ capitalSequences, 0x7A < entry.1 ∧
    ∀ number ∈ entry.2, CodePoint.ofNat number ≠ '#' ∧ CodePoint.ofNat number ≠ 'B' := by
  decide +kernel

/-- The first run holds the small letters of the alphabet. All capitals of the others lie
behind `B`. -/
theorem unmarked_capitalRuns : ∀ run ∈ capitalRuns, run = (0x61, 0x7A, 1, -32) ∨
    (0x7A < run.1 ∧ 0x42 < (run.1 : Int) + run.2.2.2) := by
  decide +kernel

theorem capital_of_small {c : CodePoint} (lower : 0x61 ≤ c.toNat) (upper : c.toNat ≤ 0x7A) :
    capital c = [CodePoint.ofNat (c.toNat - 32)] := by
  have noSequence : capitalSequences.find? (·.1 = c.toNat) = none := by
    rw [List.find?_eq_none]
    intro entry member same
    have place : entry.1 = c.toNat := of_decide_eq_true same
    have beyond := (unmarked_capitalSequences entry member).1
    omega
  have run : (capitalRuns.find? fun run =>
      run.1 ≤ c.toNat && c.toNat ≤ run.2.1 && (c.toNat - run.1) % run.2.2.1 == 0)
        = some (0x61, 0x7A, 1, -32) := by
    rw [capitalRuns, List.find?_cons_of_pos]
    simp [lower, upper, Nat.mod_one]
  have distance : ((c.toNat : Int) + -32).toNat = c.toNat - 32 := by omega
  rw [capital, noSequence, run]
  simp only [distance]

/-- A character that is no small letter is its own capital, or it has capitals that are no
marks and is no mark itself. -/
theorem capital_of_not_small {c : CodePoint} (outside : c.toNat < 0x61 ∨ 0x7A < c.toNat) :
    capital c = [c] ∨ (0x7A < c.toNat ∧ .scalar '#' ∉ capital c ∧ .scalar 'B' ∉ capital c) := by
  unfold capital
  split
  · rename_i entry found
    have place : entry.1 = c.toNat := by simpa using List.find?_some found
    obtain ⟨beyond, unmarked⟩ := unmarked_capitalSequences entry (List.mem_of_find?_eq_some found)
    refine Or.inr ⟨by omega, ?_, ?_⟩
    · intro member
      obtain ⟨number, listed, same⟩ := List.mem_map.1 member
      exact (unmarked number listed).1 same
    · intro member
      obtain ⟨number, listed, same⟩ := List.mem_map.1 member
      exact (unmarked number listed).2 same
  · split
    · rename_i run found
      have inRun := List.find?_some found
      simp only [Bool.and_eq_true, decide_eq_true_eq] at inRun
      rcases unmarked_capitalRuns run (List.mem_of_find?_eq_some found) with rfl | ⟨beyond, high⟩
      · simp only at inRun
        omega
      · refine Or.inr ⟨by omega, ?_, ?_⟩
        · intro member
          have number := CodePoint.eq_toNat_of_ofNat (by decide) (List.mem_singleton.1 member).symm
          have sharp : '#'.toNat = 0x23 := rfl
          omega
        · intro member
          have number := CodePoint.eq_toNat_of_ofNat (by decide) (List.mem_singleton.1 member).symm
          have flat : 'B'.toNat = 0x42 := rfl
          omega
    · exact Or.inl rfl

theorem count_sharp_capital (c : CodePoint) :
    (capital c).count (.scalar '#') = [c].count (.scalar '#') := by
  have sharp : (CodePoint.scalar '#').toNat = 0x23 := rfl
  by_cases small : 0x61 ≤ c.toNat ∧ c.toNat ≤ 0x7A
  · rw [capital_of_small small.1 small.2, List.count_eq_zero_of_not_mem, List.count_eq_zero_of_not_mem]
    · rw [List.mem_singleton, CodePoint.eq_iff_toNat_eq]
      omega
    · intro member
      have number := CodePoint.eq_toNat_of_ofNat (by decide) (List.mem_singleton.1 member).symm
      have same : '#'.toNat = 0x23 := rfl
      omega
  · rcases capital_of_not_small (c := c) (by omega) with own | ⟨beyond, noSharp, -⟩
    · rw [own]
    · rw [List.count_eq_zero_of_not_mem noSharp, List.count_eq_zero_of_not_mem]
      rw [List.mem_singleton, CodePoint.eq_iff_toNat_eq]
      omega

theorem count_flat_capital (c : CodePoint) :
    (capital c).count (.scalar 'B') = [c].count (.scalar 'b') + [c].count (.scalar 'B') := by
  have flat : (CodePoint.scalar 'B').toNat = 0x42 := rfl
  have smallFlat : (CodePoint.scalar 'b').toNat = 0x62 := rfl
  by_cases small : 0x61 ≤ c.toNat ∧ c.toNat ≤ 0x7A
  · have noCapital : [c].count (.scalar 'B') = 0 := by
      rw [List.count_eq_zero, List.mem_singleton, CodePoint.eq_iff_toNat_eq]
      omega
    rw [capital_of_small small.1 small.2, noCapital, Nat.add_zero, List.count_singleton,
      List.count_singleton]
    by_cases isFlat : c = .scalar 'b'
    · rw [isFlat]
      rfl
    · rw [if_neg, if_neg]
      · simpa using isFlat
      · intro same
        have number := CodePoint.eq_toNat_of_ofNat (by decide) (beq_iff_eq.1 same)
        have place : 'B'.toNat = 0x42 := rfl
        rw [CodePoint.eq_iff_toNat_eq] at isFlat
        omega
  · have noFlat : [c].count (.scalar 'b') = 0 := by
      rw [List.count_eq_zero, List.mem_singleton, CodePoint.eq_iff_toNat_eq]
      omega
    rw [noFlat, Nat.zero_add]
    rcases capital_of_not_small (c := c) (by omega) with own | ⟨beyond, -, noCapital⟩
    · rw [own]
    · rw [List.count_eq_zero_of_not_mem noCapital, List.count_eq_zero_of_not_mem]
      rw [List.mem_singleton, CodePoint.eq_iff_toNat_eq]
      omega

/-- Only a sharp has a sharp for its capital. -/
theorem capital_eq_sharp_iff {c : CodePoint} : capital c = "#".toText ↔ c = '#' := by
  constructor
  · intro own
    have counted := count_sharp_capital c
    rw [own] at counted
    exact (List.mem_singleton.1 (List.count_pos_iff.1 (counted ▸ Nat.one_pos))).symm
  · rintro rfl
    rfl

theorem capital_eq_flat_iff {c : CodePoint} : capital c = "B".toText ↔ c = 'b' ∨ c = 'B' := by
  constructor
  · intro own
    have counted := count_flat_capital c
    rw [own] at counted
    have some : 0 < [c].count (.scalar 'b') + [c].count (.scalar 'B') := counted ▸ Nat.one_pos
    rcases Nat.add_pos_iff_pos_or_pos.1 some with small | large
    · exact Or.inl (List.mem_singleton.1 (List.count_pos_iff.1 small)).symm
    · exact Or.inr (List.mem_singleton.1 (List.count_pos_iff.1 large)).symm
  · rintro (rfl | rfl) <;> rfl

/-! ### The count -/

theorem foldl_marks (text : Text) (start : Int) :
    text.foldl (fun count (c : CodePoint) =>
        if c = 'B' then count - 1 else if c = '#' then count + 1 else count) start
      = start + text.count (.scalar '#') - text.count (.scalar 'B') := by
  induction text generalizing start with
  | nil => simp
  | cons c rest inductionHypothesis =>
      rw [List.foldl_cons, inductionHypothesis, List.count_cons, List.count_cons]
      by_cases flat : c = .scalar 'B'
      · subst flat
        simp
        omega
      · by_cases sharp : c = .scalar '#'
        · subst sharp
          simp
          omega
        · simp [flat, sharp]

/-- The net count of a text is its number of sharps less its number of flats. -/
theorem netMarks_eq_count (text : Text) :
    netMarks text
      = text.count (.scalar '#') - text.count (.scalar 'b') - text.count (.scalar 'B') := by
  have capitals : (upper text).count (.scalar '#') = text.count (.scalar '#')
      ∧ (upper text).count (.scalar 'B') = text.count (.scalar 'b') + text.count (.scalar 'B') := by
    induction text with
    | nil => exact ⟨rfl, rfl⟩
    | cons c rest inductionHypothesis =>
        obtain ⟨sharps, flats⟩ := inductionHypothesis
        have split : upper (c :: rest) = capital c ++ upper rest := List.flatMap_cons
        have own (mark : CodePoint) : (c :: rest).count mark = [c].count mark + rest.count mark := by
          rw [← List.count_append, List.singleton_append]
        rw [split, List.count_append, List.count_append, count_sharp_capital, count_flat_capital,
          sharps, flats, own, own, own]
        exact ⟨rfl, by omega⟩
  rw [netMarks, foldl_marks, capitals.1, capitals.2]
  omega

theorem netMarks_append_eq_add (text other : Text) :
    netMarks (text ++ other) = netMarks text + netMarks other := by
  simp only [netMarks_eq_count, List.count_append]
  omega

theorem netMarks_insert (left right : Text) (mark : CodePoint) :
    netMarks (left ++ mark :: right) = netMarks (left ++ right) + netMarks [mark] := by
  have single : netMarks (mark :: right) = netMarks [mark] + netMarks right :=
    netMarks_append_eq_add [mark] right
  rw [netMarks_append_eq_add, netMarks_append_eq_add, single]
  omega

theorem netMarks_of_perm {text other : Text} (rearranged : text.Perm other) :
    netMarks text = netMarks other := by
  simp only [netMarks_eq_count, rearranged.count_eq]

end Accidental

end MusicText
