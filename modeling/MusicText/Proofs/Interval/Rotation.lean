import Mathlib.Data.List.Rotate
import MusicText.Proofs.Interval.Pattern

/-!
Contract: rotation of a pattern.

Owns: the rotation of a list by an integer, its laws as an action of the integers, and the
half-steps of a rotated pattern.

Does not own: rotation among other requests; see `MusicText.Proofs.Interval.History`.

An amount counts modulo the length of the list, so every integer is one, and amounts add up. A
list without items has no such length, and stays as it is.
-/

namespace MusicText.Intervals

section Turning

variable {Item Other : Type} {items : List Item}

/-- A list rotated to the left, to the right for a negative amount. -/
def turned (amount : Int) (items : List Item) : List Item :=
  items.rotate (amount % items.length).toNat

theorem length_turned (amount : Int) (items : List Item) :
    (turned amount items).length = items.length :=
  List.length_rotate items _

theorem mem_turned {amount : Int} {item : Item} : item ∈ turned amount items ↔ item ∈ items :=
  List.mem_rotate

theorem turned_zero (items : List Item) : turned 0 items = items := by
  rw [turned, Int.zero_emod]
  exact List.rotate_zero items

/-- Amounts add up, whatever they are modulo the length. -/
theorem turned_turned (first second : Int) (items : List Item) :
    turned second (turned first items) = turned (first + second) items := by
  cases items with
  | nil => simp [turned]
  | cons item rest =>
      let size : Nat := (item :: rest).length
      have positive : (size : Int) ≠ 0 := by
        show ((rest.length + 1 : Nat) : Int) ≠ 0
        omega
      have residues : ((first % size).toNat + (second % size).toNat) % size
          = ((first + second) % size).toNat := by
        apply Int.natCast_inj.1
        rw [Int.natCast_emod, Int.natCast_add,
          Int.toNat_of_nonneg (Int.emod_nonneg first positive),
          Int.toNat_of_nonneg (Int.emod_nonneg second positive),
          Int.toNat_of_nonneg (Int.emod_nonneg (first + second) positive), ← Int.add_emod]
      calc turned second (turned first (item :: rest))
          = (item :: rest).rotate ((first % size).toNat + (second % size).toNat) := by
            rw [turned, length_turned, turned, List.rotate_rotate]
        _ = (item :: rest).rotate (((first % size).toNat + (second % size).toNat) % size) :=
            (List.rotate_mod _ _).symm
        _ = turned (first + second) (item :: rest) := by
            rw [residues]
            rfl

/-- What holds of the items of two lists in pairs holds of them when both lists are rotated. -/
theorem forall₂_turned {related : Item → Other → Prop} {others : List Other} (amount : Int)
    (pairs : List.Forall₂ related items others) :
    List.Forall₂ related (turned amount items) (turned amount others) := by
  rw [turned, turned, List.rotate_eq_drop_append_take_mod, List.rotate_eq_drop_append_take_mod,
    ← pairs.length_eq]
  exact List.rel_append (List.forall₂_drop _ pairs) (List.forall₂_take _ pairs)

end Turning

theorem rotate_eq_turned (pattern : Intervals) (amount : Int) :
    pattern.rotate amount = ⟨turned amount pattern.tokens, pattern.root⟩ := by
  obtain ⟨tokens, root⟩ := pattern
  cases tokens with
  | nil => simp [rotate, turned]
  | cons token rest =>
      have within : (amount % (token :: rest).length).toNat ≤ (token :: rest).length := by
        have := Int.emod_lt_of_pos amount (b := (token :: rest).length) (by simp)
        omega
      rw [rotate, turned, List.rotate_eq_drop_append_take within]

/-- The half-steps of a pattern turn with it. -/
theorem halfsteps_rotate {pattern : Intervals} {steps : List Int}
    (resolves : pattern.halfsteps = .ok steps) (amount : Int) :
    (pattern.rotate amount).halfsteps = .ok (turned amount steps) := by
  have pairs := forall₂_turned amount (halfsteps_eq_ok_iff.1 resolves)
  rw [rotate_eq_turned]
  exact halfsteps_eq_ok_iff.2 pairs

end MusicText.Intervals
