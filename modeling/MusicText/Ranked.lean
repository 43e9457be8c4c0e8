/-!
Contract: lists in the order of a rank.

Owns: the insertion of one entry, the order of a whole list, and the groups of equal rank of
which an ordered list consists.

Does not own: what is ranked; see `MusicText.KeySignature` and `MusicText.Score`.

Entries of equal rank keep the order that they have.
-/

namespace MusicText

namespace Ranked

variable {Entry : Type} (rank : Entry → Nat)

/-- Puts an entry in front of the first one that ranks above it. -/
def insert (entry : Entry) : List Entry → List Entry
  | [] => [entry]
  | first :: rest =>
      if rank first ≤ rank entry then first :: insert entry rest else entry :: first :: rest

/-- The entries in the order of their rank. -/
def sort (entries : List Entry) : List Entry :=
  entries.foldl (fun sorted entry => insert rank entry sorted) []

/-- The entries of each rank below a bound, one rank after the other. -/
def groups (entries : List Entry) : Nat → List Entry
  | 0 => []
  | bound + 1 => groups entries bound ++ entries.filter fun entry => rank entry = bound

variable {rank} {entry : Entry}

theorem insert_of_le {entries : List Entry} (below : ∀ other ∈ entries, rank other ≤ rank entry) :
    insert rank entry entries = entries ++ [entry] := by
  induction entries with
  | nil => rfl
  | cons first rest inductionHypothesis =>
      obtain ⟨low, others⟩ := List.forall_mem_cons.1 below
      simp only [insert, low, if_true, inductionHypothesis others, List.cons_append]

theorem insert_append_of_lt (front : List Entry) {behind : List Entry}
    (above : ∀ other ∈ behind, rank entry < rank other) :
    insert rank entry (front ++ behind) = insert rank entry front ++ behind := by
  induction front with
  | nil =>
      cases behind with
      | nil => rfl
      | cons first rest =>
          have high : ¬rank first ≤ rank entry := Nat.not_le.2 (above first (by simp))
          simp [insert, high]
  | cons first rest inductionHypothesis =>
      simp only [List.cons_append, insert]
      split <;> simp [inductionHypothesis]

theorem rank_lt_of_mem_groups {entries : List Entry} {bound : Nat}
    (member : entry ∈ groups rank entries bound) : rank entry < bound := by
  induction bound with
  | zero => simp [groups] at member
  | succ bound inductionHypothesis =>
      rcases List.mem_append.1 member with lower | own
      · exact Nat.lt_succ_of_lt (inductionHypothesis lower)
      · simp only [List.mem_filter, decide_eq_true_eq] at own
        omega

theorem groups_concat_of_le {bound : Nat} (high : bound ≤ rank entry) (entries : List Entry) :
    groups rank (entries ++ [entry]) bound = groups rank entries bound := by
  induction bound with
  | zero => rfl
  | succ bound inductionHypothesis =>
      have other : rank entry ≠ bound := by omega
      simp [groups, inductionHypothesis (by omega), other]

/-- One more entry comes last in its group. -/
theorem insert_groups {bound : Nat} (low : rank entry < bound) (entries : List Entry) :
    insert rank entry (groups rank entries bound) = groups rank (entries ++ [entry]) bound := by
  induction bound with
  | zero => omega
  | succ bound inductionHypothesis =>
      rcases Nat.lt_succ_iff_lt_or_eq.1 low with lower | own
      · have above : ∀ other ∈ entries.filter (fun other => rank other = bound),
            rank entry < rank other := by
          intro other member
          simp only [List.mem_filter, decide_eq_true_eq] at member
          omega
        have different : rank entry ≠ bound := Nat.ne_of_lt lower
        rw [groups, insert_append_of_lt _ above, inductionHypothesis lower, groups]
        simp [different]
      · have below : ∀ other ∈ groups rank entries (bound + 1), rank other ≤ rank entry := by
          intro other member
          have := rank_lt_of_mem_groups member
          omega
        rw [insert_of_le below, groups, groups, groups_concat_of_le (Nat.le_of_eq own.symm)]
        simp [own]

theorem groups_nil (bound : Nat) : groups rank [] bound = [] := by
  induction bound with
  | zero => rfl
  | succ bound inductionHypothesis => simp [groups, inductionHypothesis]

/-- A list in order is its groups, one after the other. -/
theorem sort_eq_groups {bound : Nat} {entries : List Entry}
    (low : ∀ entry ∈ entries, rank entry < bound) :
    sort rank entries = groups rank entries bound := by
  have onward : ∀ earlier,
      entries.foldl (fun sorted entry => insert rank entry sorted) (groups rank earlier bound)
        = groups rank (earlier ++ entries) bound := by
    induction entries with
    | nil => simp
    | cons entry rest inductionHypothesis =>
        intro earlier
        obtain ⟨first, others⟩ := List.forall_mem_cons.1 low
        rw [List.foldl_cons, insert_groups first, inductionHypothesis others, List.append_assoc,
          List.singleton_append]
  simpa only [groups_nil, List.nil_append, sort] using onward []

end Ranked

end MusicText
