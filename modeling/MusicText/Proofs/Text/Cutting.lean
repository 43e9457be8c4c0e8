import MusicText.Text.Blank

/-!
Contract: laws of cutting texts.

Owns: the pieces of a text as the standard library splits a list, the pieces of texts that
are joined by marks, words that are joined by spaces, the cut at a mark, the place of a mark,
the texts that hold another one, where a run of one class ends, and texts that have no margins.

Does not own: the tokens that pieces hold; see `MusicText.Proofs.Token.Sequence`.
-/

namespace MusicText.Text

/-- The pieces of a text are those of a list that is split at the marks. -/
theorem pieces_eq_splitOnP (mark : CodePoint → Bool) (text : Text) :
    pieces mark text = text.splitOnP mark := by
  induction text with
  | nil => simp [pieces]
  | cons c rest inductionHypothesis =>
      rw [pieces, List.splitOnP_cons_eq_if_modifyHead, inductionHypothesis]
      by_cases marked : mark c
      · simp [marked]
      · cases pieces : rest.splitOnP mark with
        | nil => exact absurd pieces (List.splitOnP_ne_nil mark rest)
        | cons first others => simp [marked]

theorem pieces_of_unmarked {mark : CodePoint → Bool} {text : Text}
    (unmarked : ∀ c ∈ text, mark c = false) : pieces mark text = [text] := by
  rw [pieces_eq_splitOnP, List.splitOnP_eq_singleton unmarked]

/-- What stands in front of the first mark is the first piece. -/
theorem pieces_append_mark {mark : CodePoint → Bool} {before after : Text} {c : CodePoint}
    (unmarked : ∀ d ∈ before, mark d = false) (marked : mark c) :
    pieces mark (before ++ c :: after) = before :: pieces mark after := by
  simp only [pieces_eq_splitOnP]
  exact List.splitOnP_append_cons_of_forall_mem unmarked c marked after

/-- Texts without marks that are joined by marks are the pieces of the whole. -/
theorem pieces_intercalate {mark : CodePoint → Bool} {c : CodePoint} (marked : mark c)
    {texts : List Text} (nonempty : texts ≠ [])
    (unmarked : ∀ text ∈ texts, ∀ d ∈ text, mark d = false) :
    pieces mark ([c].intercalate texts) = texts := by
  induction texts with
  | nil => exact absurd rfl nonempty
  | cons text rest inductionHypothesis =>
      have first : ∀ d ∈ text, mark d = false := unmarked text (by simp)
      cases rest with
      | nil => simpa [List.intercalate] using pieces_of_unmarked first
      | cons next others =>
          have joined : [c].intercalate (text :: next :: others)
              = text ++ c :: [c].intercalate (next :: others) := by
            simp [List.intercalate]
          rw [joined, pieces_append_mark first marked,
            inductionHypothesis (by simp) fun other member =>
              unmarked other (List.mem_cons_of_mem text member)]

theorem unmarked_of_mem_pieces {mark : CodePoint → Bool} {text piece : Text}
    (member : piece ∈ pieces mark text) : ∀ c ∈ piece, mark c = false := by
  induction text generalizing piece with
  | nil =>
      obtain rfl := List.mem_singleton.1 member
      simp
  | cons c rest inductionHypothesis =>
      rw [pieces] at member
      split at member
      · rcases List.mem_cons.1 member with rfl | behind
        · simp
        · exact inductionHypothesis behind
      · rename_i solid
        split at member
        · rename_i empty
          exact absurd empty (pieces_ne_nil mark rest)
        · rename_i first others split
          rw [split] at inductionHypothesis
          rcases List.mem_cons.1 member with rfl | behind
          · exact List.forall_mem_cons.2
              ⟨Bool.eq_false_iff.2 solid, inductionHypothesis List.mem_cons_self⟩
          · exact inductionHypothesis (List.mem_cons_of_mem first behind)

theorem solid_of_mem_words {text word : Text} (member : word ∈ words text) :
    word ≠ [] ∧ ∀ c ∈ word, isBlank c = false := by
  obtain ⟨cut, nonempty⟩ := List.mem_filter.1 member
  exact ⟨of_decide_eq_true nonempty, unmarked_of_mem_pieces cut⟩

/-- Words that are joined by spaces are the words of the whole. -/
theorem words_unwords {texts : List Text}
    (solid : ∀ text ∈ texts, text ≠ [] ∧ ∀ c ∈ text, isBlank c = false) :
    words (unwords texts) = texts := by
  cases texts with
  | nil => rfl
  | cons text rest =>
      have joined : pieces isBlank (unwords (text :: rest)) = text :: rest :=
        pieces_intercalate isBlank_space (by simp) fun other member => (solid other member).2
      rw [words, joined, List.filter_eq_self]
      intro other member
      simpa using (solid other member).1

theorem cutAt?_append {mark : CodePoint} {before after : Text} (absent : mark ∉ before) :
    cutAt? mark (before ++ mark :: after) = some (before, after) := by
  induction before with
  | nil => simp [cutAt?]
  | cons c rest inductionHypothesis =>
      have different : c ≠ mark := fun same => absent (by simp [same])
      have absentBehind : mark ∉ rest := fun member => absent (List.mem_cons_of_mem c member)
      rw [List.cons_append, cutAt?, if_neg different, inductionHypothesis absentBehind]
      rfl

/-- The place of the first mark, or the end, is how much stands in front of it. -/
theorem nextOrEnd_singleton (mark : CodePoint) (text : Text) :
    nextOrEnd text [mark] 0 = (text.takeWhile (· != mark)).length := by
  have found : (indexOf? [mark] text).getD text.length = (text.takeWhile (· != mark)).length := by
    induction text with
    | nil => rfl
    | cons c rest inductionHypothesis =>
        by_cases same : c = mark
        · simp [indexOf?, same]
        · have apart : [mark].isPrefixOf (c :: rest) = false := by
            simp [List.isPrefixOf, Ne.symm same]
          rw [List.takeWhile_cons_of_pos (by simpa using same), List.length_cons,
            List.length_cons, ← inductionHypothesis, indexOf?, apart]
          cases indexOf? [mark] rest <;> simp
  simpa [nextOrEnd, origin] using found

theorem isSome_indexOf?_iff {needle text : Text} : (indexOf? needle text).isSome ↔ needle <:+: text := by
  induction text with
  | nil =>
      rw [indexOf?, List.infix_nil]
      split <;> simp_all
  | cons c rest inductionHypothesis =>
      rw [indexOf?, List.infix_cons_iff, ← inductionHypothesis, ← List.isPrefixOf_iff_prefix]
      by_cases begins : needle.isPrefixOf (c :: rest) <;> simp [begins]

/-- A run of one class ends where a character of another class follows, or nothing. -/
theorem takeWhile_append_boundary {p : CodePoint → Bool} {run rest : Text}
    (inside : ∀ c ∈ run, p c) (boundary : ∀ c ∈ rest.head?, p c = false) :
    (run ++ rest).takeWhile p = run := by
  have stops : rest.takeWhile p = [] := by
    cases rest with
    | nil => rfl
    | cons c behind => exact List.takeWhile_cons_of_neg (by simp [boundary c rfl])
  rw [List.takeWhile_append_of_pos inside, stops, List.append_nil]

theorem dropWhile_append_boundary {p : CodePoint → Bool} {run rest : Text}
    (inside : ∀ c ∈ run, p c) (boundary : ∀ c ∈ rest.head?, p c = false) :
    (run ++ rest).dropWhile p = rest := by
  rw [List.dropWhile_append_of_pos inside]
  cases rest with
  | nil => rfl
  | cons c behind => exact List.dropWhile_cons_of_neg (by simp [boundary c rfl])

/-- Nothing is dropped from a text without margin characters. -/
theorem trim_eq_self {margin : CodePoint → Bool} {text : Text}
    (solid : ∀ c ∈ text, margin c = false) : trim margin text = text := by
  have kept : ∀ part : Text, (∀ c ∈ part, margin c = false) → part.dropWhile margin = part := by
    intro part solidPart
    cases part with
    | nil => rfl
    | cons c rest => exact List.dropWhile_cons_of_neg (by simp [solidPart c (by simp)])
  rw [trim, kept text solid, kept text.reverse (by simpa using solid), List.reverse_reverse]

/-- What begins with no margin character keeps its first character. -/
theorem exists_trim_cons {margin : CodePoint → Bool} {c : CodePoint} (solid : margin c = false)
    (rest : Text) : ∃ kept, trim margin (c :: rest) = c :: kept := by
  rw [trim, List.dropWhile_cons_of_neg (by simp [solid]), List.reverse_cons, List.dropWhile_append]
  split
  · exact ⟨[], by rw [List.dropWhile_cons_of_neg (by simp [solid])]; rfl⟩
  · exact ⟨_, List.reverse_concat⟩

end MusicText.Text
