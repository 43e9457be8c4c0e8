import MusicText.Settings.Loading

/-!
Contract: strings that are read as they are written.

Owns: the strings without escapes, the reading of such a string and of an object with one such
member, and the settings of a file that names nothing but a level.

Does not own: escapes; see `MusicText.Json.Reader`.
-/

namespace MusicText

theorem Text.unifyLineBreaks_of_not_mem {text : Text} (unreturned : .scalar '\r' ∉ text) :
    unifyLineBreaks text = text := by
  fun_induction unifyLineBreaks text with
  | case1 rest | case2 rest => simp at unreturned
  | case3 c rest noFeed noReturn inductionHypothesis =>
      rw [inductionHypothesis fun member => unreturned (List.mem_cons_of_mem _ member)]
  | case4 => rfl

namespace Json

open MusicText.Text

/-- Whether a text can stand between quotes as it is. -/
def isPlain (text : Text) : Bool :=
  text.all fun c => c ≠ doubleQuote && c ≠ '\\' && 0x20 ≤ c.toNat && !c.isSurrogate

theorem skipGap_cons {c : CodePoint} (solid : isGap c = false) (rest : Text) :
    skipGap (c :: rest) = c :: rest :=
  List.dropWhile_cons_of_neg (by simp [solid])

theorem readUnits_quote (opening : Nat) (rest : Text) :
    readUnits opening (doubleQuote :: rest) = .ok ⟨[], ⟨rest, Nat.lt_succ_self _⟩⟩ := by
  rw [readUnits.eq_def]
  exact if_pos rfl

theorem readUnits_cons {c : CodePoint} (unquoted : c ≠ doubleQuote) (unescaped : c ≠ .scalar '\\')
    (printable : 0x20 ≤ c.toNat) (opening : Nat) (rest : Text) :
    readUnits opening (c :: rest)
      = (readUnits opening rest).map fun part => part.cons c.toNat (Nat.le_succ _) := by
  rw [readUnits.eq_def]
  exact (if_neg unquoted).trans ((if_neg (Nat.not_lt.2 printable)).trans (if_neg unescaped))

theorem readUnits_of_isPlain {text : Text} (plain : isPlain text) (opening : Nat) (rest : Text) :
    ∃ part, readUnits opening (text ++ doubleQuote :: rest) = .ok part
      ∧ part.units = text.map CodePoint.toNat ∧ part.rest.text = rest := by
  induction text with
  | nil => exact ⟨_, readUnits_quote opening rest, rfl, rfl⟩
  | cons c others inductionHypothesis =>
      simp only [isPlain, List.all_cons, Bool.and_eq_true, decide_eq_true_eq] at plain
      obtain ⟨⟨⟨⟨unquoted, unescaped⟩, printable⟩, -⟩, plainOthers⟩ := plain
      obtain ⟨part, read, units, behind⟩ := inductionHypothesis plainOthers
      refine ⟨part.cons c.toNat (Nat.le_succ _), ?_, by simp [StringPart.cons, units], behind⟩
      exact (readUnits_cons unquoted unescaped printable opening _).trans
        (congrArg (Except.map _) read)

/-- Characters are not joined, as none of them is one half of a pair. -/
theorem joinUnits_of_isPlain {text : Text} (plain : isPlain text) :
    joinUnits (text.map CodePoint.toNat) = text := by
  induction text with
  | nil => rfl
  | cons c others inductionHypothesis =>
      simp only [isPlain, List.all_cons, Bool.and_eq_true] at plain
      have joined := inductionHypothesis plain.2
      cases c with
      | surrogate offset => simp [CodePoint.isSurrogate] at plain
      | scalar character =>
          have single := CodePoint.not_surrogate_toNat character
          cases others with
          | nil => simp [joinUnits, CodePoint.ofNat_toNat]
          | cons next more =>
              rw [List.map_cons, List.map_cons, joinUnits, if_neg, ← List.map_cons, joined,
                CodePoint.ofNat_toNat]
              rintro ⟨lower, upper, -⟩
              exact single ⟨lower, Nat.lt_trans upper (by decide)⟩

/-- A plain string is read as it is written. -/
theorem readString_of_isPlain {text : Text} (plain : isPlain text) (rest : Text) :
    ∃ behind, readString (text ++ doubleQuote :: rest) = .ok (text, behind)
      ∧ behind.text = rest := by
  obtain ⟨part, read, units, behind⟩ := readUnits_of_isPlain plain _ rest
  refine ⟨part.rest, ?_, behind⟩
  rw [readString, read]
  show Except.ok (joinUnits part.units, part.rest) = _
  rw [units, joinUnits_of_isPlain plain]

theorem readValue_of_isPlain {text : Text} (plain : isPlain text) (nesting : Nat) (rest : Text) :
    ∃ behind, readValue nesting (doubleQuote :: (text ++ doubleQuote :: rest))
        = .ok (.string text, behind)
      ∧ behind.text = rest := by
  obtain ⟨behind, read, left⟩ := readString_of_isPlain plain rest
  refine ⟨behind.widen (by simp), ?_, left⟩
  rw [readValue.eq_def]
  simp only [if_true, read]

/-- An object with one plain string under a plain name. -/
theorem readMembers_of_isPlain {name text : Text} (plainName : isPlain name) (plain : isPlain text)
    (nesting : Nat) (rest : Text) :
    ∃ behind, readMembers nesting (doubleQuote :: (name ++ doubleQuote ::
        .scalar ':' :: doubleQuote :: (text ++ doubleQuote :: .scalar '\x7d' :: rest)))
        = .ok ([(name, .string text)], behind)
      ∧ behind.text = rest := by
  obtain ⟨behindName, readName, leftName⟩ := readString_of_isPlain plainName
    (.scalar ':' :: doubleQuote :: (text ++ doubleQuote :: .scalar '\x7d' :: rest))
  rw [readMembers.eq_def]
  simp only [if_true, readName]
  split
  · rename_i afterColon colon
    rw [leftName, skipGap_cons (by decide)] at colon
    have sameText : skipGap afterColon
        = doubleQuote :: (text ++ doubleQuote :: .scalar '\x7d' :: rest) := by
      rw [← (List.cons.inj colon).2, skipGap_cons (by decide)]
    obtain ⟨behind, read, left⟩ : ∃ behind,
        readValue nesting (skipGap afterColon) = .ok (.string text, behind)
          ∧ behind.text = .scalar '\x7d' :: rest := by
      rw [sameText]
      exact readValue_of_isPlain plain nesting _
    simp only [read]
    split
    · rename_i last closed
      rw [left, skipGap_cons (by decide)] at closed
      exact ⟨_, rfl, (List.cons.inj closed).2.symm⟩
    · rename_i last continued
      rw [left, skipGap_cons (by decide)] at continued
      cases continued
    · rename_i unclosed _
      rw [left, skipGap_cons (by decide)] at unclosed
      exact absurd rfl (unclosed rest)
  · rename_i noColon
    rw [leftName, skipGap_cons (by decide)] at noColon
    exact absurd rfl (noColon _)

/-- The text of an object with one string. -/
def memberText (name text : Text) : Text :=
  .scalar '\x7b' :: doubleQuote :: (name ++ doubleQuote :: .scalar ':' ::
    doubleQuote :: (text ++ doubleQuote :: [.scalar '\x7d']))

theorem readValue_memberText {name text : Text} (plainName : isPlain name) (plain : isPlain text)
    (nesting : Nat) :
    ∃ behind, readValue (nesting + 1) (memberText name text)
        = .ok (.object [(name, .string text)], behind)
      ∧ behind.text = [] := by
  rw [memberText, readValue.eq_def]
  simp only [if_neg (show CodePoint.scalar '\x7b' ≠ doubleQuote by decide),
    if_neg (show CodePoint.scalar '\x7b' ≠ .scalar '[' by decide), if_true]
  -- Whether the object is empty is seen before its members are read.
  split
  · rename_i behind closed
    rw [skipGap_cons (by decide)] at closed
    cases closed
  · obtain ⟨behind, read, left⟩ : ∃ behind,
        readMembers nesting (skipGap (doubleQuote :: (name ++ doubleQuote :: .scalar ':' ::
            doubleQuote :: (text ++ doubleQuote :: [.scalar '\x7d']))))
          = .ok ([(name, .string text)], behind) ∧ behind.text = [] := by
      rw [skipGap_cons (by decide)]
      exact readMembers_of_isPlain plainName plain nesting []
    simp only [read]
    exact ⟨_, rfl, left⟩

/-- A text that is read as a value up to its end holds this value. -/
theorem read_of_readValue {nesting : Nat} {source : Text} {value : Json}
    (unmarked : source.head? ≠ some (.scalar '\uFEFF'))
    (whole : ∃ behind, readValue nesting (skipGap source) = .ok (value, behind)
      ∧ behind.text = []) : read nesting source = .ok value := by
  obtain ⟨behind, done, left⟩ := whole
  unfold read
  rw [if_neg unmarked, done]
  simp only [left]
  rfl

/-- An object with one member that is a plain string is read. -/
theorem read_memberText {name text : Text} (plainName : isPlain name) (plain : isPlain text)
    (nesting : Nat) :
    read (nesting + 1) (memberText name text) = .ok (.object [(name, .string text)]) := by
  have solid : skipGap (memberText name text) = memberText name text :=
    skipGap_cons (by decide) _
  apply read_of_readValue (by simp [memberText])
  rw [solid]
  exact readValue_memberText plainName plain nesting

/-- An array without items is read. -/
theorem read_emptyArray (nesting : Nat) : read (nesting + 1) "[]".toText = .ok (.array []) := by
  have solid : skipGap "[]".toText = "[]".toText := by decide
  apply read_of_readValue (by decide)
  rw [solid, readValue.eq_def]
  exact ⟨_, rfl, rfl⟩

/-- A text without characters holds no value. -/
theorem read_nil (nesting : Nat) : read nesting [] = .error (.malformed .valueExpected 1 1 0) := by
  have nothing : readValue nesting (skipGap []) = .error (.defect .valueExpected 0) := by
    rw [readValue.eq_def]
    rfl
  unfold read
  rw [if_neg (by simp), nothing]
  rfl

theorem not_mem_of_isPlain {text : Text} (plain : isPlain text) : .scalar '\r' ∉ text := by
  intro member
  have checked := List.all_eq_true.1 plain _ member
  revert checked
  decide

/-- The text has no line break that is read as another one. -/
theorem unifyLineBreaks_memberText {name text : Text} (plainName : isPlain name)
    (plain : isPlain text) : unifyLineBreaks (memberText name text) = memberText name text := by
  apply unifyLineBreaks_of_not_mem
  simp only [memberText, List.mem_cons, List.mem_append, not_mem_of_isPlain plainName,
    not_mem_of_isPlain plain, List.not_mem_nil]
  decide

end Json

end MusicText
