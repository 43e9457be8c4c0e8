import MusicText.Chord
import MusicText.Proofs.Note.Reading
import MusicText.Proofs.Text.Capital

/-!
Contract: the division of chord names.

Owns: names that fall apart into a note name and a known quality, that they do so in one way only,
and the preferred division, which is this one whenever there is one.

Does not own: the chord that is made of the parts; see `MusicText.Proofs.Chord.Reading`.

The three parts behind the letter have no marks between them, and each of them may be longer or
shorter. What settles the matter is the table: no known quality begins with a character that
could still be a mark or a digit, not even before its case is changed.
-/

namespace MusicText.Chord

open MusicText.Text

/-! ### Known qualities -/

theorem solid_qualities : ∀ quality ∈ qualities.map Prod.fst, quality ≠ []
    ∧ (∀ c ∈ quality.head?, c ≠ '#' ∧ c ≠ 'B' ∧ isDecimalDigit c = false)
    ∧ .scalar '\n' ∉ quality := by
  decide +kernel

/-- A text whose capitals are a known quality begins with neither a mark nor a digit. -/
theorem solid_of_known {quality : Text} (known : upper quality ∈ qualities.map Prod.fst) :
    quality ≠ [] ∧ (∀ c ∈ quality.head?, Note.isMark c = false ∧ isDecimalDigit c = false)
      ∧ .scalar '\n' ∉ quality := by
  obtain ⟨nonempty, boundary, oneLine⟩ := solid_qualities _ known
  cases quality with
  | nil => exact absurd rfl nonempty
  | cons c rest =>
      -- The capital of a mark or a digit is one character, so it would begin the known quality.
      have initial : ∀ d, capital c = [d] → d ≠ '#' ∧ d ≠ 'B' ∧ isDecimalDigit d = false := by
        intro d single
        apply boundary
        rw [upper, List.flatMap_cons, single]
        rfl
      refine ⟨by simp, ?_, ?_⟩
      · intro _ first
        obtain rfl := Option.some.inj first
        rw [Bool.eq_false_iff, Bool.eq_false_iff]
        constructor
        · intro marked
          rcases Note.eq_sharp_or_flat_of_isMark marked with rfl | rfl
          · exact (initial '#' rfl).1 rfl
          · exact (initial 'B' rfl).2.1 rfl
        · intro digit
          have digitless := (initial c (capital_of_isDecimalDigit digit)).2.2
          rw [digit] at digitless
          cases digitless
      · intro member
        apply oneLine
        rw [upper, List.mem_flatMap]
        exact ⟨_, member, by decide⟩

/-! ### The preferred division -/

namespace Division

theorem isMark_of_isDecimalDigit {c : CodePoint} (digit : isDecimalDigit c) :
    Note.isMark c = false := by
  rw [Bool.eq_false_iff]
  intro marked
  rcases Note.eq_sharp_or_flat_of_isMark marked with rfl | rfl
  · exact absurd digit (by decide)
  · exact absurd digit (by decide)

/-- Marks and at most two digits are cut off whole from a quality that begins with neither. -/
theorem read?_append {marks digits quality : Text} (marked : ∀ mark ∈ marks, Note.isMark mark)
    (numeric : ∀ c ∈ digits, isDecimalDigit c) (short : digits.length ≤ 2)
    (nonempty : quality ≠ [])
    (boundary : ∀ c ∈ quality.head?, Note.isMark c = false ∧ isDecimalDigit c = false)
    (oneLine : .scalar '\n' ∉ quality) :
    read? (marks ++ (digits ++ quality)) = some ⟨marks, digits, quality⟩ := by
  have unmarked : ∀ c ∈ (digits ++ quality).head?, Note.isMark c = false := by
    intro c first
    cases digits with
    | nil => exact (boundary c first).1
    | cons digit others =>
        obtain rfl := Option.some.inj first
        exact isMark_of_isDecimalDigit (numeric _ List.mem_cons_self)
  have mostMarks : markCounts (marks ++ (digits ++ quality))
      = marks.length :: (List.range marks.length).reverse := by
    rw [markCounts, takeWhile_append_boundary marked unmarked, List.range_succ,
      List.reverse_append]
    rfl
  have mostDigits : (((digits ++ quality).take 2).takeWhile isDecimalDigit).length
      = digits.length := by
    rw [List.take_append, List.take_of_length_le short, takeWhile_append_boundary numeric]
    intro c first
    rw [List.head?_take] at first
    split at first
    · cases first
    · exact (boundary c first).2
  have preferred : withMarks (marks ++ (digits ++ quality)) marks.length
      = ⟨marks, digits, quality⟩
        :: (withMarks (marks ++ (digits ++ quality)) marks.length).tail := by
    simp [withMarks, mostDigits, List.range_succ]
  have admitted : (⟨marks, digits, quality⟩ : Division).admits = true := by
    simp [admits, nonempty, oneLine]
  rw [read?, mostMarks, List.findSome?_cons, preferred, List.find?_cons_of_pos admitted]

theorem forall_mem_take {p : CodePoint → Bool} {text : Text} {count : Nat}
    (few : count ≤ (text.takeWhile p).length) : ∀ c ∈ text.take count, p c := by
  intro c member
  rw [← List.takeWhile_append_dropWhile (p := p) (l := text),
    List.take_append_of_le_length few] at member
  exact List.mem_takeWhile_imp (List.mem_of_mem_take member)

theorem marked_of_read? {rest : Text} {division : Division}
    (found : read? rest = some division) :
    (∀ mark ∈ division.marks, Note.isMark mark) ∧ ∀ c ∈ division.digits, isDecimalDigit c := by
  have member := List.mem_of_find?_eq_some (read?_eq_find? rest ▸ found)
  simp only [candidates, withMarks, markCounts, List.mem_flatMap, List.mem_map, List.mem_reverse,
    List.mem_range, Nat.lt_succ_iff] at member
  obtain ⟨marks, fewMarks, digits, fewDigits, rfl⟩ := member
  refine ⟨forall_mem_take fewMarks, ?_⟩
  have atMostTwo : digits ≤ 2 := by
    have prefixed := (List.takeWhile_prefix isDecimalDigit (l := (rest.drop marks).take 2)).length_le
    rw [List.length_take] at prefixed
    omega
  have numeric := forall_mem_take fewDigits
  rwa [List.take_take, Nat.min_eq_left atMostTwo] at numeric

end Division

/-! ### Names that fall apart -/

/-- Whether a name falls apart into a letter and the parts of a division. Blanks around it left
out, the name consists of them; the letter, the marks and the digits are the parts of a note name,
and the capitals of the rest are a known quality. -/
structure FallsApart (name : Text) (letter : CodePoint) (division : Division) : Prop where
  name_eq : strip name = letter :: division.text
  root : ∃ spelling : Note.Spelling, spelling.HasParts letter division.marks division.digits
  known : upper division.quality ∈ qualities.map Prod.fst

variable {name : Text} {letter : CodePoint} {division : Division}

/-- A name that falls apart is divided just there. -/
theorem FallsApart.divide?_eq (apart : FallsApart name letter division) :
    divide? (strip name) = some (letter, division) := by
  obtain ⟨spelling, parts⟩ := apart.root
  obtain ⟨nonempty, boundary, oneLine⟩ := solid_of_known apart.known
  have marked : ∀ mark ∈ division.marks, Note.isMark mark := by
    rw [parts.marks_eq]
    exact Note.isMark_of_mem_marks _
  have numeric : ∀ c ∈ division.digits, isDecimalDigit c := fun c member =>
    Numeral.isDecimalDigit_of_isDigit (parts.mentions.isDigit c member)
  have found := Division.read?_append marked numeric parts.mentions.length_le nonempty boundary
    oneLine
  rw [apart.name_eq, Division.text, List.append_assoc, divide?,
    Step.ofLetter?_eq_some_iff.2 parts.letter_eq]
  simp only [found, Option.map_some]

theorem FallsApart.unique {otherLetter : CodePoint} {other : Division}
    (apart : FallsApart name letter division) (otherApart : FallsApart name otherLetter other) :
    otherLetter = letter ∧ other = division := by
  have same := otherApart.divide?_eq
  rw [apart.divide?_eq] at same
  obtain ⟨rfl, rfl⟩ := Prod.mk.inj (Option.some.inj same)
  exact ⟨rfl, rfl⟩

theorem text_of_divide? {text : Text} (divided : divide? text = some (letter, division)) :
    text = letter :: division.text ∧ (∃ step, Step.ofLetter? letter = some step)
      ∧ (∀ mark ∈ division.marks, Note.isMark mark)
      ∧ ∀ c ∈ division.digits, isDecimalDigit c := by
  cases text with
  | nil => cases divided
  | cons first rest =>
      rw [divide?] at divided
      split at divided
      · cases divided
      · rename_i step isStep
        obtain ⟨_, found, same⟩ := Option.map_eq_some_iff.1 divided
        obtain ⟨rfl, rfl⟩ := Prod.mk.inj same
        rw [Division.text_of_read? found]
        exact ⟨rfl, ⟨step, isStep⟩, Division.marked_of_read? found⟩

/-- Where the preferred division leaves a known quality and the name of a note, a name falls
apart just there. -/
theorem fallsApart_of_divide? {root : Note}
    (divided : divide? (strip name) = some (letter, division))
    (known : upper division.quality ∈ qualities.map Prod.fst)
    (read : Note.ofText (letter :: (division.marks ++ division.digits)) = .ok root) :
    FallsApart name letter division := by
  obtain ⟨name_eq, ⟨step, isStep⟩, marked, numeric⟩ := text_of_divide? divided
  have unmarked : ∀ c ∈ division.digits.head?, Note.isMark c = false := fun c first =>
    Division.isMark_of_isDecimalDigit (numeric c (List.mem_of_mem_head? first))
  have solid : ∀ c ∈ letter :: (division.marks ++ division.digits), isBlank c = false := by
    intro c member
    rcases List.mem_cons.1 member with rfl | behind
    · rcases Step.ofLetter?_eq_some_iff.1 isStep with rfl | rfl <;> cases step <;> rfl
    · rcases List.mem_append.1 behind with inMarks | inDigits
      · rcases Note.eq_sharp_or_flat_of_isMark (marked c inMarks) with rfl | rfl <;> rfl
      · exact isBlank_of_isDecimalDigit (numeric c inDigits)
  obtain ⟨spelling, written, -⟩ := Note.ofText_eq_ok_iff.1 read
  exact ⟨name_eq,
    ⟨spelling, Note.Spelling.hasParts_of_isWrittenAs solid marked unmarked written⟩, known⟩

end MusicText.Chord
