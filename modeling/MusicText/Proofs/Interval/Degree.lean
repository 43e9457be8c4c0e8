import MusicText.Proofs.Interval.Naming
import MusicText.Proofs.Numeral.Grammar

/-!
Contract: the half-steps of any token.

Owns: the run of digits that names the degree, described without its reader; the half-steps that
a token has, or the fault that it has instead; and what marks and octaves change in them.

Does not own: the tokens of gaps within an octave; see `MusicText.Proofs.Interval.Naming`.

The degree and the accidentals are read from the same text, each without regard to the other. The
degree is one run of digits and no accidental is a digit, so marks may stand and move anywhere but
within this run.
-/

namespace MusicText.Interval

open MusicText.Text

/-! ### The first run of digits -/

/-- The first run of decimal digits in a text that cannot be made longer, and what stands on both
sides of it. -/
structure FirstRun (text before run after : Text) : Prop where
  split : text = before ++ run ++ after
  unnumbered : ∀ c ∈ before, isDecimalDigit c = false
  nonempty : run ≠ []
  numbered : ∀ c ∈ run, isDecimalDigit c
  ended : ∀ c ∈ after.head?, isDecimalDigit c = false

namespace FirstRun

variable {text before run after : Text}

/-- The run is what is found by passing over all that is no digit. -/
theorem eq_degreeDigits (first : FirstRun text before run after) :
    before = text.takeWhile (fun c => !isDecimalDigit c) ∧ run = degreeDigits text
      ∧ after = (text.dropWhile fun c => !isDecimalDigit c).dropWhile isDecimalDigit := by
  have passed : ∀ c ∈ before, (!isDecimalDigit c) = true := by
    intro c member
    rw [first.unnumbered c member, Bool.not_false]
  have boundary : ∀ c ∈ (run ++ after).head?, (!isDecimalDigit c) = false := by
    obtain ⟨digit, others, rfl⟩ := List.exists_cons_of_ne_nil first.nonempty
    intro c begins
    obtain rfl := Option.some.inj begins
    rw [first.numbered digit List.mem_cons_self, Bool.not_true]
  have behind : text.dropWhile (fun c => !isDecimalDigit c) = run ++ after := by
    rw [first.split, List.append_assoc, dropWhile_append_boundary passed boundary]
  refine ⟨?_, ?_, ?_⟩
  · rw [first.split, List.append_assoc, takeWhile_append_boundary passed boundary]
  · rw [degreeDigits, behind, takeWhile_append_boundary first.numbered first.ended]
  · rw [behind, dropWhile_append_boundary first.numbered first.ended]

theorem unique {otherBefore otherRun otherAfter : Text} (first : FirstRun text before run after)
    (again : FirstRun text otherBefore otherRun otherAfter) :
    otherBefore = before ∧ otherRun = run ∧ otherAfter = after := by
  obtain ⟨sameBefore, sameRun, sameAfter⟩ := first.eq_degreeDigits
  obtain ⟨othersBefore, othersRun, othersAfter⟩ := again.eq_degreeDigits
  exact ⟨othersBefore.trans sameBefore.symm, othersRun.trans sameRun.symm,
    othersAfter.trans sameAfter.symm⟩

/-- A character that is no digit may be put anywhere but within the run, and the run stays the
first one. -/
theorem exists_insert {left right : Text} {mark : CodePoint} (noDigit : isDecimalDigit mark = false)
    (first : FirstRun (left ++ right) before run after)
    (outside : ¬ (before.length < left.length ∧ left.length < before.length + run.length)) :
    ∃ newBefore newAfter, FirstRun (left ++ mark :: right) newBefore run newAfter := by
  have halves : left ++ right = before ++ (run ++ after) := by
    rw [first.split, List.append_assoc]
  rcases Nat.lt_or_ge before.length left.length with behind | within
  · -- The place lies behind the run, so the mark comes into what follows the run.
    have beyond : (before ++ run).length ≤ left.length := by
      rw [List.length_append]
      omega
    have whole : before ++ run <+: left := by
      refine List.prefix_of_prefix_length_le ?_ (List.prefix_append left right) beyond
      exact ⟨after, first.split.symm⟩
    obtain ⟨passed, rfl⟩ := whole
    have rest : after = passed ++ right := by
      have same := first.split
      rw [List.append_assoc (before ++ run)] at same
      exact (List.append_cancel_left same).symm
    refine ⟨before, passed ++ mark :: right, ⟨by simp, first.unnumbered, first.nonempty,
      first.numbered, ?_⟩⟩
    cases passed with
    | nil => simpa using noDigit
    | cons c others =>
        have ended := first.ended
        rw [rest] at ended
        exact ended
  · -- The place lies in front of the run or at its beginning.
    have early : left <+: before := by
      refine List.prefix_of_prefix_length_le ⟨right, rfl⟩ ?_ within
      exact ⟨run ++ after, halves.symm⟩
    obtain ⟨middle, rfl⟩ := early
    have rest : right = middle ++ (run ++ after) := by
      rw [List.append_assoc] at halves
      exact List.append_cancel_left halves
    refine ⟨left ++ mark :: middle, after, ⟨by simp [rest], ?_, first.nonempty, first.numbered,
      first.ended⟩⟩
    intro c member
    rcases List.mem_append.1 member with inLeft | inRest
    · exact first.unnumbered c (List.mem_append_left _ inLeft)
    · rcases List.mem_cons.1 inRest with rfl | inMiddle
      · exact noDigit
      · exact first.unnumbered c (List.mem_append_right _ inMiddle)

end FirstRun

theorem exists_firstRun {text : Text} (numbered : ∃ c ∈ text, isDecimalDigit c) :
    ∃ before run after, FirstRun text before run after := by
  let behind := text.dropWhile fun c => !isDecimalDigit c
  obtain ⟨digit, rest, shape⟩ : ∃ digit rest, behind = digit :: rest := by
    refine List.exists_cons_of_ne_nil fun nothing => ?_
    obtain ⟨c, member, isDigit⟩ := numbered
    have passed := List.dropWhile_eq_nil_iff.1 nothing c member
    simp [isDigit] at passed
  have begins : isDecimalDigit digit := by
    simpa [behind, shape] using List.head?_dropWhile_not (fun c => !isDecimalDigit c) text
  refine ⟨text.takeWhile fun c => !isDecimalDigit c, behind.takeWhile isDecimalDigit,
    behind.dropWhile isDecimalDigit, ⟨?_, ?_, ?_, fun c => List.mem_takeWhile_imp, ?_⟩⟩
  · rw [List.append_assoc, List.takeWhile_append_dropWhile, List.takeWhile_append_dropWhile]
  · intro c member
    simpa using List.mem_takeWhile_imp member
  · rw [shape, List.takeWhile_cons_of_pos begins]
    exact List.cons_ne_nil _ _
  · intro c next
    simpa [Option.mem_def.1 next] using List.head?_dropWhile_not isDecimalDigit behind

/-! ### Degrees and marks -/

/-- The number that a run of decimal digits denotes by position, whatever their scripts are. -/
def runValue (run : Text) : Nat :=
  Nat.ofDigits 10 (run.filterMap digitValue?).reverse

/-- Half-steps of the seven degrees within an octave of the major scale. -/
def scaleHalfsteps : List Int :=
  [0, 2, 4, 5, 7, 9, 11]

/-- The width of a natural degree: twelve half-steps for every seven degrees, and those of the
degree that is left within the octave. -/
def width (degree : Nat) : Int :=
  12 * ((degree - 1) / 7 : Nat) + scaleHalfsteps.get ⟨(degree - 1) % 7, Nat.mod_lt _ (by decide)⟩

/-- The degrees of two octaves have the widths of the major scale, and no others have any. -/
theorem naturalHalfsteps?_eq (degree : Nat) :
    naturalHalfsteps? degree = if 1 ≤ degree ∧ degree ≤ 15 then some (width degree) else none := by
  have tabulated : ∀ degree < 16, naturalHalfsteps? degree
      = if 1 ≤ degree ∧ degree ≤ 15 then some (width degree) else none := by
    decide
  rcases Nat.lt_or_ge degree 16 with small | large
  · exact tabulated degree small
  · obtain ⟨index, rfl⟩ : ∃ index, degree = index + 1 := ⟨degree - 1, by omega⟩
    have length : degreeHalfsteps.length = 15 := rfl
    rw [if_neg (by omega)]
    exact List.getElem?_eq_none (by omega)

theorem width_add_seven {degree : Nat} (positive : 1 ≤ degree) :
    width (degree + 7) = width degree + 12 := by
  have octave : (degree + 7 - 1) / 7 = (degree - 1) / 7 + 1 := by omega
  have rest : (degree + 7 - 1) % 7 = (degree - 1) % 7 := by omega
  simp only [width, octave, rest]
  omega

/-! ### Half-steps -/

theorem halfsteps_of_unnumbered {token : Text}
    (unnumbered : ∀ c ∈ token, isDecimalDigit c = false) :
    halfsteps token = .error (.degreeOutOfRange token) := by
  have nothing : degreeDigits token = [] := by
    rw [degreeDigits, List.dropWhile_eq_nil_iff.2, List.takeWhile_nil]
    intro c member
    rw [unnumbered c member, Bool.not_false]
  have zero : degree token = .ok 0 := by
    rw [degree, nothing]
    rfl
  simp only [halfsteps, zero, naturalHalfsteps?]

variable {token before run after : Text}

theorem degree_of_firstRun (first : FirstRun token before run after) :
    degree token = if 4300 < run.length then .error (.integerTooLong run.length)
      else .ok (runValue run) := by
  rw [degree, ← first.eq_degreeDigits.2.1, Numeral.readRun, Numeral.valueOf_eq_ofDigits]
  rfl

theorem halfsteps_of_firstRun (first : FirstRun token before run after) :
    halfsteps token =
      if 4300 < run.length then .error (.integerTooLong run.length)
      else if 1 ≤ runValue run ∧ runValue run ≤ 15 then
        .ok (width (runValue run) + Accidental.netMarks token)
      else .error (.degreeOutOfRange token) := by
  rw [halfsteps, degree_of_firstRun first]
  by_cases long : 4300 < run.length
  · rw [if_pos long, if_pos long]
  · rw [if_neg long, if_neg long]
    simp only [naturalHalfsteps?_eq]
    by_cases known : 1 ≤ runValue run ∧ runValue run ≤ 15
    · rw [if_pos known, if_pos known]
    · rw [if_neg known, if_neg known]

theorem halfsteps_eq_ok_iff_of_firstRun (first : FirstRun token before run after) {steps : Int} :
    halfsteps token = .ok steps
      ↔ run.length ≤ 4300 ∧ (1 ≤ runValue run ∧ runValue run ≤ 15)
        ∧ steps = width (runValue run) + Accidental.netMarks token := by
  rw [halfsteps_of_firstRun first]
  by_cases long : 4300 < run.length
  · simp [if_pos long, Nat.not_le.2 long]
  · by_cases known : 1 ≤ runValue run ∧ runValue run ≤ 15
    · rw [if_neg long, if_pos known, Except.ok.injEq]
      constructor
      · rintro rfl
        exact ⟨Nat.not_lt.1 long, known, rfl⟩
      · exact fun parts => parts.2.2.symm
    · rw [if_neg long, if_neg known]
      constructor
      · intro refused
        cases refused
      · exact fun parts => absurd parts.2.1 known

/-- A mark outside of the run counts for itself. -/
theorem halfsteps_insert {left right : Text} {mark : CodePoint} {steps : Int}
    (noDigit : isDecimalDigit mark = false) (first : FirstRun (left ++ right) before run after)
    (outside : ¬ (before.length < left.length ∧ left.length < before.length + run.length))
    (read : halfsteps (left ++ right) = .ok steps) :
    halfsteps (left ++ mark :: right) = .ok (steps + Accidental.netMarks [mark]) := by
  obtain ⟨newBefore, newAfter, kept⟩ := first.exists_insert noDigit outside
  obtain ⟨short, known, rfl⟩ := (halfsteps_eq_ok_iff_of_firstRun first).1 read
  refine (halfsteps_eq_ok_iff_of_firstRun kept).2 ⟨short, known, ?_⟩
  rw [Accidental.netMarks_insert]
  omega

/-- What stands around the run counts by its marks alone. -/
theorem netMarks_of_firstRun (first : FirstRun token before run after) :
    Accidental.netMarks token = Accidental.netMarks (before ++ after) := by
  rw [first.split, Accidental.netMarks_append_eq_add, Accidental.netMarks_append_eq_add,
    Accidental.netMarks_append_eq_add, netMarks_of_isDecimalDigit first.numbered]
  omega

/-- Another degree between the same marks in any order makes the difference of the widths. -/
theorem halfsteps_of_rearranged {other otherBefore otherRun otherAfter : Text} {steps : Int}
    (first : FirstRun token before run after)
    (otherFirst : FirstRun other otherBefore otherRun otherAfter)
    (rearranged : (otherBefore ++ otherAfter).Perm (before ++ after))
    (short : otherRun.length ≤ 4300) (known : 1 ≤ runValue otherRun ∧ runValue otherRun ≤ 15)
    (read : halfsteps token = .ok steps) :
    halfsteps other = .ok (steps + (width (runValue otherRun) - width (runValue run))) := by
  obtain ⟨-, -, rfl⟩ := (halfsteps_eq_ok_iff_of_firstRun first).1 read
  refine (halfsteps_eq_ok_iff_of_firstRun otherFirst).2 ⟨short, known, ?_⟩
  rw [netMarks_of_firstRun otherFirst, netMarks_of_firstRun first,
    Accidental.netMarks_of_perm rearranged]
  omega

/-- A token has the half-steps of the degree that its first run of decimal digits denotes, one more
for each sharp and one less for each flat, wherever they stand. A token without digits is refused,
and so is a degree beyond two octaves; a run with too many digits is refused as a number. So a mark
that is put anywhere but within the run of a token with half-steps counts for itself, what
stands around the run may be rearranged, and seven degrees are an octave. -/
theorem halfsteps_reads_degree (token : Text) :
    ((∀ c ∈ token, isDecimalDigit c = false)
        ∧ halfsteps token = .error (.degreeOutOfRange token))
      ∨ ∃ before run after, FirstRun token before run after
        ∧ (∀ otherBefore otherRun otherAfter, FirstRun token otherBefore otherRun otherAfter →
            otherBefore = before ∧ otherRun = run ∧ otherAfter = after)
        ∧ (4300 < run.length → halfsteps token = .error (.integerTooLong run.length))
        ∧ (run.length ≤ 4300 → ¬ (1 ≤ runValue run ∧ runValue run ≤ 15) →
            halfsteps token = .error (.degreeOutOfRange token))
        ∧ (run.length ≤ 4300 → 1 ≤ runValue run → runValue run ≤ 15 →
            halfsteps token = .ok (width (runValue run) + (token.count (.scalar '#')
              - token.count (.scalar 'b') - token.count (.scalar 'B'))))
        ∧ ∀ steps, halfsteps token = .ok steps →
            (∀ left right, token = left ++ right →
              ¬ (before.length < left.length ∧ left.length < before.length + run.length) →
                halfsteps (left ++ .scalar '#' :: right) = .ok (steps + 1)
                  ∧ halfsteps (left ++ .scalar 'b' :: right) = .ok (steps - 1)
                  ∧ halfsteps (left ++ .scalar 'B' :: right) = .ok (steps - 1))
            ∧ (∀ other otherBefore otherAfter, FirstRun other otherBefore run otherAfter →
                (otherBefore ++ otherAfter).Perm (before ++ after) → halfsteps other = .ok steps)
            ∧ ∀ higher higherBefore higherRun higherAfter,
                FirstRun higher higherBefore higherRun higherAfter →
                (higherBefore ++ higherAfter).Perm (before ++ after) →
                higherRun.length ≤ 4300 → runValue higherRun = runValue run + 7 →
                runValue run ≤ 8 → halfsteps higher = .ok (steps + 12) := by
  by_cases numbered : ∃ c ∈ token, isDecimalDigit c
  · right
    obtain ⟨before, run, after, first⟩ := exists_firstRun numbered
    have reading := halfsteps_of_firstRun first
    refine ⟨before, run, after, first, fun _ _ _ => first.unique, ?long, ?unknown, ?known, ?_⟩
    case long =>
      intro long
      rw [reading, if_pos long]
    case unknown =>
      intro short unknown
      rw [reading, if_neg (Nat.not_lt.2 short), if_neg unknown]
    case known =>
      intro short lower upper
      rw [reading, if_neg (Nat.not_lt.2 short), if_pos ⟨lower, upper⟩,
        Accidental.netMarks_eq_count]
    intro steps read
    obtain ⟨short, known, -⟩ := (halfsteps_eq_ok_iff_of_firstRun first).1 read
    refine ⟨?inserted, ?rearranged, ?higher⟩
    case inserted =>
      rintro left right rfl outside
      exact ⟨halfsteps_insert (by decide) first outside read,
        halfsteps_insert (by decide) first outside read,
        halfsteps_insert (by decide) first outside read⟩
    case rearranged =>
      intro other otherBefore otherAfter otherFirst rearranged
      have same := halfsteps_of_rearranged first otherFirst rearranged short known read
      rwa [Int.sub_self, Int.add_zero] at same
    case higher =>
      intro higher higherBefore higherRun higherAfter higherFirst rearranged higherShort seven low
      have above := halfsteps_of_rearranged first higherFirst rearranged higherShort (by omega) read
      rw [seven, width_add_seven known.1, Int.add_comm _ 12, Int.add_sub_cancel] at above
      exact above
  · left
    have unnumbered : ∀ c ∈ token, isDecimalDigit c = false := by
      intro c member
      exact Bool.eq_false_iff.2 fun digit => numbered ⟨c, member, digit⟩
    exact ⟨unnumbered, halfsteps_of_unnumbered unnumbered⟩

/-- A third in Arabic digits, between marks and a second number that does not count. -/
theorem halfsteps_reads_degree_sample :
    let before := "xB#".toText
    let run : Text := ['\u0660', '\u0663']
    let after := "b4".toText
    let token := before ++ run ++ after
    FirstRun token before run after ∧ run.length ≤ 4300 ∧ runValue run = 3
      ∧ halfsteps token = .ok 3
      ∧ halfsteps (before ++ .scalar '#' :: (run ++ after)) = .ok 4
      ∧ halfsteps ("#bB".toText ++ run ++ "x4".toText) = .ok 3
      ∧ halfsteps (before ++ "10".toText ++ after) = .ok 15 := by
  intro before run after token
  have first : FirstRun token before run after :=
    ⟨rfl, by decide, by decide, by decide, by decide⟩
  have value : runValue run = 3 := by decide
  have short : run.length ≤ 4300 := by decide
  rcases halfsteps_reads_degree token with ⟨unnumbered, -⟩ |
    ⟨ownBefore, ownRun, ownAfter, -, unique, -, -, known, changes⟩
  · exact absurd (unnumbered '\u0663' (by decide)) (by decide)
  obtain ⟨rfl, rfl, rfl⟩ := unique before run after first
  have sum : width (runValue run) + ((token.count (.scalar '#') : Int)
      - token.count (.scalar 'b') - token.count (.scalar 'B')) = 3 := by decide
  have read : halfsteps token = .ok 3 := by
    rw [known short (by decide) (by decide), sum]
  obtain ⟨inserted, rearranged, higher⟩ := changes 3 read
  refine ⟨first, short, value, read, ?_, ?_, ?_⟩
  · exact (inserted before (run ++ after) (List.append_assoc _ _ _) (by decide)).1
  · exact rearranged _ "#bB".toText "x4".toText ⟨rfl, by decide, by decide, by decide, by decide⟩
      (by decide)
  · exact higher _ before "10".toText after ⟨rfl, by decide, by decide, by decide, by decide⟩
      (.refl _) (by decide) (by decide) (by decide)

end MusicText.Interval
