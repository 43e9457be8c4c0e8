import Mathlib.Data.List.Infix
import Mathlib.Data.List.TakeWhile
import MusicText.Json.Reader
import MusicText.Proofs.Json.Names

/-!
Contract: what every reading of a value keeps.

Owns: the texts that account for a limit that is exceeded, the proof that whatever is read has
distinct names and leaves an end of its source, and that limits are exceeded on these texts only.

Does not own: distinct names; see `MusicText.Proofs.Json.Names`.

The three readers call each other, so what they keep is shown of all of them at once.
-/

namespace MusicText.Json

open MusicText.Text

/-! ### Limits -/

def isOpening (c : CodePoint) : Bool :=
  c == '[' || c == '\x7b'

/-- Whether a source accounts for a stop: it opens too many containers, or holds a run of too many
digits, unless it has a defect. -/
inductive Accounts (nesting : Nat) (source : Text) : Stop → Prop
  | defect (kind : Defect) (left : Nat) : Accounts nesting source (.defect kind left)
  | nested (container : Container) (deep : nesting < source.countP isOpening) :
      Accounts nesting source (.nestedTooDeeply container)
  | long {run : Text} (within : run <:+: source) (numerical : ∀ c ∈ run, c.isDigit)
      (long : 4300 < run.length) : Accounts nesting source (.integerTooLong run.length)

namespace Accounts

variable {nesting : Nat} {source longer : Text} {stop : Stop}

theorem of_suffix (accounts : Accounts nesting source stop) (suffix : source <:+ longer) :
    Accounts nesting longer stop := by
  cases accounts with
  | defect => exact .defect _ _
  | nested container deep =>
      exact .nested container (Nat.lt_of_lt_of_le deep (suffix.sublist.countP_le))
  | long within numerical long => exact .long (within.trans suffix.isInfix) numerical long

theorem opened {c : CodePoint} (accounts : Accounts nesting source stop) (opening : isOpening c)
    (suffix : source <:+ longer) : Accounts (nesting + 1) (c :: longer) stop := by
  cases accounts with
  | defect => exact .defect _ _
  | nested container deep =>
      apply Accounts.nested
      rw [List.countP_cons_of_pos opening]
      exact Nat.succ_lt_succ (Nat.lt_of_lt_of_le deep (suffix.sublist.countP_le))
  | long within numerical long =>
      exact .long (within.trans (suffix.trans (List.suffix_cons _ _)).isInfix) numerical long

end Accounts

/-! ### What readings keep -/

/-- What a reading keeps: what is read is fine and leaves an end of the source, or else the source
accounts for the stop. -/
inductive Keeps {α : Type} (fine : α → Prop) (nesting : Nat) (source : Text) :
    Except Stop (α × Rest source) → Prop
  | value {value : α} {behind : Rest source} (good : fine value)
      (left : behind.text <:+ source) : Keeps fine nesting source (.ok (value, behind))
  | stop {stop : Stop} (accounts : Accounts nesting source stop) :
      Keeps fine nesting source (.error stop)

namespace Keeps

variable {α : Type} {fine : α → Prop} {nesting : Nat} {source : Text}
  {result : Except Stop (α × Rest source)}

theorem good_of_ok {value : α} {behind : Rest source} (keeps : Keeps fine nesting source result)
    (read : result = .ok (value, behind)) : fine value := by
  subst read
  cases keeps with
  | value good => exact good

theorem left_of_ok {value : α} {behind : Rest source} (keeps : Keeps fine nesting source result)
    (read : result = .ok (value, behind)) : behind.text <:+ source := by
  subst read
  cases keeps with
  | value good left => exact left

theorem accounts_of_error {stop : Stop} (keeps : Keeps fine nesting source result)
    (read : result = .error stop) : Accounts nesting source stop := by
  subst read
  cases keeps with
  | stop accounts => exact accounts

end Keeps

theorem skipGap_suffix (source : Text) : skipGap source <:+ source :=
  List.dropWhile_suffix _

section Gaps

variable {c : CodePoint} {source before after : Text} (left : before <:+ source)
  (following : skipGap before = c :: after)

include left following

theorem cons_suffix_of_skipGap_eq : c :: after <:+ source :=
  following ▸ (skipGap_suffix before).trans left

theorem suffix_of_skipGap_eq : after <:+ source :=
  (List.suffix_cons c after).trans (cons_suffix_of_skipGap_eq left following)

theorem skipGap_suffix_of_eq : skipGap after <:+ source :=
  (skipGap_suffix after).trans (suffix_of_skipGap_eq left following)

theorem length_skipGap_lt : (skipGap after).length < source.length := by
  have shorter : (c :: after).length ≤ source.length :=
    (cons_suffix_of_skipGap_eq left following).length_le
  exact Nat.lt_of_le_of_lt (length_skipGap_le after) shorter

end Gaps

/-! ### Strings -/

/-- What reading a string keeps: it leaves an end of the source, or the source has a defect. -/
inductive KeepsString (source : Text) : Except Stop (StringPart source) → Prop
  | part {part : StringPart source} (left : part.rest.text <:+ source) :
      KeepsString source (.ok part)
  | defect (kind : Defect) (left : Nat) : KeepsString source (.error (.defect kind left))

theorem KeepsString.cons {source longer : Text} {result : Except Stop (StringPart source)}
    (keeps : KeepsString source result) (unit : Nat) (suffix : source <:+ longer)
    (shorter : source.length ≤ longer.length) :
    KeepsString longer (result.map fun part => part.cons unit shorter) := by
  cases keeps with
  | part left => exact .part (left.trans suffix)
  | defect kind left => exact .defect kind left

theorem keepsString_readUnits (opening : Nat) (source : Text) :
    KeepsString source (readUnits opening source) := by
  fun_induction readUnits opening source with
  | case1 | case3 | case4 | case5 | case7 | case8 => exact .defect _ _
  | case2 rest => exact .part (List.suffix_cons _ _)
  | case6 first second third fourth next more unit _ _ _ inductionHypothesis =>
      exact inductionHypothesis.cons _
        (List.suffix_append [_, _, first, second, third, fourth] _) _
  | case9 letter more _ _ plain _ _ _ inductionHypothesis =>
      exact inductionHypothesis.cons _ (List.suffix_append [_, letter] _) _
  | case10 c rest _ _ _ inductionHypothesis =>
      exact inductionHypothesis.cons _ (List.suffix_cons _ _) _

theorem keeps_readString (nesting : Nat) (source : Text) :
    Keeps (fun _ => True) nesting source (readString source) := by
  have keeps := keepsString_readUnits (source.length + 1) source
  rw [readString]
  generalize readUnits (source.length + 1) source = result at keeps
  cases keeps with
  | part left => exact .value trivial left
  | defect kind left => exact .stop (.defect kind left)

theorem left_of_readString {source text : Text} {behind : Rest source}
    (read : readString source = .ok (text, behind)) : behind.text <:+ doubleQuote :: source :=
  ((keeps_readString 0 source).left_of_ok read).trans (List.suffix_cons _ _)

/-! ### Scalars -/

theorem cutSign_suffix (source : Text) : (Numeral.cutSign source).2 <:+ source := by
  unfold Numeral.cutSign
  split
  · exact List.suffix_cons _ _
  · exact List.suffix_cons _ _
  · exact List.suffix_rfl

theorem cutDigits_suffix {source digits rest : Text} (cut : cutDigits source = (digits, rest)) :
    rest <:+ source := by
  obtain ⟨-, rfl⟩ := Prod.mk.inj cut
  exact List.dropWhile_suffix _

theorem readExponent?_suffix {source behind : Text} {exponent : Int}
    (read : readExponent? source = some (exponent, behind)) : behind <:+ source := by
  revert read
  fun_cases readExponent? source with
  | case1 => rintro ⟨⟩
  | case2 sign body signed digits rest cut =>
      rintro ⟨⟩
      have suffix := cutSign_suffix source
      rw [signed] at suffix
      exact (cutDigits_suffix cut).trans suffix

/-- A number leaves an end of its source and takes its integer digits from there. -/
theorem readNumberParts?_within {source behind : Text} {parts : NumberParts}
    (read : readNumberParts? source = some (parts, behind)) :
    behind <:+ source ∧ parts.whole <:+: source ∧ ∀ c ∈ parts.whole, c.isDigit := by
  revert read
  fun_cases readNumberParts? source with
  | case1 => rintro ⟨⟩
  | case2 negative body signed digits rest cut whole afterWhole _ decimals afterPoint point exponent
      final exponential =>
      rintro ⟨⟩
      have isBody : body <:+ source := by
        split at signed
        · cases signed
          exact List.suffix_cons _ _
        · cases signed
          exact List.suffix_rfl
      have leads : whole <+: digits := by
        -- A leading zero stands alone, whatever digits follow it.
        unfold whole
        split
        · rename_i zero
          obtain ⟨others, rfl⟩ := List.head?_eq_some_iff.1 zero
          exact ⟨others, rfl⟩
        · exact List.prefix_rfl
      have numerical : ∀ c ∈ digits, c.isDigit := by
        obtain ⟨rfl, -⟩ := Prod.mk.inj cut
        exact fun c member => List.mem_takeWhile_imp member
      have isWhole : digits <+: body := by
        obtain ⟨rfl, -⟩ := Prod.mk.inj cut
        exact List.takeWhile_prefix _
      have isAfterWhole : afterWhole <:+ body := by
        unfold afterWhole
        split
        · exact List.drop_suffix _ _
        · exact cutDigits_suffix cut
      have isAfterPoint : afterPoint <:+ afterWhole := by
        generalize afterWhole = text at point
        split at point
        · rename_i rest
          generalize pointed : cutDigits rest = halves at point
          obtain ⟨digits, more⟩ := halves
          simp only at point
          split at point
          · cases point
            exact List.suffix_rfl
          · cases point
            exact (cutDigits_suffix pointed).trans (List.suffix_cons _ _)
        · cases point
          exact List.suffix_rfl
      have isBehind : behind <:+ afterPoint := by
        split at exponential
        · split at exponential
          · split at exponential
            · rename_i read
              cases exponential
              exact (readExponent?_suffix read).trans (List.suffix_cons _ _)
            · cases exponential
              exact List.suffix_rfl
          · cases exponential
            exact List.suffix_rfl
        · cases exponential
          exact List.suffix_rfl
      refine ⟨isBehind.trans (isAfterPoint.trans (isAfterWhole.trans isBody)),
        (leads.trans isWhole).isInfix.trans isBody.isInfix, ?_⟩
      exact fun c member => numerical c (leads.subset member)

theorem wellNamed_of_toValue {parts : NumberParts} {value : Json}
    (done : parts.toValue = .ok value) : WellNamed value := by
  revert done
  fun_cases NumberParts.toValue parts with
  | case1 => rintro ⟨⟩
  | case2 => rintro ⟨⟩; exact .integer _
  | case3 => rintro ⟨⟩; exact .fraction _

theorem accounts_of_toValue {parts : NumberParts} {stop : Stop} {nesting : Nat} {source : Text}
    (within : parts.whole <:+: source) (numerical : ∀ c ∈ parts.whole, c.isDigit)
    (stopped : parts.toValue = .error stop) : Accounts nesting source stop := by
  revert stopped
  fun_cases NumberParts.toValue parts with
  | case1 _ _ long => rintro ⟨⟩; exact .long within numerical long
  | case2 | case3 => rintro ⟨⟩

theorem wellNamed_of_mem_wordLiterals {entry : String × Json} (member : entry ∈ wordLiterals) :
    WellNamed entry.2 := by
  simp only [wordLiterals, List.mem_cons, List.not_mem_nil, or_false] at member
  rcases member with rfl | rfl | rfl | rfl | rfl | rfl
  · exact .null
  · exact .boolean true
  · exact .boolean false
  all_goals exact .fraction _

theorem keeps_readScalar (nesting : Nat) (source : Text) :
    Keeps WellNamed nesting source (readScalar source) := by
  fun_cases readScalar source with
  | case1 word value found behind shorter =>
      exact .value (wellNamed_of_mem_wordLiterals (List.mem_of_find?_eq_some found))
        (List.drop_suffix _ _)
  | case2 | case3 | case6 => exact .stop (.defect _ _)
  | case4 _ parts behind read _ stop stopped =>
      obtain ⟨-, within, numerical⟩ := readNumberParts?_within read
      exact .stop (accounts_of_toValue within numerical stopped)
  | case5 _ parts behind read _ value done =>
      exact .value (wellNamed_of_toValue done) (readNumberParts?_within read).1

/-! ### Arrays and objects -/

/-- Whether the readers keep what they should on all sources below a length. -/
structure KeepsBelow (length : Nat) : Prop where
  value : ∀ (nesting : Nat) (source : Text), source.length < length →
    Keeps WellNamed nesting source (readValue nesting source)
  items : ∀ (nesting : Nat) (source : Text), source.length < length →
    Keeps (∀ item ∈ ·, WellNamed item) nesting source (readItems nesting source)
  members : ∀ (nesting : Nat) (source : Text), source.length < length →
    Keeps (∀ member ∈ ·, WellNamed member.2) nesting source (readMembers nesting source)

theorem keeps_readValue_of_below (nesting : Nat) (source : Text) :
    KeepsBelow source.length → Keeps WellNamed nesting source (readValue nesting source) := by
  -- The source is cut up with the result, whose type depends on it, so both are in the motive.
  refine readValue.fun_cases_unfolding
    (fun nesting source result => KeepsBelow source.length → Keeps WellNamed nesting source result)
    ?nothing ?stringStopped ?string ?arrayTooDeep ?arrayEmpty ?arrayStopped ?array
    ?objectTooDeep ?objectEmpty ?objectStopped ?object ?scalar nesting source
  case nothing => exact fun _ _ => .stop (.defect _ _)
  case stringStopped =>
    intro nesting rest _ stop stopped _
    have accounts := (keeps_readString nesting rest).accounts_of_error stopped
    exact .stop (accounts.of_suffix (List.suffix_cons _ _))
  case string =>
    intro nesting rest _ text behind read _
    exact .value (.string text) (left_of_readString read)
  case arrayTooDeep | objectTooDeep =>
    intros
    exact .stop (.nested _ (by simp [isOpening]))
  case arrayEmpty =>
    intro rest _ inner behind opened _ _
    have left := suffix_of_skipGap_eq (List.suffix_refl rest) opened
    exact .value (.array (by simp)) (left.trans (List.suffix_cons _ _))
  case arrayStopped =>
    intro rest gap inner stop _ _ stopped below
    have keeps := below.items inner (skipGap rest) (Nat.lt_succ_of_le gap)
    exact .stop ((keeps.accounts_of_error stopped).opened rfl (skipGap_suffix rest))
  case array =>
    intro rest gap inner items _ _ behind read below
    have keeps := below.items inner (skipGap rest) (Nat.lt_succ_of_le gap)
    have left := (keeps.left_of_ok read).trans (skipGap_suffix rest)
    exact .value (.array (keeps.good_of_ok read)) (left.trans (List.suffix_cons _ _))
  case objectEmpty =>
    intro rest _ inner behind opened _ _ _
    have left := suffix_of_skipGap_eq (List.suffix_refl rest) opened
    exact .value (.object List.nodup_nil (by simp)) (left.trans (List.suffix_cons _ _))
  case objectStopped =>
    intro rest gap inner stop _ _ _ stopped below
    have keeps := below.members inner (skipGap rest) (Nat.lt_succ_of_le gap)
    exact .stop ((keeps.accounts_of_error stopped).opened rfl (skipGap_suffix rest))
  case object =>
    intro rest gap inner members _ _ _ behind read below
    have keeps := below.members inner (skipGap rest) (Nat.lt_succ_of_le gap)
    have left := (keeps.left_of_ok read).trans (skipGap_suffix rest)
    have nothing : WellNamed (.object []) := .object List.nodup_nil (by simp)
    have named := WellNamed.foldl_setMember (keeps.good_of_ok read) nothing
    exact .value named (left.trans (List.suffix_cons _ _))
  case scalar => exact fun _ _ _ _ _ _ _ _ => keeps_readScalar _ _

theorem keeps_readItems_of_below {nesting : Nat} {source : Text}
    (below : KeepsBelow source.length) :
    Keeps (∀ item ∈ ·, WellNamed item) nesting source (readItems nesting source) := by
  -- The first item begins where the source does, but what it holds is shorter.
  have value := keeps_readValue_of_below nesting source below
  fun_cases readItems nesting source with
  | case1 stop stopped => exact .stop (value.accounts_of_error stopped)
  | case2 item behind read _ _ rest following =>
      have left := value.left_of_ok read
      refine .value ?_ (suffix_of_skipGap_eq left following)
      simpa using value.good_of_ok read
  | case3 item behind read _ _ rest following _ stop stopped =>
      have left := value.left_of_ok read
      have others := below.items nesting _ (length_skipGap_lt left following)
      have accounts := others.accounts_of_error stopped
      exact .stop (accounts.of_suffix (skipGap_suffix_of_eq left following))
  | case4 item behind read _ _ rest following _ items last readOthers =>
      have left := value.left_of_ok read
      have others := below.items nesting _ (length_skipGap_lt left following)
      have leftOthers := others.left_of_ok readOthers
      refine .value ?_ (leftOthers.trans (skipGap_suffix_of_eq left following))
      exact List.forall_mem_cons.2 ⟨value.good_of_ok read, others.good_of_ok readOthers⟩
  | case5 => exact .stop (.defect _ _)

/-- The value of a member stands behind its name and a colon. -/
theorem KeepsBelow.value_of_member {c : CodePoint} {rest name afterColon : Text}
    {behindName : Rest rest} (below : KeepsBelow (doubleQuote :: rest).length)
    (readName : readString rest = .ok (name, behindName))
    (colon : skipGap behindName.text = c :: afterColon) (nesting : Nat) :
    Keeps WellNamed nesting (skipGap afterColon) (readValue nesting (skipGap afterColon))
      ∧ skipGap afterColon <:+ doubleQuote :: rest := by
  have left := left_of_readString readName
  exact ⟨below.value nesting _ (length_skipGap_lt left colon), skipGap_suffix_of_eq left colon⟩

theorem keeps_readMembers_of_below (nesting : Nat) (source : Text) :
    KeepsBelow source.length →
      Keeps (∀ member ∈ ·, WellNamed member.2) nesting source (readMembers nesting source) := by
  refine readMembers.fun_cases_unfolding nesting
    (fun source result =>
      KeepsBelow source.length → Keeps (∀ member ∈ ·, WellNamed member.2) nesting source result)
    ?nothing ?nameStopped ?valueStopped ?last ?othersStopped ?others ?commaMissing ?colonMissing
    ?nameMissing source
  case nothing => exact fun _ => .stop (.defect _ _)
  case nameStopped =>
    intro rest stop stopped _
    have accounts := (keeps_readString nesting rest).accounts_of_error stopped
    exact .stop (accounts.of_suffix (List.suffix_cons _ _))
  case valueStopped =>
    intro rest name behindName readName _ _ afterColon colon _ stop stopped below
    obtain ⟨value, suffix⟩ := below.value_of_member readName colon nesting
    exact .stop ((value.accounts_of_error stopped).of_suffix suffix)
  case last =>
    intro rest name behindName readName _ _ afterColon colon _ item behind read _ _ last following
      below
    obtain ⟨value, suffix⟩ := below.value_of_member readName colon nesting
    have left := (value.left_of_ok read).trans suffix
    refine .value ?_ (suffix_of_skipGap_eq left following)
    simpa using value.good_of_ok read
  case othersStopped =>
    intro rest name behindName readName _ _ afterColon colon _ item behind read _ _ last following
      _ stop stopped below
    obtain ⟨value, suffix⟩ := below.value_of_member readName colon nesting
    have left := (value.left_of_ok read).trans suffix
    have others := below.members nesting _ (length_skipGap_lt left following)
    have accounts := others.accounts_of_error stopped
    exact .stop (accounts.of_suffix (skipGap_suffix_of_eq left following))
  case others =>
    intro rest name behindName readName _ _ afterColon colon _ item behind read _ _ last following
      _ members final readOthers below
    obtain ⟨value, suffix⟩ := below.value_of_member readName colon nesting
    have left := (value.left_of_ok read).trans suffix
    have others := below.members nesting _ (length_skipGap_lt left following)
    have leftOthers := others.left_of_ok readOthers
    refine .value ?_ (leftOthers.trans (skipGap_suffix_of_eq left following))
    exact List.forall_mem_cons.2 ⟨value.good_of_ok read, others.good_of_ok readOthers⟩
  case commaMissing | colonMissing | nameMissing =>
    intros
    exact .stop (.defect _ _)

theorem keepsBelow (length : Nat) : KeepsBelow length := by
  induction length using Nat.strongRecOn with
  | ind length inductionHypothesis =>
      refine ⟨?_, ?_, ?_⟩
      · intro nesting source shorter
        exact keeps_readValue_of_below nesting source (inductionHypothesis _ shorter)
      · intro nesting source shorter
        exact keeps_readItems_of_below (inductionHypothesis _ shorter)
      · intro nesting source shorter
        exact keeps_readMembers_of_below nesting source (inductionHypothesis _ shorter)

theorem keeps_readValue (nesting : Nat) (source : Text) :
    Keeps WellNamed nesting source (readValue nesting source) :=
  (keepsBelow _).value nesting source (Nat.lt_succ_self _)

/-! ### Whole texts -/

/-- Whether a text opens more containers than may be opened within each other, or holds a run of
more digits than a numeral may have. -/
def Exceeds (nesting : Nat) (source : Text) : Prop :=
  nesting < source.countP isOpening
    ∨ ∃ run, run <:+: source ∧ (∀ c ∈ run, c.isDigit) ∧ 4300 < run.length

variable {nesting : Nat} {source : Text}

/-- What is read has distinct names. -/
theorem wellNamed_of_read {value : Json} (done : read nesting source = .ok value) :
    WellNamed value := by
  have keeps := keeps_readValue nesting (skipGap source)
  unfold read at done
  split at done
  · cases done
  · split at done
    · cases done
    · rename_i result behind reading
      split at done
      · obtain rfl := Except.ok.inj done
        exact keeps.good_of_ok reading
      · cases done

/-- A limit is exceeded on texts only that open too many containers or hold too long a number. -/
theorem exceeds_of_read {refusal : Refusal} (refused : read nesting source = .error refusal)
    (limit : refusal.isLimit) : Exceeds nesting source := by
  have keeps := keeps_readValue nesting (skipGap source)
  unfold read at refused
  split at refused
  · obtain rfl := Except.error.inj refused
    cases limit
  · split at refused
    · rename_i stop reading
      obtain rfl := Except.error.inj refused
      have accounts := (keeps.accounts_of_error reading).of_suffix (skipGap_suffix source)
      cases accounts with
      | defect => cases limit
      | nested container deep => exact Or.inl deep
      | long within numerical long => exact Or.inr ⟨_, within, numerical, long⟩
    · split at refused
      · cases refused
      · obtain rfl := Except.error.inj refused
        cases limit

end MusicText.Json
