import Mathlib.Data.List.DropRight
import MusicText.Proofs.Text.Margin
import MusicText.Proofs.Token.Foreign
import MusicText.Proofs.Token.Reading

/-!
Contract: blanks at the end of a token.

Owns: the blanks that a token of each kind may have at its end, the core in front of them,
and the reading of a token as that of its core.

Does not own: the parse of a text whose tokens are cut down to their cores; see
`MusicText.Proofs.Parse.Spacing`.

A token is not ended by blanks other than the space. At the end of a key token they are
stripped with the name of the key, at the end of a meter token with the last number,
and in a foreign token they make no difference. A value token takes them for a part of an
identifier.
-/

namespace MusicText

open MusicText.Text

/-! ### Outcomes -/

/-- Whether readings leave the same state behind the same calls, and fail alike, though maybe with
other remarks and other failures. -/
structure Outcome.Alike (outcome other : Outcome) : Prop where
  context_eq : outcome.context = other.context
  calls_eq : outcome.calls = other.calls
  isOk_eq : outcome.result.isOk = other.result.isOk

theorem Outcome.Alike.refl (outcome : Outcome) : outcome.Alike outcome :=
  ⟨rfl, rfl, rfl⟩

theorem Outcome.Alike.symm {outcome other : Outcome} (alike : outcome.Alike other) :
    other.Alike outcome :=
  ⟨alike.context_eq.symm, alike.calls_eq.symm, alike.isOk_eq.symm⟩

theorem Outcome.Alike.trans {outcome other third : Outcome} (alike : outcome.Alike other)
    (further : other.Alike third) : outcome.Alike third :=
  ⟨alike.context_eq.trans further.context_eq, alike.calls_eq.trans further.calls_eq,
    alike.isOk_eq.trans further.isOk_eq⟩

theorem Outcome.Alike.refused (context : Context) (failure other : Failure) :
    (Outcome.refused context failure).Alike (.refused context other) :=
  ⟨rfl, rfl, rfl⟩

namespace Token

/-! ### The blanks at the end of a token -/

/-- The characters that do not matter at the end of a token. -/
def mayTrail (token : Text) : CodePoint → Bool :=
  if (Value.markerOf? token).isSome then fun _ => false
  else if Signature.beginsWithMeter token then Numeral.isMargin
  else isBlank

/-- A token without the blanks at its end that do not matter. -/
def core (token : Text) : Text :=
  token.rdropWhile (mayTrail token)

theorem isBlank_of_mayTrail {token : Text} {c : CodePoint} (trails : mayTrail token c) :
    isBlank c := by
  unfold mayTrail at trails
  split at trails
  · cases trails
  · split at trails
    · exact (Bool.and_eq_true_iff.1 trails).1
    · exact trails

theorem core_prefix_self (token : Text) : core token <+: token :=
  List.rdropWhile_prefix _ _

theorem core_eq_take (token : Text) : core token = token.take (core token).length :=
  List.prefix_iff_eq_take.1 (core_prefix_self token)

theorem exists_eq_core_append (token : Text) :
    ∃ trailing, token = core token ++ trailing ∧ ∀ c ∈ trailing, mayTrail token c :=
  ⟨token.rtakeWhile (mayTrail token), List.rdropWhile_append_rtakeWhile.symm,
    fun _ member => List.mem_rtakeWhile_imp member⟩

theorem prefix_core {mark token : Text} (solid : ∀ c ∈ mark, isBlank c = false)
    (begins : mark <+: token) : mark <+: core token := by
  rcases List.prefix_or_prefix_of_prefix begins (core_prefix_self token) with whole | ⟨more, rfl⟩
  · exact whole
  · -- The core would end within the mark, and what is missing of the mark would be blank.
    obtain ⟨trailing, spelled, trails⟩ := exists_eq_core_append token
    obtain ⟨body, whole⟩ := begins
    have behind : more ++ body = trailing :=
      List.append_cancel_left ((List.append_assoc _ _ _).symm.trans (whole.trans spelled))
    cases more with
    | nil => simp
    | cons c rest =>
        have blank : isBlank c := isBlank_of_mayTrail (trails c (by simp [← behind]))
        have solidHead : isBlank c = false := solid c (by simp)
        simp [blank] at solidHead

theorem exists_body {mark token : Text} (solid : ∀ c ∈ mark, isBlank c = false)
    (begins : mark.isPrefixOf token = true) :
    ∃ body trailing, core token = mark ++ body ∧ token = mark ++ (body ++ trailing)
      ∧ ∀ c ∈ trailing, mayTrail token c := by
  obtain ⟨body, whole⟩ := prefix_core solid (List.isPrefixOf_iff_prefix.1 begins)
  obtain ⟨trailing, spelled, trails⟩ := exists_eq_core_append token
  rw [← whole, List.append_assoc] at spelled
  exact ⟨body, trailing, whole.symm, spelled, trails⟩

/-! ### Value tokens -/

theorem core_of_value {token : Text} (valued : (Value.markerOf? token).isSome) :
    core token = token := by
  rw [core, List.rdropWhile_eq_self_iff]
  simp [mayTrail, valued]

/-! ### Key tokens -/

theorem countsAccidentals_append {text trailing : Text} (nonempty : text ≠ [])
    (blank : ∀ c ∈ trailing, isBlank c) :
    Signature.countsAccidentals (text ++ trailing) = Signature.countsAccidentals text := by
  rcases text with _ | ⟨c, _ | ⟨d, rest⟩⟩
  · exact absurd rfl nonempty
  · -- Behind a single character a blank comes into the second place, but it is no accidental.
    cases trailing with
    | nil => rfl
    | cons d rest =>
        have own : isBlank d := blank d (by simp)
        have noSharp : d ≠ '#' := ne_of_isBlank own (by decide)
        have noFlat : d ≠ 'B' := ne_of_isBlank own (by decide)
        have unmarked : (capital d == "#".toText || capital d == "B".toText) = false := by
          simp [capital_of_isBlank own, String.toText, noSharp, noFlat]
        rw [List.singleton_append, Signature.countsAccidentals_cons_cons, unmarked, Bool.and_false]
        simp [Signature.countsAccidentals]
  · rw [List.cons_append, List.cons_append, Signature.countsAccidentals_cons_cons,
      Signature.countsAccidentals_cons_cons]

theorem toOption_ofName_append {trailing : Text} (blank : ∀ c ∈ trailing, isBlank c) (name : Text) :
    (Key.ofName (name ++ trailing)).toOption = (Key.ofName name).toOption := by
  unfold Key.ofName Chord.ofName
  rw [strip_append blank]
  cases Chord.divide? (strip name) with
  | none => rfl
  | some parts =>
      simp only
      cases Chord.qualityTokens? (upper parts.2.quality) <;> rfl

theorem toOption_readKey_of_name {text : Text} (nonempty : text ≠ [])
    (named : Signature.countsAccidentals text = false) :
    (Signature.readKey text).toOption.map Prod.fst = (Key.ofName text).toOption := by
  simp only [Signature.readKey, nonempty, named, Bool.false_eq_true, if_false]
  cases Key.ofName text <;> rfl

theorem toOption_countedKey_append {trailing : Text} (blank : ∀ c ∈ trailing, isBlank c)
    (text : Text) :
    (Signature.countedKey (text ++ trailing)).toOption.map Prod.fst
      = (Signature.countedKey text).toOption.map Prod.fst := by
  unfold Signature.countedKey
  simp only [Accidental.netMarks_append blank]
  split
  · rfl
  · split <;> rfl

/-- The key of a text does not depend on the blanks behind it; what is remarked on it may. -/
theorem toOption_readKey_append {trailing : Text} (blank : ∀ c ∈ trailing, isBlank c)
    (text : Text) :
    (Signature.readKey (text ++ trailing)).toOption.map Prod.fst
      = (Signature.readKey text).toOption.map Prod.fst := by
  by_cases nonempty : text = []
  · subst nonempty
    cases trailing with
    | nil => rfl
    | cons c rest =>
        have named : Signature.countsAccidentals (c :: rest) = false := by
          have different : c ≠ 'K' := ne_of_isBlank (blank c (by simp)) (by decide)
          simp [Signature.countsAccidentals, different]
        rw [List.nil_append, toOption_readKey_of_name (by simp) named]
        exact (toOption_ofName_append blank []).trans rfl
  · have counts := countsAccidentals_append nonempty blank
    have extended : text ++ trailing ≠ [] := by simp [nonempty]
    cases counting : Signature.countsAccidentals text with
    | true =>
        rw [counting] at counts
        simp only [Signature.readKey, nonempty, extended, counting, counts, if_true, if_false]
        exact toOption_countedKey_append blank text
    | false =>
        rw [counting] at counts
        rw [toOption_readKey_of_name extended counts, toOption_readKey_of_name nonempty counting,
          toOption_ofName_append blank]

/-! ### Meter tokens -/

theorem toOption_read_append {trailing : Text} (marginal : ∀ c ∈ trailing, Numeral.isMargin c)
    (text : Text) :
    (Numeral.read (text ++ trailing)).toOption = (Numeral.read text).toOption := by
  unfold Numeral.read
  rw [trim_append marginal]
  obtain ⟨sign, body⟩ := Numeral.cutSign (trim Numeral.isMargin text)
  simp only
  split
  · split
    · rfl
    · split <;> rfl
  · rfl

theorem ok_or_error_of_toOption_eq {ε α : Type} {one two : Except ε α}
    (same : one.toOption = two.toOption) :
    (∃ value, one = .ok value ∧ two = .ok value)
      ∨ ∃ failure other, one = .error failure ∧ two = .error other := by
  cases one with
  | ok value =>
      cases two with
      | ok other => exact Or.inl ⟨value, rfl, congrArg Except.ok (Option.some.inj same).symm⟩
      | error other => cases same
  | error failure =>
      cases two with
      | ok other => cases same
      | error other => exact Or.inr ⟨failure, other, rfl, rfl⟩

theorem toOption_ofPartTexts_append {trailing : Text}
    (marginal : ∀ c ∈ trailing, Numeral.isMargin c) (numerator denominator : Text) :
    (Meter.ofPartTexts numerator (denominator ++ trailing)).toOption
      = (Meter.ofPartTexts numerator denominator).toOption := by
  unfold Meter.ofPartTexts
  cases Numeral.read numerator with
  | error fault => rfl
  | ok above =>
      rcases ok_or_error_of_toOption_eq (toOption_read_append marginal denominator) with
        ⟨below, extended, alone⟩ | ⟨fault, other, extended, alone⟩
      · simp only [extended, alone]
      · simp only [extended, alone]
        rfl

/-! ### The reading of a token and of its core -/

variable {context : Context}

theorem alike_readKeyToken {trailing : Text} (blank : ∀ c ∈ trailing, isBlank c) (body : Text) :
    (Signature.readKeyToken (Signature.keyMark ++ (body ++ trailing)) context).Alike
      (Signature.readKeyToken (Signature.keyMark ++ body) context) := by
  have same := toOption_readKey_append blank body
  unfold Signature.readKeyToken
  rw [List.drop_left, List.drop_left]
  cases extended : Signature.readKey (body ++ trailing) with
  | error failure =>
      cases alone : Signature.readKey body with
      | error other => exact .refused context failure other
      | ok found => rw [extended, alone] at same; cases same
  | ok found =>
      cases alone : Signature.readKey body with
      | error other => rw [extended, alone] at same; cases same
      | ok other =>
          rw [extended, alone] at same
          have sameKey : found.1 = other.1 := Option.some.inj same
          simp only [sameKey]
          exact ⟨rfl, (calls_accepted _ _ _ _).trans (calls_accepted _ _ _ _).symm, rfl⟩

theorem alike_readMeterToken {trailing : Text} (marginal : ∀ c ∈ trailing, Numeral.isMargin c)
    (body : Text) :
    (Signature.readMeterToken (Signature.meterMark ++ (body ++ trailing)) context).Alike
      (Signature.readMeterToken (Signature.meterMark ++ body) context) := by
  have absent : CodePoint.scalar '/' ∉ trailing := by
    intro member
    exact absurd (marginal _ member) (by decide)
  unfold Signature.readMeterToken
  simp only [List.drop_left, cutAt?_append_of_unmarked absent]
  cases cutAt? '/' body with
  | none => exact .refused context _ _
  | some sides =>
      simp only [Option.map_some]
      rcases ok_or_error_of_toOption_eq (toOption_ofPartTexts_append marginal sides.1 sides.2) with
        ⟨meter, extended, alone⟩ | ⟨fault, other, extended, alone⟩
      · simp only [extended, alone]
        exact ⟨rfl, rfl, rfl⟩
      · simp only [extended, alone]
        exact .refused context _ _

variable {options : Options} {token : Text}

theorem alike_passUnknown (text other : Text) :
    ((Parser.usual options).passUnknown text context).Alike
      ((Parser.usual options).passUnknown other context) := by
  unfold Parser.passUnknown
  split
  · exact .refused context _ _
  · exact ⟨rfl, rfl, rfl⟩

/-- A token has the effect of its core, up to remarks and the cause of a failure. -/
theorem alike_core (unspaced : ∀ c ∈ token, isPart c) :
    (effect options token context).Alike (effect options (core token) context) := by
  have unspacedCore : ∀ c ∈ core token, isPart c :=
    fun c member => unspaced c ((core_prefix_self token).subset member)
  by_cases valued : (Value.markerOf? token).isSome = true
  · rw [core_of_value valued]
    exact .refl _
  by_cases key : Signature.beginsWithKey token = true
  · obtain ⟨body, trailing, cored, spelled, trails⟩ := exists_body (by decide) key
    have keyCore : Signature.beginsWithKey (core token) = true :=
      List.isPrefixOf_iff_prefix.2 ⟨body, cored.symm⟩
    rw [effect_of_key unspaced key, effect_of_key unspacedCore keyCore, cored, spelled]
    exact alike_readKeyToken (fun c member => isBlank_of_mayTrail (trails c member)) body
  by_cases meter : Signature.beginsWithMeter token = true
  · obtain ⟨body, trailing, cored, spelled, trails⟩ := exists_body (by decide) meter
    have meterCore : Signature.beginsWithMeter (core token) = true :=
      List.isPrefixOf_iff_prefix.2 ⟨body, cored.symm⟩
    have marginal : mayTrail token = Numeral.isMargin := by
      simp [mayTrail, valued, meter]
    rw [effect_of_meter unspaced meter, effect_of_meter unspacedCore meterCore, cored, spelled]
    exact alike_readMeterToken (fun c member => marginal ▸ trails c member) body
  · have foreign : isForeign token :=
      isForeign_iff.2 ⟨by simpa using valued, eq_false_of_ne_true key, eq_false_of_ne_true meter⟩
    rw [effect_of_foreign foreign,
      effect_of_foreign (isForeign_of_beginning (core_prefix_self token) foreign)]
    exact alike_passUnknown token (core token)

end Token

end MusicText
