import Mathlib.Data.Int.ModEq
import MusicText.Proofs.Definitions.History
import MusicText.Proofs.Parse.Failure
import MusicText.Proofs.Token.Spacing

/-!
Contract: numbers and names behind the markers of value tokens.

Owns: the ways to write a name, the signed byte or the defect that a name resolves to after a
history of definitions, and the reading of every token with a number or a name.

Does not own: what names denote; see `MusicText.Proofs.Definitions.History`.

A closing bracket is a part of the name unless an opening one stands in front. Digits within
brackets are a name, and so are digits that are not ASCII.
-/

namespace MusicText.Token.Value

open MusicText.Text MusicText.Token.Placed

/-! ### Names -/

/-- Whether a text can be a name behind a marker, with and without brackets. It is not empty, as
some of its characters is no digit. -/
structure IsName (name : Text) : Prop where
  unspaced : ∀ c ∈ name, isPart c
  unbracketed : .scalar '[' ∉ name.head?
  unnumbered : ∃ c ∈ name, c.isDigit = false

/-- The ways to write a name behind a marker. The closing bracket may be missing if this leaves
another end to the name. -/
inductive Spells (name : Text) : Text → Prop
  | bare : Spells name name
  | bracketed : Spells name (.scalar '[' :: (name ++ [.scalar ']']))
  | halfBracketed (unclosed : .scalar ']' ∉ name.getLast?) : Spells name (.scalar '[' :: name)

variable {name identifier behind : Text} {marker : Marker} {context : Context}

theorem IsName.nonempty (named : IsName name) : name ≠ [] := by
  obtain ⟨c, member, -⟩ := named.unnumbered
  exact List.ne_nil_of_mem member

theorem not_isNumber_bracket (rest : Text) : isNumber (.scalar '[' :: rest) = false := by
  rw [Bool.eq_false_iff]
  intro number
  exact absurd ((isNumber_iff.1 number).2 _ List.mem_cons_self) (by decide)

namespace Spells

theorem nonempty (spells : Spells name identifier) (named : IsName name) : identifier ≠ [] := by
  cases spells with
  | bare => exact named.nonempty
  | bracketed | halfBracketed => exact List.cons_ne_nil _ _

theorem not_isNumber (spells : Spells name identifier) (named : IsName name) :
    isNumber identifier = false := by
  cases spells with
  | bracketed | halfBracketed => exact not_isNumber_bracket _
  | bare =>
      obtain ⟨c, member, other⟩ := named.unnumbered
      rw [Bool.eq_false_iff]
      intro number
      exact absurd ((isNumber_iff.1 number).2 c member) (by simp [other])

theorem nameOf_eq (spells : Spells name identifier) (named : IsName name) :
    nameOf identifier = name := by
  cases spells with
  | bracketed => simp [nameOf]
  | halfBracketed unclosed => exact if_neg unclosed
  | bare =>
      unfold nameOf
      split
      · exact absurd rfl named.unbracketed
      · rfl

theorem unspaced (spells : Spells name identifier) (named : IsName name) :
    ∀ c ∈ identifier, isPart c := by
  have opening : isPart (.scalar '[') := by decide
  cases spells with
  | bare => exact named.unspaced
  | halfBracketed => exact List.forall_mem_cons.2 ⟨opening, named.unspaced⟩
  | bracketed =>
      refine List.forall_mem_cons.2 ⟨opening, List.forall_mem_append.2 ⟨named.unspaced, ?_⟩⟩
      simp [isPart]

end Spells

/-! ### Signed bytes -/

/-- Whether a number is the signed byte that another one is cut down to. -/
def IsByteOf (byte number : Int) : Prop :=
  -128 ≤ byte ∧ byte ≤ 127 ∧ byte ≡ number [ZMOD 256]

theorem isByteOf_iff {byte number : Int} : IsByteOf byte number ↔ byte = signedByte number := by
  constructor
  · rintro ⟨lower, upper, congruent⟩
    unfold Int.ModEq at congruent
    unfold signedByte
    omega
  · rintro rfl
    exact ⟨(signedByte_mem number).1, (signedByte_mem number).2, signedByte_emod number⟩

/-! ### What names resolve to -/

/-- What a name resolves to after a history: the signed byte of the integer that its value means,
or else what is wrong with it. -/
inductive Resolves (history : Definitions.History) (name : Text) : Except TokenDefect Int → Prop
  | byte {value : Json} {number byte : Int} (denotes : Definitions.Denotes history name value)
      (means : Definitions.Means value number) (narrowed : IsByteOf byte number) :
      Resolves history name (.ok byte)
  | undefined (nothing : ∀ value, ¬ Definitions.Denotes history name value) :
      Resolves history name (.error (.unknownIdentifier name))
  | meaningless {value : Json} (denotes : Definitions.Denotes history name value)
      (nothing : ∀ number, ¬ Definitions.Means value number) :
      Resolves history name (.error (.notANumber name value.inline))

/-- The outcome for a token whose identifier resolves to a byte or is defective. -/
def outcomeOf (marker : Marker) (identifier : Text) (context : Context) :
    Except TokenDefect Int → Outcome
  | .ok byte =>
      .accepted context [.call (.event (marker.event byte))] (marker.letter :: identifier)
  | .error defect => .refused context (.ofDefect defect identifier)

/-- The token's reader looks at nothing behind the token. -/
theorem read_eq (unspaced : ∀ c ∈ identifier, isPart c) (ends : Ends behind) :
    read (marker.letter :: identifier ++ behind) context
      = match valueOf context.definitions identifier with
        | .error failure => .refused context failure
        | .ok byte =>
            .accepted context [.call (.event (marker.event byte))] (marker.letter :: identifier) := by
  have solid : isPart marker.letter := by cases marker <;> decide
  have whole : ∀ c ∈ marker.letter :: identifier, isPart c :=
    List.forall_mem_cons.2 ⟨solid, unspaced⟩
  have taken : first (marker.letter :: identifier ++ behind) = marker.letter :: identifier := by
    rcases ends with rfl | ⟨rest, rfl⟩
    · rw [List.append_nil, first_eq_self whole]
    · exact first_append_space whole
  have marked : markerOf? (marker.letter :: identifier ++ behind) = some marker :=
    Marker.ofLetter?_eq_some_iff.2 rfl
  cases value : valueOf context.definitions identifier with
  | error failure => simp only [read, marked, taken, List.tail_cons, value]
  | ok byte => simp only [read, marked, taken, List.tail_cons, value]

/-! ### What identifiers resolve to -/

variable {history : Definitions.History}

theorem valueOf_of_digits {digits : Text} (nonempty : digits ≠ []) (short : digits.length ≤ 4300)
    (numerical : ∀ c ∈ digits, c.isDigit) (definitions : Definitions) :
    valueOf definitions digits = .ok (signedByte (decimalValue digits)) := by
  rw [valueOf, if_neg nonempty, resolve, if_pos (isNumber_iff.2 ⟨nonempty, numerical⟩),
    Numeral.readRun_of_isDigit numerical short]
  rfl

/-- What a name with this value resolves to. -/
def resolutionOf (name : Text) : Option Json → Except TokenDefect Int
  | none => .error (.unknownIdentifier name)
  | some value =>
      match Definitions.toInteger value with
      | .ok number => .ok (signedByte number)
      | .error _ => .error (.notANumber name value.inline)

section Resolution

variable (ordinary : ∀ entry ∈ history, Definitions.IsOrdinary entry.2)

include ordinary

theorem resolves_iff {outcome : Except TokenDefect Int} :
    Resolves history name outcome
      ↔ outcome = resolutionOf name ((Definitions.ofHistory history).value? name) := by
  have means : ∀ {value : Json}, Definitions.Denotes history name value → ∀ number,
      Definitions.toInteger value = .ok number ↔ Definitions.Means value number := by
    intro value denotes number
    exact Definitions.toInteger_eq_ok_iff (Definitions.isOrdinary_of_denotes ordinary denotes)
  constructor
  · intro resolves
    cases resolves with
    | byte denotes meansNumber narrowed =>
        rw [Definitions.value?_ofHistory_eq_some_iff.2 denotes, isByteOf_iff.1 narrowed]
        simp only [resolutionOf, (means denotes _).2 meansNumber]
    | undefined nothing =>
        rw [Option.eq_none_iff_forall_ne_some.2 fun value found =>
          nothing value (Definitions.value?_ofHistory_eq_some_iff.1 found)]
        rfl
    | meaningless denotes nothing =>
        rename_i value
        rw [Definitions.value?_ofHistory_eq_some_iff.2 denotes, resolutionOf]
        cases meant : Definitions.toInteger value with
        | error unfit => rfl
        | ok number => exact absurd ((means denotes number).1 meant) (nothing number)
  · rintro rfl
    cases found : (Definitions.ofHistory history).value? name with
    | none =>
        refine .undefined fun value denotes => ?_
        cases found.symm.trans (Definitions.value?_ofHistory_eq_some_iff.2 denotes)
    | some value =>
        have denotes := Definitions.value?_ofHistory_eq_some_iff.1 found
        rw [resolutionOf]
        cases meant : Definitions.toInteger value with
        | ok number => exact .byte denotes ((means denotes number).1 meant) (isByteOf_iff.2 rfl)
        | error unfit =>
            refine .meaningless denotes fun number meansNumber => ?_
            cases meant.symm.trans ((means denotes number).2 meansNumber)

/-- Every way to write a name gives the value that the name resolves to. -/
theorem valueOf_of_spells (named : IsName name) (spells : Spells name identifier) :
    valueOf (.ofHistory history) identifier
      = (resolutionOf name ((Definitions.ofHistory history).value? name)).mapError
          (Failure.ofDefect · identifier) := by
  rw [valueOf, if_neg (spells.nonempty named), resolve,
    if_neg (Bool.eq_false_iff.1 (spells.not_isNumber named)), spells.nameOf_eq named]
  cases found : (Definitions.ofHistory history).value? name with
  | none => simp only [found, resolutionOf, Except.map, Except.mapError]
  | some value =>
      rw [resolutionOf]
      cases meant : Definitions.toInteger value with
      | ok number => simp only [found, meant, Except.map, Except.mapError]
      | error unfit =>
          -- An infinite fraction would fail in another way, but no ordinary value is one.
          have ordinaryValue := Definitions.isOrdinary_of_denotes ordinary
            (Definitions.value?_ofHistory_eq_some_iff.1 found)
          obtain rfl := Definitions.toInteger_of_ordinary ordinaryValue meant
          simp only [found, meant, Except.map, Except.mapError]

end Resolution

/-- The value of an identifier depends on its name's value alone. -/
theorem valueOf_congr {definitions other : Definitions}
    (same : other.value? (nameOf identifier) = definitions.value? (nameOf identifier)) :
    valueOf other identifier = valueOf definitions identifier := by
  simp only [valueOf, resolve, same]

/-- Behind every marker, ASCII digits within the limit give their signed byte whatever is defined.
After every history of integers, truth values, texts and nothing, a name resolves to exactly one
outcome: the signed byte of the integer that its latest definition means, or else the built-in one,
or the defect that it is not defined or means no integer. All ways to write the name are read with
this outcome, also after every other history in which the name is defined in the same way. -/
theorem value_tokens_resolve_uniformly
    (ordinary : ∀ entry ∈ history, Definitions.IsOrdinary entry.2) (key : Key) (meter : Meter) :
    (∀ digits : Text, digits ≠ [] → digits.length ≤ 4300 → (∀ c ∈ digits, c.isDigit) →
      ∃ byte, (∀ other, IsByteOf other (decimalValue digits) ↔ other = byte)
        ∧ ∀ (marker : Marker) (definitions : Definitions) (behind : Text), Ends behind →
            read (marker.letter :: digits ++ behind) ⟨key, meter, definitions⟩
              = outcomeOf marker digits ⟨key, meter, definitions⟩ (.ok byte))
      ∧ ∀ name, IsName name →
          ∃ outcome, (∀ other, Resolves history name other ↔ other = outcome)
            ∧ ∀ (others : Definitions.History),
                (others.filter fun entry => entry.1 = name)
                  = history.filter (fun entry => entry.1 = name) →
                ∀ (marker : Marker) (identifier behind : Text), Spells name identifier →
                  Ends behind →
                  read (marker.letter :: identifier ++ behind) ⟨key, meter, .ofHistory others⟩
                    = outcomeOf marker identifier ⟨key, meter, .ofHistory others⟩ outcome := by
  constructor
  case left =>
    intro digits nonempty short numerical
    refine ⟨signedByte (decimalValue digits), fun other => isByteOf_iff, ?_⟩
    intro marker definitions behind ends
    have unspaced : ∀ c ∈ digits, isPart c := by
      intro c member
      exact isPart_of_not_isBlank (Numeral.isBlank_of_isDigit (numerical c member))
    simp only [read_eq unspaced ends, valueOf_of_digits nonempty short numerical]
    rfl
  case right =>
    intro name named
    refine ⟨_, fun other => resolves_iff ordinary, ?_⟩
    intro others same marker identifier behind spells ends
    have agrees : valueOf (.ofHistory others) identifier = valueOf (.ofHistory history) identifier := by
      apply valueOf_congr
      rw [spells.nameOf_eq named]
      exact Definitions.value?_ofHistory_congr same
    simp only [read_eq (spells.unspaced named) ends, agrees, valueOf_of_spells ordinary named spells]
    cases resolutionOf name ((Definitions.ofHistory history).value? name) <;> rfl

theorem value_tokens_resolve_uniformly_sample :
    let history : Definitions.History :=
      [("LEAD".toText, .integer 81), ("VIOLIN".toText, .boolean true), ("PAD".toText, .integer 9),
        ("LEAD".toText, .string "\t-1_3٠\n".toText), ("PAD".toText, .null)]
    let lead : Definitions.History := [("LEAD".toText, .integer 81),
      ("LEAD".toText, .string "\t-1_3٠\n".toText), ("FLUTE".toText, .fraction .undefined)]
    let context : Definitions → Context :=
      Context.mk ⟨⟨60, some "C".toText⟩, .major⟩ ⟨4, 4, by decide, by decide⟩
    (∀ entry ∈ history, Definitions.IsOrdinary entry.2)
      ∧ (∀ c ∈ "200".toText, c.isDigit)
      ∧ read "I200 V2".toText (context (.ofHistory history))
          = .accepted (context (.ofHistory history)) [.call (.event (.instrument (-56)))] "I200".toText
      ∧ IsName "LEAD".toText
      ∧ Resolves history "LEAD".toText (.ok 126)
      ∧ read "V[LEAD V2".toText (context (.ofHistory lead))
          = .accepted (context (.ofHistory lead)) [.call (.event (.track 126))] "V[LEAD".toText
      ∧ Resolves history "PAD".toText (.error (.notANumber "PAD".toText "None".toText))
      ∧ read "L[PAD]".toText (context (.ofHistory history))
          = .refused (context (.ofHistory history))
              (.ofDefect (.notANumber "PAD".toText "None".toText) "[PAD]".toText) := by
  intro history lead context
  have ordinary : ∀ entry ∈ history, Definitions.IsOrdinary entry.2 := by
    intro entry member
    simp only [history, List.mem_cons, List.not_mem_nil, or_false] at member
    rcases member with rfl | rfl | rfl | rfl | rfl <;> constructor
  have digits : ∀ c ∈ "200".toText, c.isDigit := by decide
  have named : IsName "LEAD".toText := ⟨by decide, by decide, by decide⟩
  have namedPad : IsName "PAD".toText := ⟨by decide, by decide, by decide⟩
  have written : Numeral.Writes "\t-1_3٠\n".toText (-130) := Numeral.read_eq_ok_iff.1 (by rfl)
  have splitLead : history = history.take 3
      ++ ("LEAD".toText, .string "\t-1_3٠\n".toText) :: history.drop 4 := rfl
  have resolves : Resolves history "LEAD".toText (.ok 126) :=
    .byte (.latest splitLead (by decide)) (.written written) (isByteOf_iff.2 rfl)
  have splitPad : history = history.take 4 ++ ("PAD".toText, .null) :: [] := rfl
  have resolvesPad :
      Resolves history "PAD".toText (.error (.notANumber "PAD".toText "None".toText)) :=
    .meaningless (.latest splitPad (by decide)) (by rintro number ⟨⟩)
  obtain ⟨numbers, names⟩ := value_tokens_resolve_uniformly ordinary (context .builtIn).key
    (context .builtIn).meter
  obtain ⟨byte, narrowed, readsNumber⟩ := numbers "200".toText (by decide) (by decide) digits
  obtain rfl : -56 = byte := (narrowed _).1 (isByteOf_iff.2 rfl)
  obtain ⟨outcome, unique, readsLead⟩ := names "LEAD".toText named
  obtain rfl := (unique _).1 resolves
  obtain ⟨outcome, unique, readsPad⟩ := names "PAD".toText namedPad
  obtain rfl := (unique _).1 resolvesPad
  refine ⟨ordinary, digits, readsNumber .instrument _ " V2".toText (Or.inr ⟨_, rfl⟩), named,
    resolves, ?_, resolvesPad, ?_⟩
  · exact readsLead lead rfl .voice _ " V2".toText (.halfBracketed (by decide))
      (Or.inr ⟨_, rfl⟩)
  · exact readsPad history rfl .layer _ [] .bracketed (Or.inl rfl)

end MusicText.Token.Value
