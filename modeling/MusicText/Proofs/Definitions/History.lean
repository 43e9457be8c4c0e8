import Mathlib.Data.List.Induction
import MusicText.Definitions
import MusicText.Proofs.Numeral.Grammar

/-!
Contract: what names stand for after definitions.

Owns: the definitions that a history leaves, the value that a name denotes after it, and the
integer that a value means.

Does not own: the tokens that use names; see `MusicText.Proofs.Token.Identifier`.

A history may define a name several times, also a built-in one. The latest definition counts, and
those of other names never do.
-/

namespace MusicText.Definitions

open MusicText.Text

/-! ### Values that names denote -/

/-- Names with what they are defined as, in order. -/
abbrev History := List (Text × Json)

/-- The definitions that a history leaves over the built-in ones. -/
def ofHistory (history : History) : Definitions :=
  history.foldl (fun definitions entry => definitions.define entry.1 entry.2) .builtIn

/-- Whether a name denotes a value after a history: the last that it is defined as, or the
built-in one if it is not defined there. -/
inductive Denotes (history : History) (name : Text) : Json → Prop
  | latest {before after : History} {value : Json}
      (split : history = before ++ (name, value) :: after)
      (last : ∀ entry ∈ after, entry.1 ≠ name) : Denotes history name value
  | builtIn {program : Nat} (undefined : ∀ entry ∈ history, entry.1 ≠ name)
      (seeded : seed.lookup name = some program) : Denotes history name (.integer program)

variable {history : History} {name : Text} {value : Json}

theorem ofHistory_append_singleton (history : History) (entry : Text × Json) :
    ofHistory (history ++ [entry]) = (ofHistory history).define entry.1 entry.2 :=
  List.foldl_append

theorem denotes_append_self {other : Json} :
    Denotes (history ++ [(name, value)]) name other ↔ other = value := by
  constructor
  · intro denotes
    cases denotes with
    | builtIn undefined => exact absurd rfl (undefined (name, value) (by simp))
    | latest split last =>
        rename_i before after
        rcases List.eq_nil_or_concat after with rfl | ⟨inner, final, rfl⟩
        · obtain ⟨-, same⟩ := List.append_inj' split rfl
          exact (congrArg Prod.snd (List.singleton_inj.1 same)).symm
        · -- The last entry would define the name once more.
          rw [List.concat_eq_append, ← List.cons_append, ← List.append_assoc] at split
          obtain ⟨-, same⟩ := List.append_inj' split rfl
          obtain rfl := List.singleton_inj.1 same
          exact absurd rfl (last (name, value) (by simp))
  · rintro rfl
    exact .latest rfl (by simp)

/-- A definition changes nothing for the other names. -/
theorem denotes_append_of_ne {entry : Text × Json} (different : entry.1 ≠ name) :
    Denotes (history ++ [entry]) name value ↔ Denotes history name value := by
  constructor
  · intro denotes
    cases denotes with
    | builtIn undefined seeded =>
        exact .builtIn (fun known member => undefined known (List.mem_append_left _ member)) seeded
    | latest split last =>
        rename_i before after
        rcases List.eq_nil_or_concat after with rfl | ⟨inner, final, rfl⟩
        · obtain ⟨-, same⟩ := List.append_inj' split rfl
          obtain rfl := List.singleton_inj.1 same
          exact absurd rfl different
        · rw [List.concat_eq_append, ← List.cons_append, ← List.append_assoc] at split
          obtain ⟨rfl, -⟩ := List.append_inj' split rfl
          exact .latest rfl fun known member => last known (by simp [member])
  · intro denotes
    -- What is not defined behind some place is not defined by the further entry either.
    have undefinedLast : ∀ {entries : History}, (∀ known ∈ entries, known.1 ≠ name) →
        ∀ known ∈ entries ++ [entry], known.1 ≠ name := by
      intro entries others known member
      rcases List.mem_append.1 member with within | last
      · exact others known within
      · rwa [List.mem_singleton.1 last]
    cases denotes with
    | builtIn undefined seeded => exact .builtIn (undefinedLast undefined) seeded
    | latest split last =>
        rw [split, List.append_assoc, List.cons_append]
        exact .latest rfl (undefinedLast last)

theorem value?_builtIn (name : Text) :
    builtIn.value? name = (seed.lookup name).map fun program : Nat => .integer program := by
  rw [value?, builtIn]
  cases seed.lookup name <;> rfl

/-- What a name is looked up as after a history is what it denotes. -/
theorem value?_ofHistory_eq_some_iff :
    (ofHistory history).value? name = some value ↔ Denotes history name value := by
  induction history using List.reverseRecOn with
  | nil =>
      rw [ofHistory, List.foldl_nil, value?_builtIn, Option.map_eq_some_iff]
      constructor
      · rintro ⟨program, seeded, rfl⟩
        exact .builtIn (by simp) seeded
      · intro denotes
        cases denotes with
        | builtIn undefined seeded => exact ⟨_, seeded, rfl⟩
        | latest split => simp at split
  | append_singleton earlier entry inductionHypothesis =>
      obtain ⟨known, latest⟩ := entry
      rw [ofHistory_append_singleton, value?_define]
      by_cases same : name = known
      · subst same
        rw [if_pos rfl, denotes_append_self, Option.some.injEq]
        exact eq_comm
      · rw [if_neg same, inductionHypothesis, denotes_append_of_ne fun back => same back.symm]

theorem denotes_filter_iff :
    Denotes (history.filter fun entry => entry.1 = name) name value ↔ Denotes history name value := by
  induction history using List.reverseRecOn with
  | nil => rfl
  | append_singleton earlier entry inductionHypothesis =>
      obtain ⟨known, latest⟩ := entry
      rw [List.filter_append]
      by_cases same : known = name
      · subst same
        rw [List.filter_cons_of_pos (by simp), List.filter_nil, denotes_append_self,
          denotes_append_self]
      · rw [List.filter_cons_of_neg (by simpa using same), List.filter_nil, List.append_nil,
          inductionHypothesis, denotes_append_of_ne same]

/-- Histories with the same definitions of a name let it denote the same. -/
theorem value?_ofHistory_congr {other : History}
    (same : (other.filter fun entry => entry.1 = name) = history.filter fun entry => entry.1 = name) :
    (ofHistory other).value? name = (ofHistory history).value? name := by
  ext value
  rw [value?_ofHistory_eq_some_iff, value?_ofHistory_eq_some_iff, ← denotes_filter_iff, same,
    denotes_filter_iff]

/-! ### Integers that values mean -/

/-- Whether a value is an integer, a truth value, a text or nothing. -/
inductive IsOrdinary : Json → Prop
  | null : IsOrdinary .null
  | boolean (value : Bool) : IsOrdinary (.boolean value)
  | integer (value : Int) : IsOrdinary (.integer value)
  | string (value : Text) : IsOrdinary (.string value)

theorem isOrdinary_of_denotes (ordinary : ∀ entry ∈ history, IsOrdinary entry.2)
    (denotes : Denotes history name value) : IsOrdinary value := by
  cases denotes with
  | builtIn => exact .integer _
  | latest split => exact ordinary (name, value) (by simp [split])

/-- Whether a value means an integer. -/
inductive Means : Json → Int → Prop
  | integer (number : Int) : Means (.integer number) number
  | yes : Means (.boolean true) 1
  | no : Means (.boolean false) 0
  | written {text : Text} {number : Int} (written : Numeral.Writes text number) :
      Means (.string text) number

theorem toInteger_eq_ok_iff {number : Int} (ordinary : IsOrdinary value) :
    toInteger value = .ok number ↔ Means value number := by
  constructor
  · intro done
    cases ordinary with
    | null => cases done
    | boolean truth =>
        obtain rfl := Except.ok.inj done
        cases truth with
        | true => exact .yes
        | false => exact .no
    | integer whole =>
        obtain rfl := Except.ok.inj done
        exact .integer _
    | string text =>
        rw [toInteger] at done
        cases read : Numeral.read text with
        | error fault => simp [read, Except.mapError] at done
        | ok number =>
            obtain rfl : number = _ := by simpa [read, Except.mapError] using done
            exact .written (Numeral.read_eq_ok_iff.1 read)
  · intro means
    cases means with
    | integer | yes | no => rfl
    | written written => rw [toInteger, Numeral.read_eq_ok_iff.2 written, Except.mapError]

theorem toInteger_of_ordinary {unfit : Unfit} (ordinary : IsOrdinary value)
    (refused : toInteger value = .error unfit) : unfit = .notANumber := by
  cases ordinary with
  | null => exact (Except.error.inj refused).symm
  | boolean | integer => cases refused
  | string text =>
      rw [toInteger] at refused
      cases read : Numeral.read text with
      | error fault => simpa [read, Except.mapError, eq_comm] using refused
      | ok number => simp [read, Except.mapError] at refused

end MusicText.Definitions
