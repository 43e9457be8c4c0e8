import MusicText.Binary64.Shortest
import MusicText.Text.Quoted

/-!
Contract: dynamic values, as settings files and user definitions hold them.

Owns: the value type, the name of a value's kind, its truth value, and the
single-line form in which messages show it.

Does not own: the file format; see `MusicText.Json.Reader` and `MusicText.Json.Writer`.
-/

namespace MusicText

open MusicText.Text

/-- A value of a settings file. Members of an object keep their order. -/
inductive Json
  | null
  | boolean (value : Bool)
  | integer (value : Int)
  /-- A number that is written with a fraction or an exponent. -/
  | fraction (value : Binary64)
  | string (value : Text)
  | array (items : List Json)
  | object (members : List (Text × Json))
  deriving Repr

namespace Json

def kindName : Json → Text
  | null => "NoneType".toText
  | boolean _ => "bool".toText
  | integer _ => "int".toText
  | fraction _ => "float".toText
  | string _ => "str".toText
  | array _ => "list".toText
  | object _ => "dict".toText

/-- Whether a value counts as true: it is neither null, false, zero nor empty. -/
def isTrue : Json → Bool
  | null => false
  | boolean value => value
  | integer value => value ≠ 0
  | fraction value => !value.isZero
  | string value => value ≠ []
  | array items => !items.isEmpty
  | object members => !members.isEmpty

/-- The member of an object with a given name. -/
def member? (name : Text) (members : List (Text × Json)) : Option Json :=
  members.lookup name

/-- Sets a member. A name that is there keeps its place, a new one comes last. -/
def setMember (name : Text) (value : Json) : List (Text × Json) → List (Text × Json)
  | [] => [(name, value)]
  | entry :: rest =>
      if entry.1 = name then (name, value) :: rest else entry :: setMember name value rest

theorem lookup_entry (name known : Text) (value : Json) (rest : List (Text × Json)) :
    ((known, value) :: rest).lookup name = if name = known then some value else rest.lookup name := by
  by_cases same : name = known
  · simp [same]
  · rw [List.lookup_cons, beq_false_of_ne same, if_neg same]

theorem lookup_setMember (name other : Text) (value : Json) (members : List (Text × Json)) :
    (setMember name value members).lookup other
      = if other = name then some value else members.lookup other := by
  induction members with
  | nil => rw [setMember, lookup_entry]
  | cons entry rest inductionHypothesis =>
      obtain ⟨known, former⟩ := entry
      rw [setMember]
      split
      · rename_i same
        obtain rfl : known = name := same
        simp only [lookup_entry]
        split <;> rfl
      · rename_i different
        rw [lookup_entry, inductionHypothesis, lookup_entry]
        by_cases found : other = known
        · rw [if_pos found, if_neg fun same => different (found.symm.trans same), if_pos found]
        · rw [if_neg found, if_neg found]

/-- Whether an array holds a given string. -/
def holdsString (wanted : Text) (items : List Json) : Bool :=
  items.any fun item =>
    match item with
    | string value => value == wanted
    | _ => false

mutual

/-- A value on one line, as messages show it. -/
def inline : Json → Text
  | null => "None".toText
  | boolean true => "True".toText
  | boolean false => "False".toText
  | integer value => Decimal.ofInt value
  | fraction value => value.toText "inf".toText "nan".toText
  | string value => quoted value
  | array items => "[".toText ++ ", ".toText.intercalate (inlineItems items) ++ "]".toText
  | object members => "\x7b".toText ++ ", ".toText.intercalate (inlineMembers members) ++ "\x7d".toText

/-- The items of an array on one line each. -/
def inlineItems : List Json → List Text
  | [] => []
  | item :: rest => inline item :: inlineItems rest

/-- The members of an object on one line each. -/
def inlineMembers : List (Text × Json) → List Text
  | [] => []
  | (name, value) :: rest => (quoted name ++ ": ".toText ++ inline value) :: inlineMembers rest

end

end Json

end MusicText
