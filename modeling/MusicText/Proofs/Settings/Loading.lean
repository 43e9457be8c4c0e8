import MusicText.Proofs.Json.Plain
import MusicText.Proofs.Json.Reading
import MusicText.Proofs.Settings.Given
import MusicText.Proofs.Text.Cutting
import MusicText.Settings.Store

/-!
Contract: settings of every stored text.

Owns: the readings that give settings, those that cannot be loaded at all, and what loading makes
of each of them.

Does not own: the settings that members give; see `MusicText.Proofs.Settings.Given`.

The name of the options is looked for before it is known that there are members. Only objects have
any, so an array and a string that hold this name are complained about, and others defeat the
loading, while all other values and the texts without a value are complained about.
-/

namespace MusicText.Settings

open MusicText.Text

/-! ### Readings -/

/-- Whether what is read from a text gives settings: it is an object whose members give them. -/
def Gives (reading : Except Json.Refusal Json) (settings : Settings) : Prop :=
  ∃ members, reading = .ok (.object members) ∧ settings.GivenBy members

/-- What cannot be loaded: an array or a string that does not hold the name of the options, and a
text on which a limit is exceeded. -/
inductive Defeats : Except Json.Refusal Json → LoadFault → Prop
  | array {items : List Json} (absent : .string optionsName ∉ items) :
      Defeats (.ok (.array items)) (.noMembers "list".toText)
  | string {text : Text} (absent : ¬ optionsName <:+: text) :
      Defeats (.ok (.string text)) (.noMembers "str".toText)
  | limit {refusal : Json.Refusal} (exceeded : refusal.isLimit) :
      Defeats (.error refusal) (.limit refusal)

theorem holdsString_iff {wanted : Text} {items : List Json} :
    Json.holdsString wanted items ↔ .string wanted ∈ items := by
  rw [Json.holdsString, List.any_eq_true]
  constructor
  · rintro ⟨item, member, same⟩
    cases item with
    | string text => rwa [← eq_of_beq same]
    | _ => cases same
  · intro member
    exact ⟨_, member, beq_self_eq_true wanted⟩

variable {source : Text} {settings : Settings} {fault : LoadFault}

theorem ofJson_eq_error_iff {value : Json} :
    ofJson value = .error fault ↔ Defeats (.ok value) fault := by
  constructor
  · intro failed
    unfold ofJson at failed
    split at failed
    · cases failed
    · split at failed
      · cases failed
      · rename_i absent
        obtain rfl := Except.error.inj failed
        exact .array fun member => absent (holdsString_iff.2 member)
    · split at failed
      · cases failed
      · rename_i absent
        obtain rfl := Except.error.inj failed
        exact .string fun within => absent (isSome_indexOf?_iff.2 within)
    · cases failed
  · intro defeats
    cases defeats with
    | array absent => exact if_neg fun holds => absurd (holdsString_iff.1 holds) absent
    | string absent => exact if_neg fun found => absurd (isSome_indexOf?_iff.1 found) absent

theorem ofJson_eq_ok_iff {value : Json} (named : value.WellNamed) :
    ofJson value = .ok (.ok settings) ↔ Gives (.ok value) settings := by
  constructor
  · intro done
    unfold ofJson at done
    split at done
    · exact ⟨_, rfl, (ofMembers_eq_ok_iff named).1 (Except.ok.inj done)⟩
    · split at done <;> cases done
    · split at done <;> cases done
    · cases done
  · rintro ⟨members, same, given⟩
    obtain rfl := Except.ok.inj same
    exact congrArg Except.ok ((ofMembers_eq_ok_iff named).2 given)

theorem ofText_eq_error_iff :
    ofText source = .error fault ↔ Defeats (Json.read nestingLimit source) fault := by
  unfold ofText
  cases Json.read nestingLimit source with
  | ok value => exact ofJson_eq_error_iff
  | error refusal =>
      constructor
      · intro failed
        simp only at failed
        split at failed
        · rename_i exceeded
          obtain rfl := Except.error.inj failed
          exact .limit exceeded
        · cases failed
      · intro defeats
        cases defeats with
        | limit exceeded => exact if_pos exceeded

theorem ofText_eq_ok_iff :
    ofText source = .ok (.ok settings) ↔ Gives (Json.read nestingLimit source) settings := by
  unfold ofText
  cases read : Json.read nestingLimit source with
  | ok value => exact ofJson_eq_ok_iff (Json.wellNamed_of_read read)
  | error refusal =>
      constructor
      · intro done
        simp only at done
        split at done <;> cases done
      · rintro ⟨members, same, -⟩
        cases same

/-! ### Loading -/

variable {store : Store} {folder : Path} {text : Text}

/-- The profile and the complaints that a folder keeps are told by its text alone. -/
theorem loadFolder_of_stored (stored : storedText? store.files folder = .ok (some text)) :
    store.loadFolder folder
      = match ofText (unifyLineBreaks text) with
        | .error fault => .error fault
        | .ok (.ok settings) => .ok (⟨settings, folder⟩, [])
        | .ok (.error complaint) => .ok (⟨{}, folder⟩, [complaint]) := by
  rw [Store.loadFolder, stored, loadStored, load]
  cases ofText (unifyLineBreaks text) with
  | error fault => rfl
  | ok outcome => cases outcome <;> rfl

/-- Loading a stored text fails exactly on an array or a string that does not hold the name of the
options, and where a limit is exceeded, which takes many containers or a long number. An object
whose members give settings is loaded as these without a complaint. Every other value, and every
text without a value, gives the defaults and exactly one complaint. -/
theorem loadFolder_falls_back_unless_defeated
    (stored : storedText? store.files folder = .ok (some text)) :
    let reading := Json.read nestingLimit (unifyLineBreaks text)
    (∀ fault, store.loadFolder folder = .error fault ↔ Defeats reading fault)
      ∧ (∀ refusal, reading = .error refusal → refusal.isLimit →
          Json.Exceeds nestingLimit (unifyLineBreaks text))
      ∧ (∀ settings, Gives reading settings → store.loadFolder folder = .ok (⟨settings, folder⟩, []))
      ∧ ((∀ fault, ¬ Defeats reading fault) → (∀ settings, ¬ Gives reading settings) →
          ∃ complaint, store.loadFolder folder = .ok (⟨{}, folder⟩, [complaint])) := by
  intro reading
  rw [loadFolder_of_stored stored]
  refine ⟨?fails, fun refusal => Json.exceeds_of_read, ?gives, ?fallsBack⟩
  case fails =>
    intro fault
    rw [← ofText_eq_error_iff]
    cases ofText (unifyLineBreaks text) with
    | error other => simp
    | ok outcome => cases outcome <;> simp
  case gives =>
    intro settings gives
    rw [ofText_eq_ok_iff.2 gives]
  case fallsBack =>
    intro undefeated ungiven
    -- Every outcome but a complaint is one of the two that are excluded.
    cases outcome : ofText (unifyLineBreaks text) with
    | error fault => exact absurd (ofText_eq_error_iff.1 outcome) (undefeated fault)
    | ok loaded =>
        cases loaded with
        | ok settings => exact absurd (ofText_eq_ok_iff.1 outcome) (ungiven settings)
        | error complaint => exact ⟨complaint, rfl⟩

/-! ### An array -/

/-- A folder in the working folder. -/
def sampleFolder : Path :=
  ⟨.workingFolder, ["c".toText]⟩

/-- The store in which this folder holds a text as its settings file. -/
def storeWith (text : Text) : Store :=
  let made := FileTree.fresh.put (FileTree.workingPlace ++ sampleFolder.steps) .folder
  let place := FileTree.workingPlace ++ (sampleFolder.child fileName).steps
  { Store.empty with files := made.put place (.file text) }

theorem storedText?_storeWith (text : Text) :
    storedText? (storeWith text).files sampleFolder = .ok (some text) := by
  rfl

theorem unifyLineBreaks_emptyArray : unifyLineBreaks "[]".toText = "[]".toText :=
  unifyLineBreaks_of_not_mem (by decide)

theorem loadFolder_emptyArray :
    (storeWith "[]".toText).loadFolder sampleFolder = .error (.noMembers "list".toText) := by
  rw [loadFolder_of_stored (storedText?_storeWith _), unifyLineBreaks_emptyArray, ofText,
    nestingLimit, Json.read_emptyArray]
  rfl

/-- Not every stored text is loaded. -/
theorem not_forall_loadFolder_ok :
    ¬ ∀ (store : Store) (folder : Path) (text : Text),
        storedText? store.files folder = .ok (some text) →
        ∃ profile complaints, store.loadFolder folder = .ok (profile, complaints) := by
  intro loads
  obtain ⟨profile, complaints, done⟩ := loads _ _ _ (storedText?_storeWith "[]".toText)
  cases loadFolder_emptyArray.symm.trans done

theorem loadFolder_falls_back_unless_defeated_sample :
    let debug := Json.memberText levelName "DEBUG".toText
    storedText? (storeWith "[]".toText).files sampleFolder = .ok (some "[]".toText)
      ∧ (storeWith "[]".toText).loadFolder sampleFolder = .error (.noMembers "list".toText)
      ∧ storedText? (storeWith debug).files sampleFolder = .ok (some debug)
      ∧ (storeWith debug).loadFolder sampleFolder
          = .ok (⟨⟨{}, .string "DEBUG".toText⟩, sampleFolder⟩, [])
      ∧ storedText? (storeWith []).files sampleFolder = .ok (some [])
      ∧ ∃ complaint,
          (storeWith []).loadFolder sampleFolder = .ok (⟨{}, sampleFolder⟩, [complaint]) := by
  intro debug
  have array := storedText?_storeWith "[]".toText
  have level := storedText?_storeWith debug
  have empty := storedText?_storeWith []
  obtain ⟨fails, -⟩ := loadFolder_falls_back_unless_defeated array
  obtain ⟨-, -, gives, -⟩ := loadFolder_falls_back_unless_defeated level
  obtain ⟨-, -, -, fallsBack⟩ := loadFolder_falls_back_unless_defeated empty
  have readArray : Json.read nestingLimit (unifyLineBreaks "[]".toText) = .ok (.array []) := by
    rw [unifyLineBreaks_emptyArray]
    exact Json.read_emptyArray _
  have readLevel : Json.read nestingLimit (unifyLineBreaks debug)
      = .ok (.object [(levelName, .string "DEBUG".toText)]) := by
    rw [Json.unifyLineBreaks_memberText (by decide) (by decide)]
    exact Json.read_memberText (by decide) (by decide) _
  have readEmpty : Json.read nestingLimit (unifyLineBreaks [])
      = .error (.malformed .valueExpected 1 1 0) := Json.read_nil _
  refine ⟨array, (fails _).2 ?_, level, gives _ ?_, empty, fallsBack ?_ ?_⟩
  · rw [readArray]
    exact .array (by simp)
  · exact ⟨_, readLevel, Or.inl ⟨by decide, rfl⟩, Or.inl (by simp)⟩
  · rw [readEmpty]
    rintro fault ⟨⟩
    contradiction
  · rw [readEmpty]
    rintro settings ⟨members, same, -⟩
    cases same

end MusicText.Settings
