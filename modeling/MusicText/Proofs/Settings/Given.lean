import MusicText.Proofs.Json.Names
import MusicText.Settings.Loading

/-!
Contract: settings that members give.

Owns: the options and the settings that named values give over the defaults, described without
their readers, and the readers' agreement with this.

Does not own: the files that members come from; see `MusicText.Proofs.Settings.Loading`.
-/

namespace MusicText

open MusicText.Text

namespace Options

/-- Whether options are those that named values give over other ones, with no other names. -/
structure GivenOver (start : Options) (named : List (Text × Json)) (options : Options) : Prop where
  known : ∀ entry ∈ named, entry.1 ∈ start.members.map Prod.fst
  strict : Json.IsGiven named "throw_on_unknown_token".toText start.strict options.strict
  key : Json.IsGiven named "default_key".toText start.key options.key
  meter : Json.IsGiven named "default_time_signature".toText start.meter options.meter

variable {start options : Options} {named : List (Text × Json)} {name : Text} {value : Json}

theorem set?_eq :
    start.set? name value
      = if name ∈ start.members.map Prod.fst then
          some ⟨if "throw_on_unknown_token".toText = name then value else start.strict,
            if "default_key".toText = name then value else start.key,
            if "default_time_signature".toText = name then value else start.meter⟩
        else none := by
  -- Each name is told from the other two, as every option asks for its own one.
  have strictKey : "throw_on_unknown_token".toText ≠ "default_key".toText := by decide
  have strictMeter : "throw_on_unknown_token".toText ≠ "default_time_signature".toText := by decide
  have keyMeter : "default_key".toText ≠ "default_time_signature".toText := by decide
  unfold set?
  split
  · rename_i same
    simp [same, members, strictKey.symm, strictMeter.symm]
  · split
    · rename_i same
      simp [same, members, strictKey, keyMeter.symm]
    · split
      · rename_i same
        simp [same, members, strictMeter, keyMeter]
      · rename_i noStrict noKey noMeter
        rw [if_neg]
        simp [members, noStrict, noKey, noMeter]

theorem givenOver_nil_iff : GivenOver start [] options ↔ options = start := by
  constructor
  · rintro ⟨-, strict, key, meter⟩
    rw [Json.isGiven_nil_iff] at strict key meter
    cases options
    exact congr (congr (congrArg Options.mk strict) key) meter
  · rintro rfl
    exact ⟨by simp, Json.isGiven_nil_iff.2 rfl, Json.isGiven_nil_iff.2 rfl,
      Json.isGiven_nil_iff.2 rfl⟩

theorem givenOver_cons_iff (distinct : (((name, value) :: named).map Prod.fst).Nodup) :
    GivenOver start ((name, value) :: named) options
      ↔ ∃ changed, start.set? name value = some changed ∧ GivenOver changed named options := by
  rw [set?_eq]
  constructor
  · rintro ⟨known, strict, key, meter⟩
    obtain ⟨first, others⟩ := List.forall_mem_cons.1 known
    rw [Json.isGiven_cons_iff distinct] at strict key meter
    exact ⟨_, if_pos first, others, strict, key, meter⟩
  · rintro ⟨changed, done, others, strict, key, meter⟩
    split at done
    · rename_i first
      obtain rfl := Option.some.inj done
      rw [← Json.isGiven_cons_iff distinct] at strict key meter
      exact ⟨List.forall_mem_cons.2 ⟨first, others⟩, strict, key, meter⟩
    · cases done

theorem setAll_eq_ok_iff (distinct : (named.map Prod.fst).Nodup) :
    start.setAll named = .ok options ↔ GivenOver start named options := by
  induction named generalizing start with
  | nil => rw [setAll, givenOver_nil_iff, Except.ok.injEq, eq_comm]
  | cons entry rest inductionHypothesis =>
      obtain ⟨name, value⟩ := entry
      rw [givenOver_cons_iff distinct, setAll]
      cases start.set? name value with
      | none => simp
      | some changed => simpa using inductionHypothesis (List.nodup_cons.1 distinct).2

end Options

namespace Settings

/-- Whether settings are those that members give over the defaults. -/
structure GivenBy (members : List (Text × Json)) (settings : Settings) : Prop where
  options :
    (optionsName ∉ members.map Prod.fst ∧ settings.options = {}) ∨
      ∃ named, (optionsName, .object named) ∈ members ∧ Options.GivenOver {} named settings.options
  level : Json.IsGiven members levelName (.string "WARNING".toText) settings.logLevel

variable {members : List (Text × Json)} {settings : Settings}

theorem givenBy_of_ofMembers (named : Json.WellNamed (.object members))
    (done : ofMembers members = .ok settings) : GivenBy members settings := by
  have level : Json.IsGiven members levelName (.string "WARNING".toText)
      ((members.lookup levelName).getD (.string "WARNING".toText)) :=
    (Json.isGiven_iff named.distinct).2 rfl
  unfold ofMembers at done
  split at done
  · rename_i absent
    obtain rfl := Except.ok.inj done
    exact ⟨Or.inl ⟨Json.not_mem_iff_lookup_eq_none.2 absent, rfl⟩, level⟩
  · rename_i entries found
    have member := (Json.mem_iff_lookup_eq_some named.distinct).2 found
    split at done
    · rename_i options read
      obtain rfl := Except.ok.inj done
      have given := (Options.setAll_eq_ok_iff (named.of_mem member).distinct).1 read
      exact ⟨Or.inr ⟨entries, member, given⟩, level⟩
    · cases done
  · cases done

theorem ofMembers_of_givenBy (named : Json.WellNamed (.object members))
    (given : GivenBy members settings) : ofMembers members = .ok settings := by
  obtain ⟨options, logLevel⟩ := settings
  obtain ⟨givenOptions, level⟩ := given
  have sameLevel := (Json.isGiven_iff named.distinct).1 level
  rcases givenOptions with ⟨absent, rfl⟩ | ⟨entries, member, givenOver⟩
  · have lookup := Json.not_mem_iff_lookup_eq_none.1 absent
    simp only [ofMembers, Json.member?, lookup, sameLevel]
  · have lookup := (Json.mem_iff_lookup_eq_some named.distinct).1 member
    have read : Options.ofMembers entries = .ok options :=
      (Options.setAll_eq_ok_iff (named.of_mem member).distinct).2 givenOver
    simp only [ofMembers, Json.member?, lookup, read, sameLevel]

/-- The settings that members with distinct names are read as are those that they give. -/
theorem ofMembers_eq_ok_iff (named : Json.WellNamed (.object members)) :
    ofMembers members = .ok settings ↔ GivenBy members settings :=
  ⟨givenBy_of_ofMembers named, ofMembers_of_givenBy named⟩

end Settings

end MusicText
