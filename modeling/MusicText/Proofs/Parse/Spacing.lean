import MusicText.Proofs.Parse.Fold
import MusicText.Proofs.Token.Core

/-!
Contract: spaces in place of other blanks.

Owns: the text in which every blank but those within the cores of tokens is a space, its
parse, and a text in which no blank but the space may be replaced.

Does not own: the blanks that a token may have at its end; see `MusicText.Proofs.Token.Core`.

Only the space ends a token, so any other blank behind the first character of a token belongs to
the token. Between tokens all blanks are alike.
-/

namespace MusicText

open MusicText.Text MusicText.Token MusicText.Token.Placed

namespace Token

/-- The core of a token where it stands. -/
def Placed.core (token : Placed) : Placed :=
  ⟨token.position, Token.core token.text⟩

/-- Whether a place of a text belongs to no core of a token. -/
def isOutside (music : Text) (place : Nat) : Bool :=
  (sequence music).all fun token => !decide (token.core.Covers place)

/-- A text with a space in place of every blank. -/
def spaced (music : Text) : Text :=
  music.map fun c => if isBlank c then .scalar ' ' else c

/-- A text with a space in place of every blank that is not in the core of a token. -/
def respaced (music : Text) : Text :=
  blankOut (isOutside music) music

theorem covers_of_core {token : Placed} {place : Nat} (covers : token.core.Covers place) :
    token.Covers place :=
  ⟨covers.1, covers.2.trans_le (Nat.add_le_add_left (core_prefix_self token.text).length_le _)⟩

theorem isOutside_of_covers {music : Text} {token : Placed} {place : Nat}
    (member : token ∈ sequence music) (covers : token.Covers place) :
    isOutside music place = !decide (token.core.Covers place) := by
  rw [Bool.eq_iff_iff, isOutside, List.all_eq_true]
  constructor
  · intro outside
    exact outside token member
  · intro apart other otherMember
    by_contra inCore
    have otherCovers : other.core.Covers place := by simpa using inCore
    have same := eq_of_covers member otherMember covers (covers_of_core otherCovers)
    simp [same, otherCovers] at apart

theorem core_ne_nil {token : Placed} {music : Text} (member : token ∈ sequence music) :
    core token.text ≠ [] := by
  obtain ⟨before, c, after, -, solid, -, rfl⟩ := exists_around member
  intro nothing
  have trails := (List.rdropWhile_eq_nil_iff.1 nothing) c (by simp [first_cons solid])
  simp [isBlank_of_mayTrail trails] at solid

/-- The tokens are cut down to their cores and stay where they are. -/
theorem sequence_respaced (music : Text) :
    sequence (respaced music) = (sequence music).map Placed.core := by
  let kept : Text → Nat := fun text => (core text).length
  have fits : ∀ token ∈ sequence music, ∀ place, token.Covers place →
      (isOutside music place = true ↔ token.position + kept token.text ≤ place) := by
    intro token member place covers
    rw [isOutside_of_covers member covers]
    simp [kept, Covers, Placed.core, covers.1]
  have whole : ∀ token ∈ sequence music, shorten kept token = some token.core := by
    intro token member
    have nonempty : kept token.text ≠ 0 := by
      simpa [kept] using core_ne_nil member
    rw [shorten, if_neg nonempty, ← core_eq_take]
    rfl
  calc sequence (respaced music)
      = (sequence music).filterMap (shorten kept) := sequence_blankOut fits
    _ = (sequence music).filterMap fun token => some token.core := List.filterMap_congr whole
    _ = (sequence music).map Placed.core := congrFun List.filterMap_eq_map' _

theorem prefix_drop_of_mem {token : Placed} {music : Text} (member : token ∈ sequence music) :
    token.text <+: music.drop token.position := by
  rw [text_eq_first_drop member]
  exact List.takeWhile_prefix _

theorem getElem?_of_prefix_drop {part music : Text} {position place : Nat}
    (begins : part <+: music.drop position) (begun : position ≤ place)
    (notEnded : place < position + part.length) :
    part[place - position]? = music[place]? := by
  obtain ⟨behind, whole⟩ := begins
  have inside : place - position < part.length := by omega
  calc part[place - position]?
      = (part ++ behind)[place - position]? := (List.getElem?_append_left inside).symm
    _ = music[position + (place - position)]? := by rw [whole, List.getElem?_drop]
    _ = music[place]? := by rw [Nat.add_sub_of_le begun]

/-- Every character that is not blank belongs to the core of a token. -/
theorem isOutside_of_solid {music : Text} {place : Nat} {c : CodePoint}
    (there : music[place]? = some c) (solid : isBlank c = false) : isOutside music place = false := by
  obtain ⟨token, ⟨member, covers⟩, -⟩ := existsUnique_covers 0 there solid
  rw [Nat.zero_add] at covers
  rw [isOutside_of_covers member covers]
  by_contra outside
  have behind : token.position + (core token.text).length ≤ place := by
    simpa [Covers, Placed.core, covers.1] using outside
  obtain ⟨trailing, spelled, trails⟩ := exists_eq_core_append token.text
  have character := getElem?_of_prefix_drop (prefix_drop_of_mem member) covers.1 covers.2
  rw [spelled, List.getElem?_append_right (by omega), there] at character
  have blank := isBlank_of_mayTrail (trails c (List.mem_of_getElem? character))
  simp [blank] at solid

theorem getElem?_respaced (music : Text) (place : Nat) :
    (respaced music)[place]?
      = music[place]?.map fun c => if isOutside music place then .scalar ' ' else c :=
  List.getElem?_mapIdx

theorem respaced_eq_spaced {music : Text}
    (solid : ∀ token ∈ sequence music, ∀ c ∈ core token.text, isBlank c = false) :
    respaced music = spaced music := by
  apply List.ext_getElem?
  intro place
  rw [getElem?_respaced, spaced, List.getElem?_map]
  cases there : music[place]? with
  | none => rfl
  | some c =>
      cases blank : isBlank c with
      | false => simp [isOutside_of_solid there blank, blank]
      | true =>
          have outside : isOutside music place = true := by
            rw [isOutside, List.all_eq_true]
            intro token member
            by_contra inCore
            have covers : token.core.Covers place := by simpa using inCore
            have begins := (core_prefix_self token.text).trans (prefix_drop_of_mem member)
            have character := getElem?_of_prefix_drop begins covers.1 covers.2
            rw [there] at character
            have solidCore := solid token member c (List.mem_of_getElem? character)
            simp [blank] at solidCore
          simp [outside, blank]

end Token

theorem Outcome.withoutClaim_alike (outcome : Outcome) : outcome.withoutClaim.Alike outcome :=
  ⟨rfl, Run.calls_withoutClaims ⟨outcome.notices, .error (.notText [] [])⟩, rfl⟩

namespace Parser

theorem alike_readToken_core (options : Options) {token : Text} (unspaced : ∀ c ∈ token, isPart c)
    (context : Context) :
    ((usual options).readToken token context).Alike
      ((usual options).readToken (core token) context) := by
  have effective : ∀ {text : Text}, (∀ c ∈ text, isPart c) →
      ((usual options).readToken text context).Alike (effect options text context) := by
    intro text unspaced
    have same := withoutClaim_readToken options text context
    rw [first_eq_self unspaced] at same
    exact (Outcome.withoutClaim_alike _).symm.trans (same ▸ Outcome.withoutClaim_alike _)
  have unspacedCore : ∀ c ∈ core token, isPart c :=
    fun c member => unspaced c ((core_prefix_self token).subset member)
  exact (effective unspaced).trans ((alike_core unspaced).trans (effective unspacedCore).symm)

theorem readAll_map_core (options : Options) {tokens : List Placed}
    (unspaced : ∀ token ∈ tokens, ∀ c ∈ token.text, isPart c) (context : Context) :
    ((usual options).readAll (tokens.map Placed.core) context).calls
        = ((usual options).readAll tokens context).calls
      ∧ ((usual options).readAll (tokens.map Placed.core) context).result.toOption
        = ((usual options).readAll tokens context).result.toOption := by
  induction tokens generalizing context with
  | nil => exact ⟨rfl, rfl⟩
  | cons token rest inductionHypothesis =>
      obtain ⟨own, others⟩ := List.forall_mem_cons.1 unspaced
      have alike : ((usual options).readToken token.text context).Alike
          ((usual options).readToken token.core.text context) :=
        alike_readToken_core options own context
      have fails := alike.isOk_eq
      rw [List.map_cons]
      -- The token and its core fail together, so only two of the four cases can arise.
      cases read : ((usual options).readToken token.text context).result with
      | error failure =>
          cases readCore : ((usual options).readToken token.core.text context).result with
          | error other =>
              rw [readAll_cons_of_error _ read, readAll_cons_of_error _ readCore]
              exact ⟨alike.calls_eq.symm, rfl⟩
          | ok consumed =>
              rw [read, readCore] at fails
              cases fails
      | ok consumed =>
          cases readCore : ((usual options).readToken token.core.text context).result with
          | error other =>
              rw [read, readCore] at fails
              cases fails
          | ok other =>
              have later := inductionHypothesis others
                ((usual options).readToken token.text context).context
              rw [readAll_cons_of_ok _ read, readAll_cons_of_ok _ readCore, ← alike.context_eq,
                Run.calls_after, Run.calls_after]
              refine ⟨?_, later.2⟩
              exact congrArg₂ (· ++ ·) alike.calls_eq.symm later.1

/-- Spaces in place of all blanks that are not in the core of a token change neither what a parse
tells its listener nor the state it ends with, and it fails if and only if it did before. No
other character is touched. If the cores of all tokens are without blanks, then no blank is
left but the space; if all tokens are their own cores, a parse that fails does so for the same
cause. -/
theorem run_respaced (options : Options) (music : Text) :
    let before := (usual options).run music
    let after := (usual options).run (respaced music)
    (∀ place, (respaced music)[place]?
          = music[place]?.map fun c => if isOutside music place then .scalar ' ' else c)
      ∧ (∀ place c, music[place]? = some c → isOutside music place → isBlank c)
      ∧ ((∀ token ∈ sequence music, ∀ c ∈ core token.text, isBlank c = false) →
          respaced music = spaced music)
      ∧ after.calls = before.calls
      ∧ after.result.toOption = before.result.toOption
      ∧ ((∀ token ∈ sequence music, core token.text = token.text) →
          after.result = before.result)
      ∧ ∀ listener : Listener,
          (listener.hear after).listener = (listener.hear before).listener
            ∧ (listener.hear after).result.toOption
              = (listener.hear before).result.toOption := by
  intro before after
  have tellsFailure : ∀ {one two : Except Failure Context},
      one.toOption = two.toOption → one.isOk = two.isOk := by
    intro one two same
    rcases ok_or_error_of_toOption_eq same with ⟨context, rfl, rfl⟩ | ⟨failure, other, rfl, rfl⟩
    · rfl
    · rfl
  obtain ⟨calls, result⟩ : after.calls = before.calls
      ∧ after.result.toOption = before.result.toOption := by
    apply run_congr Except.toOption tellsFailure rfl
    intro context
    rw [sequence_respaced]
    exact readAll_map_core options (unspaced_sequence music) context
  refine ⟨getElem?_respaced music, ?blank, respaced_eq_spaced, calls, result, ?cause, ?heard⟩
  case blank =>
    intro place c there outside
    by_contra solid
    have inCore := isOutside_of_solid there (eq_false_of_ne_true solid)
    simp [inCore] at outside
  case cause =>
    intro whole
    have same : (sequence music).map Placed.core = sequence music := by
      refine (List.map_congr_left ?_).trans (List.map_id' _)
      intro token member
      rw [Placed.core, whole token member]
    refine (run_congr id (congrArg Except.isOk) rfl ?_).2
    intro context
    rw [sequence_respaced, same]
    exact ⟨rfl, rfl⟩
  case heard =>
    intro listener
    exact ⟨Listener.hear_congr calls listener,
      Listener.result_hear_congr calls Except.toOption result listener⟩

theorem run_respaced_sample :
    let music := "\tV1 \n KEY:Gmaj\r\n".toText
    (∀ token ∈ sequence music, ∀ c ∈ core token.text, isBlank c = false)
      ∧ respaced music = " V1   KEY:Gmaj  ".toText
      ∧ ((usual {}).run " V1   KEY:Gmaj  ".toText).calls = ((usual {}).run music).calls
      ∧ ((usual {}).run music).calls
        = [.start, .event (.track 1), .event (.key 7 1), .finish] := by
  intro music
  have solid : ∀ token ∈ sequence music, ∀ c ∈ core token.text, isBlank c = false := by
    decide
  obtain ⟨-, -, allSpaces, calls, -⟩ := run_respaced {} music
  have shown : respaced music = " V1   KEY:Gmaj  ".toText :=
    (allSpaces solid).trans (by decide)
  rw [shown] at calls
  exact ⟨solid, shown, calls, (calls_run (by rfl) (by rfl) _).trans (by rfl)⟩

/-- Not every blank can be replaced by a space: one behind a token may belong to it. -/
theorem not_forall_run_spaced :
    ((usual {}).run "V1\nI7".toText).result
        = .error (.token ⟨.unknownIdentifier "1\nI7".toText, "1\nI7".toText, 0⟩)
      ∧ ((usual {}).run "V1\nI7".toText).calls = [.start]
      ∧ ((usual {}).run (spaced "V1\nI7".toText)).calls
        = [.start, .event (.track 1), .event (.instrument 7), .finish]
      ∧ ¬ ∀ (options : Options) (music : Text),
          ((usual options).run (spaced music)).calls = ((usual options).run music).calls
            ∧ ((usual options).run (spaced music)).result.toOption
              = ((usual options).run music).result.toOption := by
  have fold : (usual {}).readAll (sequence "V1\nI7".toText)
        ⟨⟨⟨60, some "C".toText⟩, .major⟩, ⟨4, 4, by decide, by decide⟩, .builtIn⟩
      = ⟨[.remark (.tokenClaimed "IVLSubparser".toText "V1\nI7".toText)],
          .error (.token ⟨.unknownIdentifier "1\nI7".toText, "1\nI7".toText, 0⟩)⟩ := by
    rfl
  have valid : Context.ofOptions ({} : Options)
      = .ok ⟨⟨⟨60, some "C".toText⟩, .major⟩, ⟨4, 4, by decide, by decide⟩, .builtIn⟩ := by
    rfl
  obtain ⟨failed, stopped⟩ := run_eq_readAll_of_valid valid "V1\nI7".toText
  rw [fold] at failed stopped
  have told : ((usual {}).run (spaced "V1\nI7".toText)).calls
      = [.start, .event (.track 1), .event (.instrument 7), .finish] :=
    (calls_run (by rfl) (by rfl) _).trans (by rfl)
  refine ⟨failed, stopped, told, ?_⟩
  intro insensitive
  have same := (insensitive {} "V1\nI7".toText).1
  rw [told, stopped] at same
  cases same

end Parser

end MusicText
