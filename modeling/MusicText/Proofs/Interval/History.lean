import MusicText.Intervals.Request
import MusicText.Proofs.Interval.Rotation
import MusicText.Proofs.Text.Cutting

/-!
Contract: patterns behind a history of requests.

Owns: what a request does to a pattern at most, the pattern behind any requests told from the
requests alone, and its text, its half-steps and its notes.

Does not own: rotation by itself; see `MusicText.Proofs.Interval.Rotation`.

The tokens are cut once, from the first text. Whatever is asked later, the same tokens come out in
the same cyclic order, so everything that is true of tokens cut from a text stays true.
-/

namespace MusicText.Intervals

open MusicText.Text

namespace Request

/-- How far a request rotates a pattern. -/
def amount : Request → Int
  | rotate amount => amount
  | setRoot _ | setRootText _ | notes | resolve _ | halfsteps | token _ => 0

/-- The root that a request sets, unless it asks for one by a text that names no note. -/
def root? : Request → Option Note
  | setRoot root => some root
  | setRootText text => (Note.ofText text).toOption
  | rotate _ | notes | resolve _ | halfsteps | token _ => none

end Request

/-- How far several requests rotate a pattern altogether. -/
def totalAmount : List Request → Int
  | [] => 0
  | request :: later => request.amount + totalAmount later

/-- The root that several requests set last. -/
def lastRoot? (requests : List Request) : Option Note :=
  (requests.filterMap Request.root?).getLast?

/-! ### One request -/

/-- All that a request does to a pattern is to turn its tokens and to set its root. -/
theorem next_serve (pattern : Intervals) (request : Request) :
    (pattern.serve request).1
      = ⟨turned request.amount pattern.tokens, request.root?.or pattern.root⟩ := by
  cases request with
  | rotate amount => exact rotate_eq_turned pattern amount
  | setRoot root =>
      rw [Request.amount, turned_zero]
      rfl
  | setRootText text =>
      rw [Request.amount, turned_zero, serve, withRootText, Request.root?]
      cases Note.ofText text <;> rfl
  | notes | resolve root | halfsteps | token index =>
      rw [Request.amount, turned_zero]
      rfl

theorem next_serve_of_error {pattern : Intervals} {request : Request} {fault : Fault}
    (failed : (pattern.serve request).2 = .error fault) : (pattern.serve request).1 = pattern := by
  cases request with
  | rotate amount | setRoot root => cases failed
  | setRootText text =>
      rw [serve] at failed ⊢
      cases rooted : pattern.withRootText text with
      | ok next => simp [rooted] at failed
      | error cause => rfl
  | notes | resolve root | halfsteps | token index => rfl

/-! ### Any requests -/

/-- The pattern behind several requests has turned by the sum of their amounts, and has the root
that was set last. -/
theorem serveEach_eq (pattern : Intervals) (requests : List Request) :
    pattern.serveEach requests
      = ⟨turned (totalAmount requests) pattern.tokens, (lastRoot? requests).or pattern.root⟩ := by
  induction requests generalizing pattern with
  | nil =>
      show pattern = ⟨turned 0 pattern.tokens, pattern.root⟩
      rw [turned_zero]
  | cons request later inductionHypothesis =>
      have amounts : totalAmount (request :: later) = request.amount + totalAmount later := rfl
      -- What is set later wins, so the root of this request counts as the one before `later`.
      have roots : (lastRoot? (request :: later)).or pattern.root
          = (lastRoot? later).or (request.root?.or pattern.root) := by
        rw [lastRoot?, lastRoot?]
        cases own : request.root? with
        | none => rw [List.filterMap_cons_none own, Option.none_or]
        | some root =>
            rw [List.filterMap_cons_some own, List.getLast?_cons]
            cases (later.filterMap Request.root?).getLast? <;> rfl
      rw [serveEach, inductionHypothesis, next_serve, turned_turned, amounts, roots]

theorem serveEach_ofText (text : Text) (requests : List Request) :
    (ofText text).serveEach requests
      = ⟨turned (totalAmount requests) (words text), lastRoot? requests⟩ := by
  rw [serveEach_eq, ofText, Option.or_none]

theorem solid_serveEach (text : Text) (requests : List Request) :
    ∀ token ∈ ((ofText text).serveEach requests).tokens,
      token ≠ [] ∧ ∀ c ∈ token, isBlank c = false := by
  rw [serveEach_ofText]
  exact fun _ member => solid_of_mem_words (mem_turned.1 member)

/-! ### Texts, half-steps and notes -/

/-- A pattern of tokens without blanks is read back from its text. -/
theorem words_toText {pattern : Intervals}
    (solid : ∀ token ∈ pattern.tokens, token ≠ [] ∧ ∀ c ∈ token, isBlank c = false) :
    words pattern.toText = pattern.tokens :=
  words_unwords solid

theorem samePattern_iff {pattern other : Intervals} :
    pattern.samePattern other ↔ pattern.tokens = other.tokens :=
  beq_iff_eq

theorem samePattern_iff_toText {pattern other : Intervals}
    (solid : ∀ token ∈ pattern.tokens, token ≠ [] ∧ ∀ c ∈ token, isBlank c = false)
    (otherSolid : ∀ token ∈ other.tokens, token ≠ [] ∧ ∀ c ∈ token, isBlank c = false) :
    pattern.samePattern other ↔ pattern.toText = other.toText := by
  rw [samePattern_iff]
  constructor
  · intro same
    rw [toText, toText, same]
  · intro same
    rw [← words_toText solid, ← words_toText otherSolid, same]

theorem notes_of_root {pattern : Intervals} {root : Note} (rooted : pattern.root = some root) :
    pattern.notes
      = pattern.halfsteps.map fun steps => steps.map fun step => ⟨root.value + step, none⟩ := by
  rw [notes, rooted]
  rfl

theorem notes_rotate {pattern : Intervals} {root : Note} {steps : List Int}
    (rooted : pattern.root = some root) (resolves : pattern.halfsteps = .ok steps) (amount : Int) :
    (pattern.rotate amount).notes
      = .ok ((turned amount steps).map fun step => ⟨root.value + step, none⟩) := by
  rw [notes_of_root ((root_rotate pattern amount).trans rooted), halfsteps_rotate resolves]
  rfl

theorem notes_of_halfsteps_error {pattern : Intervals} {root : Note} {fault : Fault}
    (rooted : pattern.root = some root) (fails : pattern.halfsteps = .error fault) :
    pattern.notes = .error fault := by
  rw [notes_of_root rooted, fails]
  rfl

/-- Behind any requests a pattern is the one that was cut from its text, rotated to the left by the
sum of all amounts modulo its length, with the root that was set last; a request that fails changes
neither. Its tokens are not empty and hold no blanks, so its text is read back as the same
pattern, and two such patterns are the same exactly when their texts are. If all tokens have
half-steps, these turn with the pattern, and the notes lie above the root by them. Otherwise the
first token without half-steps, in the order that the tokens have then, tells the fault of both the
half-steps and the notes. -/
theorem serveEach_only_rotates (text : Text) (requests : List Request) :
    let pattern := (ofText text).serveEach requests
    pattern.tokens = turned (totalAmount requests) (words text)
      ∧ pattern.root = lastRoot? requests
      ∧ (∀ request fault, (pattern.serve request).2 = .error fault →
          (pattern.serve request).1 = pattern)
      ∧ (∀ token ∈ pattern.tokens, token ≠ [] ∧ ∀ c ∈ token, isBlank c = false)
      ∧ (ofText pattern.toText).samePattern pattern
      ∧ (∀ otherText otherRequests,
          let other := (ofText otherText).serveEach otherRequests
          pattern.samePattern other ↔ pattern.toText = other.toText)
      ∧ ((∀ token ∈ words text, ∃ step, Interval.halfsteps token = .ok step) →
          ∃ steps, pattern.halfsteps = .ok steps
            ∧ List.Forall₂ (fun token step => Interval.halfsteps token = .ok step)
                pattern.tokens steps
            ∧ (∀ amount, (pattern.rotate amount).halfsteps = .ok (turned amount steps))
            ∧ ∀ root, pattern.root = some root → ∀ amount,
                (pattern.rotate amount).notes
                  = .ok ((turned amount steps).map fun step => ⟨root.value + step, none⟩))
      ∧ ((∃ token ∈ words text, ∃ fault, Interval.halfsteps token = .error fault) →
          ∃ earlier token later fault, pattern.tokens = earlier ++ token :: later
            ∧ (∀ other ∈ earlier, ∃ step, Interval.halfsteps other = .ok step)
            ∧ Interval.halfsteps token = .error fault
            ∧ pattern.halfsteps = .error fault
            ∧ ∀ root, pattern.root = some root → pattern.notes = .error fault) := by
  intro pattern
  have state : pattern = ⟨turned (totalAmount requests) (words text), lastRoot? requests⟩ :=
    serveEach_ofText text requests
  have tokens : pattern.tokens = turned (totalAmount requests) (words text) :=
    congrArg Intervals.tokens state
  have solid := solid_serveEach text requests
  refine ⟨tokens, congrArg Intervals.root state, fun _ _ => next_serve_of_error, solid, ?again,
    ?texts, ?resolved, ?unresolved⟩
  case again =>
    rw [samePattern_iff]
    exact words_toText solid
  case texts =>
    intro otherText otherRequests
    exact samePattern_iff_toText solid (solid_serveEach otherText otherRequests)
  case resolved =>
    intro resolve
    obtain ⟨steps, read⟩ : ∃ steps, pattern.halfsteps = .ok steps := by
      refine exists_halfsteps_iff.2 fun token member => resolve token ?_
      exact mem_turned.1 (tokens ▸ member)
    exact ⟨steps, read, halfsteps_eq_ok_iff.1 read, halfsteps_rotate read,
      fun _ rooted => notes_rotate rooted read⟩
  case unresolved =>
    rintro ⟨token, member, fault, unread⟩
    -- Turning may bring another such token to the front, with a fault of its own.
    cases read : pattern.halfsteps with
    | ok steps =>
        have inTurned : token ∈ pattern.tokens := tokens ▸ mem_turned.2 member
        obtain ⟨step, own⟩ := exists_halfsteps_iff.1 ⟨steps, read⟩ token inTurned
        rw [own] at unread
        cases unread
    | error fault =>
        obtain ⟨earlier, first, later, split, done, stopped⟩ := halfsteps_eq_error_iff.1 read
        exact ⟨earlier, first, later, fault, split, done, stopped, rfl,
          fun _ rooted => notes_of_halfsteps_error rooted read⟩

theorem serveEach_only_rotates_sample :
    let requests : List Request :=
      [.rotate 5, .setRootText "D4".toText, .setRootText "H".toText, .notes, .token 3, .rotate (-1)]
    let pattern := (ofText "1 b3 5".toText).serveEach requests
    let fading := (ofText "1 16 b".toText).serveEach requests
    totalAmount requests = 4
      ∧ pattern.tokens = ["b3", "5", "1"].map String.toText
      ∧ pattern.root = some ⟨50, some "D".toText⟩
      ∧ (∀ token ∈ words "1 b3 5".toText, ∃ step, Interval.halfsteps token = .ok step)
      ∧ (pattern.rotate (-7)).halfsteps = .ok [0, 3, 7]
      ∧ (pattern.rotate (-7)).notes = .ok [⟨50, none⟩, ⟨53, none⟩, ⟨57, none⟩]
      ∧ fading.tokens = ["16", "b", "1"].map String.toText
      ∧ Interval.halfsteps "b".toText = .error (.degreeOutOfRange "b".toText)
      ∧ fading.notes = .error (.degreeOutOfRange "16".toText) := by
  intro requests pattern fading
  obtain ⟨tokens, root, -, -, -, -, resolved, -⟩ := serveEach_only_rotates "1 b3 5".toText requests
  obtain ⟨fadingTokens, fadingRoot, -, -, -, -, -, unresolved⟩ :=
    serveEach_only_rotates "1 16 b".toText requests
  have resolves : ∀ token ∈ words "1 b3 5".toText, ∃ step, Interval.halfsteps token = .ok step := by
    rw [show words "1 b3 5".toText = ["1", "b3", "5"].map String.toText by rfl]
    simp only [List.map_cons, List.map_nil, List.forall_mem_cons]
    exact ⟨⟨0, by rfl⟩, ⟨3, by rfl⟩, ⟨7, by rfl⟩, by simp⟩
  obtain ⟨steps, read, -, turns, notes⟩ := resolved resolves
  obtain rfl : [3, 7, 0] = steps := Except.ok.inj (Eq.trans (by rfl) read)
  obtain ⟨earlier, token, later, fault, -, -, -, stopped, silent⟩ :=
    unresolved ⟨"b".toText, by decide, .degreeOutOfRange "b".toText, by rfl⟩
  obtain rfl : .degreeOutOfRange "16".toText = fault := Except.error.inj (Eq.trans (by rfl) stopped)
  have rooted : pattern.root = some ⟨50, some "D".toText⟩ := root.trans (by rfl)
  exact ⟨rfl, tokens.trans (by rfl), rooted, resolves, turns (-7), notes _ rooted (-7),
    fadingTokens.trans (by rfl), by rfl, silent _ (fadingRoot.trans (by rfl))⟩

end MusicText.Intervals
