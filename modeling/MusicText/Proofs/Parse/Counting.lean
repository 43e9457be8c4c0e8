import Mathlib.Logic.Relation
import MusicText.Proofs.Event.Notation
import MusicText.Proofs.Parse.Single

/-!
Contract: keys that are counted in accidentals.

Owns: the parse of a `K` with accidentals behind it, and the rewritings of accidentals that leave
it as it is.

Does not own: texts that go on with something else behind the accidentals; see
`MusicText.Proofs.Token.KeyText`.

All that a run of accidentals says is its net count. The count is a place in the table of
signatures, the tonic there is read as the name of a key, and on the circle of fifths this key is as
far from C major as the count says.
-/

namespace MusicText

open MusicText.Text MusicText.Token

namespace KeySignature

/-- The tonic of a major signature lies so many fifths, of seven half-steps, above C. -/
theorem toInt_position_of_major {signature : KeySignature} (mode : signature.mode = .major) :
    signature.position.toInt = 7 * signature.count % 12 := by
  have circle : signature.tonic.fifths = signature.count := by
    rw [← signature.sharpsOf_tonic, mode]
    rfl
  rw [position, PitchClass.ofTone, PitchClass.toInt_ofInt, Tone.halfsteps_emod, circle]

end KeySignature

namespace Token.Signature

/-! ### Accidentals of the same count -/

/-- A step from accidentals to others: in another order, with a flat written the other way, or with
a sharp and a flat more. -/
inductive Respelled : Text → Text → Prop
  | reordered {marks other : Text} (same : marks.Perm other) : Respelled marks other
  | capitalised (before after : Text) :
      Respelled (before ++ .scalar 'b' :: after) (before ++ .scalar 'B' :: after)
  | cancelling {flat : CodePoint} (isFlat : flat = 'b' ∨ flat = 'B') (before after : Text) :
      Respelled (before ++ after) (before ++ .scalar '#' :: flat :: after)

theorem netCount_append (before after : Text) :
    netCount (before ++ after) = netCount before + netCount after := by
  simp only [netCount, List.count_append]
  omega

theorem netCount_cons (c : CodePoint) (rest : Text) :
    netCount (c :: rest) = netCount [c] + netCount rest :=
  netCount_append [c] rest

theorem netCount_counted (marks : Text) : netCount (.scalar 'K' :: marks) = netCount marks := by
  have silent : netCount [.scalar 'K'] = 0 := by decide
  rw [netCount_cons, silent, Int.zero_add]

variable {marks other : Text}

theorem Respelled.netCount_eq (step : Respelled marks other) :
    netCount other = netCount marks := by
  cases step with
  | reordered same => simp only [netCount, same.count_eq]
  | capitalised before after =>
      have alike : netCount [.scalar 'B'] = netCount [.scalar 'b'] := by decide
      rw [netCount_append, netCount_append, netCount_cons, netCount_cons (.scalar 'b'), alike]
  | cancelling isFlat before after =>
      have sharp : netCount [.scalar '#'] = 1 := by decide
      rw [netCount_append, netCount_append, netCount_cons, netCount_cons _ after, sharp]
      rcases isFlat with rfl | rfl
      · have flat : netCount [.scalar 'b'] = -1 := by decide
        omega
      · have flat : netCount [.scalar 'B'] = -1 := by decide
        omega

theorem Respelled.isAccidental_iff (step : Respelled marks other) :
    (∀ c ∈ other, IsAccidental c) ↔ ∀ c ∈ marks, IsAccidental c := by
  cases step with
  | reordered same => simp only [same.mem_iff]
  | capitalised before after =>
      have one : IsAccidental (.scalar 'b') := by decide
      have two : IsAccidental (.scalar 'B') := by decide
      simp only [List.forall_mem_append, List.forall_mem_cons, one, two, true_and]
  | cancelling isFlat before after =>
      have sharp : IsAccidental (.scalar '#') := by decide
      have flat : IsAccidental _ := Or.inr isFlat
      simp only [List.forall_mem_append, List.forall_mem_cons, sharp, flat, true_and]

/-- Any number of steps, in either direction, keep the count and add nothing but accidentals. -/
theorem counts_of_respelled (steps : Relation.EqvGen Respelled marks other) :
    netCount other = netCount marks
      ∧ ((∀ c ∈ other, IsAccidental c) ↔ ∀ c ∈ marks, IsAccidental c) := by
  induction steps with
  | rel first last step => exact ⟨step.netCount_eq, step.isAccidental_iff⟩
  | refl first => exact ⟨rfl, Iff.rfl⟩
  | symm first last steps inductionHypothesis =>
      exact ⟨inductionHypothesis.1.symm, inductionHypothesis.2.symm⟩
  | trans first middle last _ _ earlier later =>
      exact ⟨later.1.trans earlier.1, later.2.trans earlier.2⟩

/-! ### The token -/

/-- Whether a key is the major key with a net number of accidentals, as its signature counts them
and as it sounds. -/
structure IsMajorWith (count : Int) (key : Key) : Prop where
  mode_eq : key.mode = .major
  counted : KeySignature.countOfKey key = .ok count
  sounds : ∃ sounding, key.toSounding = .ok sounding
    ∧ sounding.mode = .major ∧ sounding.sharps = count

/-- The major key on the tonic of a signature. -/
def keyOn (signature : KeySignature) : Key :=
  ⟨(⟨signature.tonic, none⟩ : Note.Spelling).note, .major⟩

theorem isMajorWith_keyOn {signature : KeySignature} (mode : signature.mode = .major) :
    IsMajorWith signature.count (keyOn signature) := by
  have spelled : (keyOn signature).root.Spells signature.tonic := Note.spells_note _
  have circle : SoundingKey.sharpsOf signature.tonic .major = signature.count :=
    mode ▸ signature.sharpsOf_tonic
  have bounds := signature.count_mem
  refine ⟨rfl, ?_, _, Key.toSounding_of_spells spelled, rfl, circle⟩
  rw [KeySignature.countOfKey_of_tabulated spelled]
  · exact congrArg Except.ok circle
  · show (SoundingKey.sharpsOf signature.tonic .major).natAbs ≤ 7
    omega

theorem keyEvent_keyOn {signature : KeySignature} (mode : signature.mode = .major) :
    keyEvent (keyOn signature) = .key (7 * signature.count % 12) 1 := by
  have sameClass : (keyOn signature).root.pitchClass = signature.position :=
    Note.pitchClass_note _
  rw [keyEvent, sameClass, KeySignature.toInt_position_of_major mode]
  rfl

/-- The token of a key that is counted in accidentals. -/
def countedToken (marks : Text) : Text :=
  keyMark ++ .scalar 'K' :: marks

theorem beginsRun_of_accidentals (nonempty : marks ≠ []) (accidentals : ∀ c ∈ marks, IsAccidental c) :
    BeginsRun (.scalar 'K' :: marks) :=
  IsRun.beginsRun ⟨marks, rfl, nonempty, accidentals⟩

theorem unspaced_of_accidentals (accidentals : ∀ c ∈ marks, IsAccidental c) :
    ∀ c ∈ CodePoint.scalar 'K' :: marks, isPart c := by
  refine List.forall_mem_cons.2 ⟨by decide, ?_⟩
  intro c member
  rcases accidentals c member with rfl | rfl | rfl <;> decide

theorem isSingle_countedToken (accidentals : ∀ c ∈ marks, IsAccidental c) :
    Parser.IsSingle (countedToken marks) :=
  Parser.isSingle_append (by decide) (by decide) (unspaced_of_accidentals accidentals)

section Runs

variable {options : Options} {initial : Context} (valid : Context.ofOptions options = .ok initial)
  (nonempty : marks ≠ []) (accidentals : ∀ c ∈ marks, IsAccidental c)
include valid nonempty accidentals

theorem run_of_few (small : (netCount marks).natAbs ≤ 7) :
    ∃ signature : KeySignature, signature.mode = .major ∧ signature.count = netCount marks
      ∧ ((Parser.usual options).run (countedToken marks)).result
          = .ok { initial with key := keyOn signature }
      ∧ ((Parser.usual options).run (countedToken marks)).calls
          = [.start, .event (.key (7 * netCount marks % 12) 1), .finish] := by
  have begins := beginsRun_of_accidentals nonempty accidentals
  obtain ⟨signature, mode, count, read⟩ :=
    exists_readKey_of_beginsRun begins ((netCount_counted marks).symm ▸ small)
  have single := isSingle_countedToken accidentals
  obtain ⟨result, calls⟩ :=
    Parser.run_single_of_accepted valid single _ (effect_key single.unspaced read)
  rw [netCount_counted] at count
  refine ⟨signature, mode, count, result, ?_⟩
  rw [← count, ← keyEvent_keyOn mode]
  exact calls

theorem run_of_many (large : 7 < (netCount marks).natAbs) :
    ((Parser.usual options).run (countedToken marks)).result
        = .error (.token ⟨.tooManyAccidentals (netCount marks) (.scalar 'K' :: marks),
            .scalar 'K' :: marks, 0⟩)
      ∧ ((Parser.usual options).run (countedToken marks)).calls = [.start] := by
  have begins := beginsRun_of_accidentals nonempty accidentals
  have read : readKey (.scalar 'K' :: marks) = .error (.ofDefect
      (.tooManyAccidentals (netCount marks) (.scalar 'K' :: marks)) (.scalar 'K' :: marks)) := by
    rw [readKey_of_beginsRun begins, countedKey_of_large ((netCount_counted marks).symm ▸ large),
      netCount_counted]
  have single := isSingle_countedToken accidentals
  exact Parser.run_single_of_refused valid single (effect_key_of_error single.unspaced read)

end Runs

/-- Music that is a `K` with accidentals behind it fails exactly when they are more than seven on
balance. Else it sets the major key with this count, and reports one key whose root lies as many
fifths above C. Accidentals in another order, flats written the other way and pairs that cancel
change nothing but the text that a failure shows. -/
theorem run_counts_accidentals {options : Options} {initial : Context}
    (valid : Context.ofOptions options = .ok initial) (nonempty : marks ≠ [])
    (accidentals : ∀ c ∈ marks, IsAccidental c) :
    let run := fun marks => (Parser.usual options).run (countedToken marks)
    let count := netCount marks
    ((∃ failure, (run marks).result = .error failure) ↔ 7 < count.natAbs)
      ∧ (7 < count.natAbs →
          (run marks).result = .error (.token ⟨.tooManyAccidentals count (.scalar 'K' :: marks),
              .scalar 'K' :: marks, 0⟩)
            ∧ (run marks).calls = [.start])
      ∧ (count.natAbs ≤ 7 →
          ∃ key, (run marks).result = .ok { initial with key := key } ∧ IsMajorWith count key
            ∧ (run marks).calls = [.start, .event (.key (7 * count % 12) 1), .finish])
      ∧ ∀ other, other ≠ [] → Relation.EqvGen Respelled marks other →
          (run other).calls = (run marks).calls
            ∧ (count.natAbs ≤ 7 → (run other).result = (run marks).result)
            ∧ (7 < count.natAbs →
                (run other).result = .error (.token
                  ⟨.tooManyAccidentals count (.scalar 'K' :: other), .scalar 'K' :: other, 0⟩)) := by
  intro run count
  refine ⟨⟨?large, ?fails⟩, run_of_many valid nonempty accidentals, ?few, ?same⟩
  case large =>
    rintro ⟨failure, failed⟩
    by_contra small
    obtain ⟨signature, -, -, result, -⟩ :=
      run_of_few valid nonempty accidentals (Nat.not_lt.1 small)
    cases failed.symm.trans result
  case fails =>
    intro large
    exact ⟨_, (run_of_many valid nonempty accidentals large).1⟩
  case few =>
    intro small
    obtain ⟨signature, mode, counted, result, calls⟩ :=
      run_of_few valid nonempty accidentals small
    have major := isMajorWith_keyOn mode
    rw [counted] at major
    exact ⟨_, result, major, calls⟩
  case same =>
    intro other otherNonempty steps
    obtain ⟨sameCount, stillAccidentals⟩ := counts_of_respelled steps
    have otherAccidentals := stillAccidentals.2 accidentals
    rcases Nat.lt_or_ge 7 count.natAbs with large | small
    · obtain ⟨-, calls⟩ := run_of_many valid nonempty accidentals large
      obtain ⟨otherResult, otherCalls⟩ :=
        run_of_many valid otherNonempty otherAccidentals (sameCount ▸ large)
      rw [sameCount] at otherResult
      exact ⟨otherCalls.trans calls.symm, fun small => by omega, fun _ => otherResult⟩
    · obtain ⟨signature, mode, counted, result, calls⟩ :=
        run_of_few valid nonempty accidentals small
      obtain ⟨otherSignature, otherMode, otherCounted, otherResult, otherCalls⟩ :=
        run_of_few valid otherNonempty otherAccidentals (sameCount ▸ small)
      obtain rfl : otherSignature = signature := KeySignature.ext_count
        (otherMode.trans mode.symm) (otherCounted.trans (sameCount.trans counted.symm))
      rw [sameCount] at otherCalls
      exact ⟨otherCalls.trans calls.symm, fun _ => otherResult.trans result.symm,
        fun large => by omega⟩

theorem run_counts_accidentals_sample :
    let initial : Context :=
      ⟨⟨⟨60, some "C".toText⟩, .major⟩, ⟨4, 4, by decide, by decide⟩, .builtIn⟩
    let run := fun marks => (Parser.usual {}).run (countedToken marks)
    Context.ofOptions {} = .ok initial
      ∧ (∀ c ∈ "bB#b".toText, IsAccidental c) ∧ netCount "bB#b".toText = -2
      ∧ (∃ key, (run "bB#b".toText).result = .ok { initial with key := key }
          ∧ IsMajorWith (-2) key)
      ∧ (run "bB#b".toText).calls = [.start, .event (.key 10 1), .finish]
      ∧ Relation.EqvGen Respelled "bB#b".toText "BB".toText
      ∧ (run "BB".toText).result = (run "bB#b".toText).result
      ∧ (∀ c ∈ "########".toText, IsAccidental c)
      ∧ (run "########".toText).calls = [.start] := by
  intro initial run
  have valid : Context.ofOptions {} = .ok initial := by rfl
  have accidentals : ∀ c ∈ "bB#b".toText, IsAccidental c := by decide
  have eightSharps : ∀ c ∈ "########".toText, IsAccidental c := by decide
  have steps : Relation.EqvGen Respelled "bB#b".toText "BB".toText :=
    .trans _ "bB".toText _ (.symm _ _ (.rel _ _ (.cancelling (Or.inl rfl) "bB".toText [])))
      (.rel _ _ (.capitalised [] "B".toText))
  obtain ⟨-, -, few, same⟩ := run_counts_accidentals valid (by decide) accidentals
  obtain ⟨-, many, -, -⟩ := run_counts_accidentals valid (by decide) eightSharps
  obtain ⟨key, result, major, calls⟩ := few (by decide)
  obtain ⟨-, sameResult, -⟩ := same "BB".toText (by decide) steps
  exact ⟨valid, accidentals, by decide, ⟨key, result, major⟩, calls, steps,
    sameResult (by decide), eightSharps, (many (by decide)).2⟩

end Token.Signature

end MusicText
