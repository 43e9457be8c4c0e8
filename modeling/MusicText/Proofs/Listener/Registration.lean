import MusicText.Proofs.Listener.Serving
import MusicText.Session

/-!
Contract: groups whose members come and go.

Owns: the members of a session that are left of several registrations, their order, and the
session as the group of its members.

Does not own: how a group serves its leaves; see `MusicText.Proofs.Listener.Serving`.

A session holds its listeners under names and a list of those that are attached. A group holds
its members themselves. The two agree as long as no listener is attached twice, for then no
member can change behind the back of another.
-/

namespace MusicText

/-! ### Calls -/

namespace Session

section

variable {call : Call} {name : Text} {listeners : List (Text × Listener)}

theorem tell_of_unknown (unknown : listeners.lookup name = none) :
    tell call name listeners = .quiet listeners := by
  induction listeners with
  | nil => rfl
  | cons entry rest inductionHypothesis =>
      obtain ⟨known, listener⟩ := entry
      rw [List.lookup_cons] at unknown
      by_cases same : known = name
      · simp [same] at unknown
      · have behind : rest.lookup name = none := by
          simpa [beq_eq_false_iff_ne.2 (Ne.symm same)] using unknown
        rw [tell, if_neg same, inductionHypothesis behind]
        rfl

/-- A call to a name makes of the listener of this name what the call makes of it. -/
theorem tell_of_known (call : Call) {listener : Listener}
    (found : listeners.lookup name = some listener) :
    (tell call name listeners).map (·.lookup name) = (listener.receive call).map some := by
  induction listeners with
  | nil => simp at found
  | cons entry rest inductionHypothesis =>
      obtain ⟨known, first⟩ := entry
      rw [List.lookup_cons] at found
      by_cases same : known = name
      · obtain rfl : first = listener := by simpa [same] using found
        rw [tell, if_pos same, Reaction.map_map]
        simp [same, Reaction.map]
      · have behind : rest.lookup name = some listener := by
          simpa [beq_eq_false_iff_ne.2 (Ne.symm same)] using found
        rw [tell, if_neg same, Reaction.map_map, ← inductionHypothesis behind]
        simp [Function.comp_def, List.lookup_cons, beq_eq_false_iff_ne.2 (Ne.symm same)]

theorem lookup_tell_of_ne (call : Call) (listeners : List (Text × Listener)) {other : Text}
    (differs : other ≠ name) :
    (tell call name listeners).next.lookup other = listeners.lookup other := by
  induction listeners with
  | nil => rfl
  | cons entry rest inductionHypothesis =>
      obtain ⟨known, first⟩ := entry
      by_cases same : known = name
      · rw [tell, if_pos same]
        simp [Reaction.map, List.lookup_cons, same, beq_eq_false_iff_ne.2 differs]
      · rw [tell, if_neg same]
        simp only [Reaction.map, List.lookup_cons, inductionHypothesis]

end

/-- The listeners of several names, in order. -/
def membersOf (names : List Text) (listeners : List (Text × Listener)) : List Listener :=
  names.filterMap fun name => listeners.lookup name

/-- The attached listeners, in order. -/
def members (session : Session) : List Listener :=
  membersOf session.attached session.listeners

theorem membersOf_cons_of_unknown {name : Text} {listeners : List (Text × Listener)}
    (unknown : listeners.lookup name = none) (rest : List Text) :
    membersOf (name :: rest) listeners = membersOf rest listeners :=
  List.filterMap_cons_none unknown

theorem membersOf_cons_of_known {name : Text} {listeners : List (Text × Listener)}
    {listener : Listener} (found : listeners.lookup name = some listener) (rest : List Text) :
    membersOf (name :: rest) listeners = listener :: membersOf rest listeners :=
  List.filterMap_cons_some found

theorem lookup_tellEach_of_not_mem (call : Call) {names : List Text}
    (listeners : List (Text × Listener)) {name : Text} (absent : name ∉ names) :
    (tellEach call names listeners).next.lookup name = listeners.lookup name := by
  induction names generalizing listeners with
  | nil => rfl
  | cons first rest inductionHypothesis =>
      rw [List.mem_cons, not_or] at absent
      have told := lookup_tell_of_ne call listeners absent.1
      rw [tellEach]
      cases interrupted : (tell call first listeners).interruption with
      | some fault => rw [Reaction.andThen_of_interrupted interrupted, told]
      | none =>
          rw [Reaction.andThen_of_uninterrupted _ interrupted]
          exact (inductionHypothesis _ absent.2).trans told

/-- The listeners of several names, none of which is named twice, are told of a call as the
members of a group are. -/
theorem tellEach_eq_receiveEach (call : Call) {names : List Text} (distinct : names.Nodup)
    (listeners : List (Text × Listener)) :
    (tellEach call names listeners).map (membersOf names)
      = Listener.receiveEach call (membersOf names listeners) := by
  induction names generalizing listeners with
  | nil => rfl
  | cons name rest inductionHypothesis =>
      obtain ⟨fresh, distinctRest⟩ := List.nodup_cons.1 distinct
      rw [tellEach]
      cases found : listeners.lookup name with
      | none =>
          have still : (tellEach call rest listeners).next.lookup name = none :=
            (lookup_tellEach_of_not_mem call listeners fresh).trans found
          rw [tell_of_unknown found, Reaction.andThen_quiet, membersOf_cons_of_unknown found,
            ← inductionHypothesis distinctRest]
          simp only [Reaction.map, membersOf_cons_of_unknown still]
      | some listener =>
          have told := tell_of_known call found
          have next : (tell call name listeners).next.lookup name
              = some (listener.receive call).next := congrArg Reaction.next told
          have remarks : (tell call name listeners).remarks = (listener.receive call).remarks :=
            congrArg Reaction.remarks told
          have ending : (tell call name listeners).interruption
              = (listener.receive call).interruption := congrArg Reaction.interruption told
          have untouched : membersOf rest (tell call name listeners).next
              = membersOf rest listeners := by
            apply List.filterMap_congr
            intro other member
            exact lookup_tell_of_ne call listeners fun same => fresh (same ▸ member)
          rw [membersOf_cons_of_known found]
          cases interrupted : (listener.receive call).interruption with
          | some fault =>
              rw [Reaction.andThen_of_interrupted (ending.trans interrupted),
                Listener.receiveEach_cons_of_interrupted interrupted]
              simp only [Reaction.map, membersOf_cons_of_known next, untouched, remarks, ending]
          | none =>
              have still := (lookup_tellEach_of_not_mem call (tell call name listeners).next
                fresh).trans next
              rw [Reaction.andThen_of_uninterrupted _ (ending.trans interrupted),
                Listener.receiveEach_cons_of_uninterrupted interrupted, ← untouched,
                ← inductionHypothesis distinctRest]
              simp only [Reaction.map, Reaction.after, membersOf_cons_of_known still, remarks]

/-! ### Sessions as groups -/

variable {session : Session}

/-- The attached listeners as a group. -/
def toGroup (session : Session) : Listener :=
  .group session.members

/-- A session without a listener that is attached twice makes of a call what the group of its
members makes of it. -/
theorem toGroup_dispatch (distinct : session.attached.Nodup) (call : Call) :
    (session.dispatch call).map toGroup = Listener.receive call session.toGroup :=
  congrArg (Reaction.map Listener.group) (tellEach_eq_receiveEach call distinct session.listeners)

theorem lookup_dispatch_of_not_mem {name : Text} (absent : name ∉ session.attached)
    (call : Call) :
    (session.dispatch call).next.listeners.lookup name = session.listeners.lookup name :=
  lookup_tellEach_of_not_mem call session.listeners absent

theorem toGroup_follow (distinct : session.attached.Nodup) (notices : List Notice) :
    (session.follow notices).map toGroup = session.toGroup.follow notices := by
  induction notices generalizing session with
  | nil => rfl
  | cons notice rest inductionHypothesis =>
      cases notice with
      | remark content =>
          rw [follow, Listener.follow, Reaction.map_after, inductionHypothesis distinct]
      | call content =>
          rw [follow, Listener.follow, ← toGroup_dispatch distinct content]
          apply Reaction.map_andThen
          intro quiet
          exact inductionHypothesis (by exact distinct)

/-- A session parses as the group of its members hears the parse. -/
theorem parse_eq_hear (distinct : session.attached.Nodup) (music : Text) :
    let parsed := session.parse music
    (⟨parsed.1.toGroup, parsed.2.1, parsed.2.2⟩ : Hearing)
      = session.toGroup.hear (session.parser.run music) := by
  intro parsed
  rw [Listener.hear, ← toGroup_follow distinct]
  rfl

/-- What a session becomes by a sequence of calls, without remarks. -/
def dispatchAll (session : Session) (calls : List Call) : Session :=
  calls.foldl (fun current call => (current.dispatch call).next) session

theorem toGroup_dispatchAll (distinct : session.attached.Nodup) (calls : List Call) :
    (session.dispatchAll calls).toGroup = session.toGroup.receiveAll calls := by
  induction calls generalizing session with
  | nil => rfl
  | cons call rest inductionHypothesis =>
      have next : (session.dispatch call).next.toGroup
          = (Listener.receive call session.toGroup).next :=
        congrArg Reaction.next (toGroup_dispatch distinct call)
      have further : ((session.dispatch call).next.dispatchAll rest).toGroup = _ :=
        inductionHypothesis (by exact distinct)
      rw [next] at further
      exact further

/-- A listener that is not attached does not hear of a parse. -/
theorem lookup_follow_of_not_mem {name : Text} (absent : name ∉ session.attached)
    (notices : List Notice) :
    (session.follow notices).next.listeners.lookup name = session.listeners.lookup name := by
  induction notices generalizing session with
  | nil => rfl
  | cons notice rest inductionHypothesis =>
      cases notice with
      | remark content => exact inductionHypothesis absent
      | call content =>
          have told := lookup_dispatch_of_not_mem absent content
          rw [follow]
          cases interrupted : (session.dispatch content).interruption with
          | some fault => rw [Reaction.andThen_of_interrupted interrupted, told]
          | none =>
              rw [Reaction.andThen_of_uninterrupted _ interrupted]
              exact (inductionHypothesis (by exact absent)).trans told

theorem lookup_dispatchAll_of_not_mem {name : Text} (absent : name ∉ session.attached)
    (calls : List Call) :
    (session.dispatchAll calls).listeners.lookup name = session.listeners.lookup name := by
  induction calls generalizing session with
  | nil => rfl
  | cons call rest inductionHypothesis =>
      have further : ((session.dispatch call).next.dispatchAll rest).listeners.lookup name = _ :=
        inductionHypothesis (by exact absent)
      exact further.trans (lookup_dispatch_of_not_mem absent call)

end Session

/-! ### Registrations -/

/-- A change of the list of attached listeners. -/
inductive Registration
  | add (name : Text)
  | remove (name : Text)

namespace Registration

def name : Registration → Text
  | .add name | .remove name => name

/-- The names that are added, in order. -/
def added (registrations : List Registration) : List Text :=
  registrations.filterMap fun registration =>
    match registration with
    | .add name => some name
    | .remove _ => none

/-- How often a name is left, if it is there several times before. A removal takes away one, if
there is one. -/
def leftOf (name : Text) (count : Nat) : List Registration → Nat
  | [] => count
  | .add other :: rest => leftOf name (if other = name then count + 1 else count) rest
  | .remove other :: rest => leftOf name (if other = name then count - 1 else count) rest

/-- Names without the first occurrences of each, of which the given number are left. -/
def keepLast (left : Text → Nat) : List Text → List Text
  | [] => []
  | name :: rest =>
      if rest.count name < left name then name :: keepLast left rest else keepLast left rest

theorem leftOf_le (name : Text) (count : Nat) (registrations : List Registration) :
    leftOf name count registrations ≤ count + (added registrations).count name := by
  induction registrations generalizing count with
  | nil => simp [leftOf]
  | cons registration rest inductionHypothesis =>
      cases registration with
      | add other =>
          rw [leftOf, show added (.add other :: rest) = other :: added rest from rfl,
            List.count_cons]
          apply (inductionHypothesis _).trans
          by_cases same : other = name
          · simp only [same, if_true, beq_self_eq_true]
            omega
          · simp [same]
      | remove other =>
          rw [leftOf, show added (.remove other :: rest) = added rest from rfl]
          apply (inductionHypothesis _).trans
          split
          · omega
          · omega

theorem keepLast_eq_self {left : Text → Nat} {names : List Text}
    (all : ∀ name, names.count name ≤ left name) : keepLast left names = names := by
  induction names with
  | nil => rfl
  | cons name rest inductionHypothesis =>
      have fewer : ∀ other, rest.count other ≤ left other := fun other =>
        List.count_le_count_cons.trans (all other)
      have there := all name
      rw [List.count_cons_self] at there
      rw [keepLast, if_pos (by omega), inductionHypothesis fewer]

/-- An occurrence in front does not count if enough of the name are left without it. -/
theorem keepLast_erase {left : Text → Nat} {name : Text} {earlier later : List Text}
    (enough : left name ≤ (earlier.erase name ++ later).count name) :
    keepLast left (earlier.erase name ++ later) = keepLast left (earlier ++ later) := by
  induction earlier with
  | nil => rfl
  | cons first rest inductionHypothesis =>
      by_cases same : first = name
      · subst same
        rw [List.erase_cons_head] at enough ⊢
        rw [List.cons_append, keepLast, if_neg (by omega)]
      · have skipped : (first :: rest).erase name = first :: rest.erase name :=
          List.erase_cons_tail (by simpa using same)
        rw [skipped, List.cons_append, List.count_cons_of_ne same] at enough
        have counted : (rest.erase name ++ later).count first = (rest ++ later).count first := by
          rw [List.count_append, List.count_append, List.count_erase_of_ne same]
        rw [skipped, List.cons_append, List.cons_append, keepLast, keepLast, counted,
          inductionHypothesis enough]

end Registration

namespace Session

def register (session : Session) : Registration → Except Refusal Session
  | .add name => session.attach name
  | .remove name => session.detach name

/-- What a session becomes by several registrations. One that is refused changes nothing. -/
def registerAll (session : Session) (registrations : List Registration) : Session :=
  registrations.foldl
    (fun current registration =>
      match current.register registration with
      | .ok next => next
      | .error _ => current)
    session

variable {session : Session}

-- A registration reads the listeners, but changes only the list of those that are attached.
theorem attach_of_known {name : Text} {listener : Listener}
    (found : session.listeners.lookup name = some listener) :
    session.attach name = .ok { session with attached := session.attached ++ [name] } := by
  rw [attach, Session.listener, found]
  rfl

theorem detach_of_attached {name : Text} {listener : Listener}
    (found : session.listeners.lookup name = some listener) (there : name ∈ session.attached) :
    session.detach name = .ok { session with attached := session.attached.erase name } := by
  rw [detach, Session.listener, found]
  exact if_pos there

theorem detach_of_not_attached {name : Text} {listener : Listener}
    (found : session.listeners.lookup name = some listener) (absent : name ∉ session.attached) :
    session.detach name = .error .notAttached := by
  rw [detach, Session.listener, found]
  exact if_neg absent

theorem registerAll_cons_add {name : Text} {listener : Listener}
    (found : session.listeners.lookup name = some listener) (rest : List Registration) :
    session.registerAll (.add name :: rest)
      = registerAll { session with attached := session.attached ++ [name] } rest := by
  rw [registerAll, List.foldl_cons, register, attach_of_known found]
  rfl

/-- Where nothing is left to be removed, nothing is erased either. -/
theorem registerAll_cons_remove {name : Text} {listener : Listener}
    (found : session.listeners.lookup name = some listener) (rest : List Registration) :
    session.registerAll (.remove name :: rest)
      = registerAll { session with attached := session.attached.erase name } rest := by
  rw [registerAll, List.foldl_cons, register]
  by_cases there : name ∈ session.attached
  · rw [detach_of_attached found there]
    rfl
  · rw [detach_of_not_attached found there, List.erase_of_not_mem there]
    rfl

/-- The listeners that are attached after several registrations are those that are left, in the
order in which they were added. -/
theorem registerAll_eq {registrations : List Registration}
    (known : ∀ registration ∈ registrations,
      (session.listeners.lookup registration.name).isSome) :
    session.registerAll registrations
      = { session with
          attached := Registration.keepLast
            (fun name => Registration.leftOf name (session.attached.count name) registrations)
            (session.attached ++ Registration.added registrations) } := by
  induction registrations generalizing session with
  | nil =>
      have all : ∀ name, (session.attached ++ Registration.added []).count name
          ≤ Registration.leftOf name (session.attached.count name) [] := by
        simp [Registration.added, Registration.leftOf]
      rw [Registration.keepLast_eq_self all]
      simp [Registration.added, registerAll]
  | cons registration rest inductionHypothesis =>
      obtain ⟨first, others⟩ := List.forall_mem_cons.1 known
      cases registration with
      | add name =>
          obtain ⟨listener, found⟩ : ∃ listener, session.listeners.lookup name = some listener :=
            Option.isSome_iff_exists.1 first
          have left : (fun other => Registration.leftOf other
                ((session.attached ++ [name]).count other) rest)
              = fun other => Registration.leftOf other (session.attached.count other)
                  (.add name :: rest) := by
            funext other
            rw [Registration.leftOf, List.count_append, List.count_singleton]
            by_cases same : name = other
            · simp [same]
            · simp [same]
          rw [registerAll_cons_add found, inductionHypothesis (by exact others), left,
            List.append_assoc, List.singleton_append]
          rfl
      | remove name =>
          obtain ⟨listener, found⟩ : ∃ listener, session.listeners.lookup name = some listener :=
            Option.isSome_iff_exists.1 first
          have left : (fun other => Registration.leftOf other
                ((session.attached.erase name).count other) rest)
              = fun other => Registration.leftOf other (session.attached.count other)
                  (.remove name :: rest) := by
            funext other
            rw [Registration.leftOf, List.count_erase]
            by_cases same : name = other
            · simp [same]
            · simp [same]
          have enough : Registration.leftOf name ((session.attached.erase name).count name) rest
              ≤ (session.attached.erase name ++ Registration.added rest).count name := by
            rw [List.count_append]
            exact Registration.leftOf_le _ _ _
          rw [registerAll_cons_remove found, inductionHypothesis (by exact others)]
          rw [Registration.keepLast_erase enough, left]
          rfl

/-- Every tree of groups serves its leaves in order, and a session serves as a group those
listeners that are left of all registrations, in the order in which they were added. -/
theorem groups_serve_leaves :
    (∀ tree : Listener, tree.ServesLeaves)
      ∧ ∀ (session : Session) (registrations : List Registration),
        (∀ registration ∈ registrations,
          (session.listeners.lookup registration.name).isSome) →
        let later := session.registerAll registrations
        later = { session with
            attached := Registration.keepLast
              (fun name => Registration.leftOf name (session.attached.count name) registrations)
              (session.attached ++ Registration.added registrations) }
          ∧ (later.attached.Nodup →
              (∀ call, (later.dispatch call).map toGroup = later.toGroup.receive call)
              ∧ (∀ calls, (later.dispatchAll calls).toGroup = later.toGroup.receiveAll calls)
              ∧ ∀ music,
                let parsed := later.parse music
                (⟨parsed.1.toGroup, parsed.2.1, parsed.2.2⟩ : Hearing)
                  = later.toGroup.hear (later.parser.run music))
          ∧ ∀ name, name ∉ later.attached →
            (∀ calls,
              (later.dispatchAll calls).listeners.lookup name = later.listeners.lookup name)
            ∧ ∀ music,
              (later.parse music).1.listeners.lookup name = later.listeners.lookup name := by
  refine ⟨Listener.servesLeaves, fun session registrations known => ?_⟩
  intro later
  refine ⟨registerAll_eq known, fun distinct => ⟨?_, ?_, ?_⟩, fun name absent => ⟨?_, ?_⟩⟩
  · exact toGroup_dispatch distinct
  · exact toGroup_dispatchAll distinct
  · exact parse_eq_hear distinct
  · exact lookup_dispatchAll_of_not_mem absent
  · exact fun music => lookup_follow_of_not_mem absent _

theorem groups_serve_leaves_sample :
    let tree : Listener :=
      .group [.collector [], .group [.builder .fresh, .group []], .collector [.layer 7]]
    let calls : List Call := [.start, .event (.track 2), .finish]
    let session : Session :=
      ⟨.usual {}, [("a".toText, tree), ("b".toText, .collector [])], ["a".toText]⟩
    let later := session.registerAll
      [.add "b".toText, .remove "a".toText, .remove "a".toText, .add "a".toText]
    (tree.receiveAll calls).leaves = tree.leaves.map (fun leaf => leaf.receiveAll calls)
      ∧ later.attached = ["b".toText, "a".toText]
      ∧ (later.dispatchAll calls).toGroup = later.toGroup.receiveAll calls := by
  intro tree calls session later
  have spared : ∀ call ∈ calls, call.interruption? = none := by
    simp only [calls, List.forall_mem_cons]
    exact ⟨rfl, rfl, rfl, List.forall_mem_nil _⟩
  obtain ⟨attached, serves, -⟩ := groups_serve_leaves.2 session
    [.add "b".toText, .remove "a".toText, .remove "a".toText, .add "a".toText] (by decide)
  have order : later.attached = ["b".toText, "a".toText] :=
    (congrArg Session.attached attached).trans (by decide)
  exact ⟨(groups_serve_leaves.1 tree).alone calls spared, order,
    (serves (by rw [show _ = _ from order]; decide)).2.1 calls⟩

end Session

end MusicText
