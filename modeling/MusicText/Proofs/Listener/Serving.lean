import MusicText.Proofs.Listener.Pairing

/-!
Contract: groups of listeners, nested in any way.

Owns: the leaves of a group from left to right, the order in which they are served, what becomes
of each, and the agreement of a nested group with the flat one.

Does not own: groups whose members come and go; see `MusicText.Proofs.Listener.Registration`.

A group has no means of its own against an interruption. A builder that a call interrupts lets
the interruption out, and the leaves behind it do not receive this call. Which calls interrupt
does not depend on the builder, so the first one of a group decides for all of them.
-/

namespace MusicText

namespace Reaction

variable {State Other Third : Type}

theorem map_map (change : State → Other) (further : Other → Third) (reaction : Reaction State) :
    (reaction.map change).map further = reaction.map (further ∘ change) :=
  rfl

theorem after_after (early late : List Remark) (reaction : Reaction State) :
    (reaction.after late).after early = reaction.after (early ++ late) := by
  simp [after]

theorem map_after (change : State → Other) (earlier : List Remark) (reaction : Reaction State) :
    (reaction.after earlier).map change = (reaction.map change).after earlier :=
  rfl

theorem andThen_of_uninterrupted {reaction : Reaction State} (later : State → Reaction State)
    (quiet : reaction.interruption = none) :
    reaction.andThen later = (later reaction.next).after reaction.remarks := by
  simp only [andThen, quiet]

theorem andThen_assoc (reaction : Reaction State) (later last : State → Reaction State) :
    (reaction.andThen later).andThen last
      = reaction.andThen fun next => (later next).andThen last := by
  cases interrupted : reaction.interruption with
  | some fault => simp only [andThen_of_interrupted interrupted]
  | none =>
      simp only [andThen_of_uninterrupted _ interrupted]
      cases again : (later reaction.next).interruption with
      | some fault =>
          rw [andThen_of_interrupted again, andThen_of_interrupted (by exact again)]
      | none =>
          rw [andThen_of_uninterrupted _ again, andThen_of_uninterrupted _ (by exact again),
            after_after]
          rfl

/-- A view of a reaction that goes on, if both go on alike. -/
theorem map_andThen {change : State → Other} {reaction : Reaction State}
    {later : State → Reaction State} {laterOther : Other → Reaction Other}
    (same : reaction.interruption = none →
      (later reaction.next).map change = laterOther (change reaction.next)) :
    (reaction.andThen later).map change = (reaction.map change).andThen laterOther := by
  cases interrupted : reaction.interruption with
  | some fault =>
      rw [andThen_of_interrupted interrupted, andThen_of_interrupted (by exact interrupted)]
  | none =>
      rw [andThen_of_uninterrupted _ interrupted, andThen_of_uninterrupted _ (by exact interrupted),
        map_after, same interrupted]
      rfl

end Reaction

/-- The fault with which a call interrupts a builder. -/
def Call.interruption? (call : Call) : Option ArithmeticFault :=
  call.event?.bind Event.interruption?

namespace Listener

/-! ### Leaves -/

mutual

/-- The listeners of a tree of groups that are no groups, from left to right. -/
def leaves : Listener → List Listener
  | .silent => [.silent]
  | .collector events => [.collector events]
  | .recorder calls => [.recorder calls]
  | .builder state => [.builder state]
  | .group members => leavesEach members

def leavesEach : List Listener → List Listener
  | [] => []
  | member :: rest => leaves member ++ leavesEach rest

end

def isGroup : Listener → Bool
  | .group _ => true
  | _ => false

def isBuilder : Listener → Bool
  | .builder _ => true
  | _ => false

mutual

theorem isGroup_of_mem_leaves {leaf : Listener} : ∀ {tree : Listener}, leaf ∈ tree.leaves →
    leaf.isGroup = false
  | .silent, member => by rw [List.mem_singleton.1 member]; rfl
  | .collector _, member => by rw [List.mem_singleton.1 member]; rfl
  | .recorder _, member => by rw [List.mem_singleton.1 member]; rfl
  | .builder _, member => by rw [List.mem_singleton.1 member]; rfl
  | .group _, member => isGroup_of_mem_leavesEach member

theorem isGroup_of_mem_leavesEach {leaf : Listener} : ∀ {members : List Listener},
    leaf ∈ leavesEach members → leaf.isGroup = false
  | [], member => by cases member
  | _ :: _, member => by
      rw [leavesEach, List.mem_append] at member
      rcases member with first | others
      · exact isGroup_of_mem_leaves first
      · exact isGroup_of_mem_leavesEach others

end

theorem leavesEach_eq_self {members : List Listener}
    (flat : ∀ member ∈ members, member.isGroup = false) : leavesEach members = members := by
  induction members with
  | nil => rfl
  | cons member rest inductionHypothesis =>
      obtain ⟨single, others⟩ := List.forall_mem_cons.1 flat
      rw [leavesEach, inductionHypothesis others]
      cases member with
      | silent | collector | recorder | builder => rfl
      | group members => cases single

/-- A flat group of leaves has these leaves. -/
theorem leaves_group_leaves (tree : Listener) : (group tree.leaves).leaves = tree.leaves :=
  leavesEach_eq_self fun _ member => isGroup_of_mem_leaves member

/-! ### One call -/

variable {call : Call} {tree leaf : Listener}

section

variable {member : Listener} {fault : ArithmeticFault}

theorem receiveEach_cons_of_interrupted
    (interrupted : (receive call member).interruption = some fault) (rest : List Listener) :
    receiveEach call (member :: rest) = (receive call member).map (· :: rest) := by
  simp only [receiveEach, interrupted]

theorem receiveEach_cons_of_uninterrupted (quiet : (receive call member).interruption = none)
    (rest : List Listener) :
    receiveEach call (member :: rest)
      = ((receiveEach call rest).map ((receive call member).next :: ·)).after
          (receive call member).remarks := by
  simp only [receiveEach, quiet]

end

theorem receiveEach_append (call : Call) (early late : List Listener) :
    receiveEach call (early ++ late) =
      match (receiveEach call early).interruption with
      | some _ => (receiveEach call early).map (· ++ late)
      | none => ((receiveEach call late).map ((receiveEach call early).next ++ ·)).after
          (receiveEach call early).remarks := by
  induction early with
  | nil => rfl
  | cons member rest inductionHypothesis =>
      rw [List.cons_append]
      cases interrupted : (receive call member).interruption with
      | some fault =>
          simp only [receiveEach_cons_of_interrupted interrupted, Reaction.map, interrupted,
            List.cons_append]
      | none =>
          simp only [receiveEach_cons_of_uninterrupted interrupted, inductionHypothesis,
            Reaction.map, Reaction.after]
          cases (receiveEach call rest).interruption with
          | some fault => rfl
          | none => simp only [List.cons_append, List.append_assoc]

mutual

/-- A tree makes of a call what its leaves make of it, one after the other. -/
theorem leaves_receive (call : Call) : ∀ tree : Listener,
    (receive call tree).map leaves = receiveEach call tree.leaves
  | .silent => rfl
  | .collector _ => rfl
  | .recorder _ => rfl
  | .builder state => by
      simp only [receive, leaves, receiveEach]
      cases interrupted : ((state.receive call).map builder).interruption with
      | some fault => rfl
      | none => simp [Reaction.map, Reaction.after, Reaction.quiet, leaves, ← interrupted]
  | .group members => leavesEach_receiveEach call members

theorem leavesEach_receiveEach (call : Call) : ∀ members : List Listener,
    (receiveEach call members).map leavesEach = receiveEach call (leavesEach members)
  | [] => rfl
  | member :: rest => by
      rw [leavesEach, receiveEach_append, ← leaves_receive call member,
        ← leavesEach_receiveEach call rest]
      simp only [receiveEach, Reaction.map]
      cases (receive call member).interruption with
      | some fault => rfl
      | none => rfl

end
/-! ### The order in which leaves are served -/

/-- Hands a call to the leaf at a place. -/
def deliver (place : Nat) (call : Call) (listeners : List Listener) : Reaction (List Listener) :=
  match listeners[place]? with
  | some leaf => (receive call leaf).map (listeners.set place ·)
  | none => .quiet listeners

/-- Makes deliveries one after the other, until one is interrupted. -/
def deliverAll : List (Nat × Call) → List Listener → Reaction (List Listener)
  | [], listeners => .quiet listeners
  | (place, call) :: rest, listeners => (deliver place call listeners).andThen (deliverAll rest)

/-- One delivery of a call to each of some places, from left to right. -/
def round (count : Nat) (call : Call) : List (Nat × Call) :=
  (List.range count).map (·, call)

/-- A round for each call, one after the other. -/
def rounds (count : Nat) (calls : List Call) : List (Nat × Call) :=
  calls.flatMap (round count)

theorem deliverAll_append (early late : List (Nat × Call)) (listeners : List Listener) :
    deliverAll (early ++ late) listeners
      = (deliverAll early listeners).andThen (deliverAll late) := by
  induction early generalizing listeners with
  | nil => exact (Reaction.andThen_quiet _ _).symm
  | cons delivery rest inductionHypothesis =>
      obtain ⟨place, call⟩ := delivery
      rw [List.cons_append, deliverAll, deliverAll, Reaction.andThen_assoc]
      congr 1
      funext next
      exact inductionHypothesis next

theorem deliver_behind (done : List Listener) (member : Listener) (rest : List Listener)
    (call : Call) :
    deliver done.length call (done ++ member :: rest)
      = (receive call member).map (done ++ · :: rest) := by
  simp [deliver]

/-- The members of a group behind those that have been served are served next. -/
theorem receiveEach_behind (call : Call) (done rest : List Listener) :
    deliverAll ((List.range' done.length rest.length).map (·, call)) (done ++ rest)
      = (receiveEach call rest).map (done ++ ·) := by
  induction rest generalizing done with
  | nil => rfl
  | cons member rest inductionHypothesis =>
      rw [List.length_cons, List.range'_succ, List.map_cons, deliverAll, deliver_behind]
      cases interrupted : (receive call member).interruption with
      | some fault =>
          rw [Reaction.andThen_of_interrupted (by exact interrupted),
            receiveEach_cons_of_interrupted interrupted, Reaction.map_map]
          rfl
      | none =>
          have further := inductionHypothesis (done ++ [(receive call member).next])
          simp only [List.length_append, List.length_singleton, List.append_assoc,
            List.singleton_append] at further
          rw [Reaction.andThen_of_uninterrupted _ (by exact interrupted),
            receiveEach_cons_of_uninterrupted interrupted, Reaction.map_after, Reaction.map_map]
          exact congrArg _ further

theorem receiveEach_eq_deliverAll (call : Call) (listeners : List Listener) :
    receiveEach call listeners = deliverAll (round listeners.length call) listeners := by
  rw [round, List.range_eq_range']
  exact (receiveEach_behind call [] listeners).symm

@[simp]
theorem length_receiveEach (call : Call) (listeners : List Listener) :
    (receiveEach call listeners).next.length = listeners.length := by
  induction listeners with
  | nil => rfl
  | cons member rest inductionHypothesis =>
      cases interrupted : (receive call member).interruption with
      | some fault => simp [receiveEach_cons_of_interrupted interrupted, Reaction.map]
      | none =>
          simp [receiveEach_cons_of_uninterrupted interrupted, Reaction.map, Reaction.after,
            inductionHypothesis]

theorem leaves_next_receive (call : Call) (tree : Listener) :
    (receive call tree).next.leaves = (receiveEach call tree.leaves).next :=
  congrArg Reaction.next (leaves_receive call tree)

/-- Calls that are made until one is interrupted serve the leaves round by round. -/
theorem leaves_follow_calls (calls : List Call) (tree : Listener) :
    (tree.follow (calls.map .call)).map leaves
      = deliverAll (rounds tree.leaves.length calls) tree.leaves := by
  induction calls generalizing tree with
  | nil => rfl
  | cons call rest inductionHypothesis =>
      rw [List.map_cons, follow, rounds, List.flatMap_cons, deliverAll_append,
        ← receiveEach_eq_deliverAll, ← leaves_receive]
      apply Reaction.map_andThen
      intro quiet
      rw [inductionHypothesis, leaves_next_receive, length_receiveEach]
      rfl

/-- A tree follows a parse as the flat group of its leaves does. -/
theorem leaves_follow (notices : List Notice) (tree : Listener) :
    (tree.follow notices).map leaves = ((group tree.leaves).follow notices).map leaves := by
  induction notices generalizing tree with
  | nil => exact congrArg Reaction.quiet (leaves_group_leaves tree).symm
  | cons notice rest inductionHypothesis =>
      cases notice with
      | remark content =>
          rw [follow, follow, Reaction.map_after, Reaction.map_after, inductionHypothesis]
      | call content =>
          have step : ∀ any : Listener, (any.follow (.call content :: rest)).map leaves
              = (receiveEach content any.leaves).andThen
                  fun next => ((group next).follow rest).map leaves := by
            intro any
            rw [follow, ← leaves_receive]
            apply Reaction.map_andThen
            intro quiet
            exact inductionHypothesis _
          rw [step, step, leaves_group_leaves]

theorem leaves_receiveAll (calls : List Call) (tree : Listener) :
    (tree.receiveAll calls).leaves
      = calls.foldl (fun listeners call => (receiveEach call listeners).next) tree.leaves := by
  induction calls generalizing tree with
  | nil => rfl
  | cons call rest inductionHypothesis =>
      rw [List.foldl_cons, ← leaves_next_receive]
      exact inductionHypothesis _

/-! ### What becomes of each leaf -/

/-- Whether a call gets past the listeners in front. -/
def reaches (earlier : List Listener) (call : Call) : Bool :=
  call.interruption?.isNone || !earlier.any isBuilder

theorem interruption_receive_leaf (call : Call) (single : leaf.isGroup = false) :
    (receive call leaf).interruption
      = if leaf.isBuilder then call.interruption? else none := by
  cases leaf with
  | silent | collector | recorder => rfl
  | group members => cases single
  | builder state =>
      cases call with
      | start | finish => rfl
      | event happening => exact state.interruption_receiveEvent happening

theorem isBuilder_next_receive (call : Call) (listener : Listener) :
    (receive call listener).next.isBuilder = listener.isBuilder := by
  cases listener <;> rfl

theorem reaches_cons_of_interrupted {member : Listener} {fault : ArithmeticFault}
    (single : member.isGroup = false)
    (interrupted : (receive call member).interruption = some fault) (earlier : List Listener) :
    reaches (member :: earlier) call = false := by
  rw [interruption_receive_leaf call single] at interrupted
  by_cases building : member.isBuilder
  · rw [if_pos building] at interrupted
    simp [reaches, building, interrupted]
  · simp [building] at interrupted

theorem reaches_cons_of_uninterrupted {member : Listener} (single : member.isGroup = false)
    (quiet : (receive call member).interruption = none) (earlier : List Listener) :
    reaches (member :: earlier) call = reaches earlier call := by
  rw [interruption_receive_leaf call single] at quiet
  by_cases building : member.isBuilder
  · rw [if_pos building] at quiet
    simp [reaches, quiet]
  · simp [reaches, building]

/-- A leaf receives a call exactly if it gets past the leaves in front. -/
theorem getElem?_receiveEach (call : Call) {listeners : List Listener} {place : Nat}
    (flat : ∀ member ∈ listeners, member.isGroup = false)
    (there : listeners[place]? = some leaf) :
    (receiveEach call listeners).next[place]?
      = some (if reaches (listeners.take place) call then (receive call leaf).next else leaf) := by
  induction listeners generalizing place with
  | nil => simp at there
  | cons member rest inductionHypothesis =>
      obtain ⟨single, others⟩ := List.forall_mem_cons.1 flat
      cases interrupted : (receive call member).interruption with
      | some fault =>
          rw [receiveEach_cons_of_interrupted interrupted]
          cases place with
          | zero =>
              obtain rfl : member = leaf := by simpa using there
              simp [Reaction.map, reaches]
          | succ place =>
              rw [List.take_succ_cons, reaches_cons_of_interrupted single interrupted]
              exact there
      | none =>
          rw [receiveEach_cons_of_uninterrupted interrupted]
          cases place with
          | zero =>
              obtain rfl : member = leaf := by simpa using there
              simp [Reaction.map, Reaction.after, reaches]
          | succ place =>
              rw [List.take_succ_cons, reaches_cons_of_uninterrupted single interrupted]
              exact inductionHypothesis others there

theorem map_isBuilder_receiveEach (call : Call) (listeners : List Listener) :
    (receiveEach call listeners).next.map isBuilder = listeners.map isBuilder := by
  induction listeners with
  | nil => rfl
  | cons member rest inductionHypothesis =>
      cases interrupted : (receive call member).interruption with
      | some fault =>
          simp [receiveEach_cons_of_interrupted interrupted, Reaction.map, isBuilder_next_receive]
      | none =>
          simp [receiveEach_cons_of_uninterrupted interrupted, Reaction.map, Reaction.after,
            isBuilder_next_receive, inductionHypothesis]

theorem any_isBuilder_congr {listeners others : List Listener}
    (same : listeners.map isBuilder = others.map isBuilder) :
    listeners.any isBuilder = others.any isBuilder := by
  have both := congrArg (List.any · id) same
  simpa only [List.any_map, Function.id_comp] using both

theorem reaches_congr {earlier other : List Listener}
    (same : earlier.map isBuilder = other.map isBuilder) : reaches earlier = reaches other := by
  funext call
  rw [reaches, reaches, any_isBuilder_congr same]

/-- In a sequence of calls, a leaf becomes what the calls make of it that get past the leaves in
front. -/
theorem getElem?_leaves_receiveAll (calls : List Call) {place : Nat}
    (there : tree.leaves[place]? = some leaf) :
    (tree.receiveAll calls).leaves[place]?
      = some (leaf.receiveAll (calls.filter (reaches (tree.leaves.take place)))) := by
  induction calls generalizing tree leaf with
  | nil => exact there
  | cons call rest inductionHypothesis =>
      have served := getElem?_receiveEach call
        (fun _ member => isGroup_of_mem_leaves member) there
      rw [← leaves_next_receive] at served
      -- A call makes no builder of another listener, so it does not change what gets past.
      have front : reaches ((receive call tree).next.leaves.take place)
          = reaches (tree.leaves.take place) := by
        apply reaches_congr
        rw [leaves_next_receive, List.map_take, List.map_take, map_isBuilder_receiveEach]
      have further := inductionHypothesis served
      rw [front] at further
      rw [show tree.receiveAll (call :: rest) = (receive call tree).next.receiveAll rest from rfl,
        further, List.filter_cons]
      split
      · rfl
      · rfl

theorem length_leaves_receiveAll (calls : List Call) (tree : Listener) :
    (tree.receiveAll calls).leaves.length = tree.leaves.length := by
  induction calls generalizing tree with
  | nil => rfl
  | cons call rest inductionHypothesis =>
      have next := inductionHypothesis (receive call tree).next
      rw [leaves_next_receive, length_receiveEach] at next
      exact next

/-- Calls that interrupt no builder reach all leaves. -/
theorem leaves_receiveAll_of_spared {calls : List Call}
    (spared : ∀ call ∈ calls, call.interruption? = none) (tree : Listener) :
    (tree.receiveAll calls).leaves = tree.leaves.map fun leaf => leaf.receiveAll calls := by
  apply List.ext_getElem?
  intro place
  rw [List.getElem?_map]
  cases there : tree.leaves[place]? with
  | some leaf =>
      have all : calls.filter (reaches (tree.leaves.take place)) = calls := by
        rw [List.filter_eq_self]
        intro call member
        simp [reaches, spared call member]
      rw [getElem?_leaves_receiveAll calls there, all]
      rfl
  | none =>
      rw [List.getElem?_eq_none_iff] at there
      rw [List.getElem?_eq_none (by rw [length_leaves_receiveAll]; exact there)]
      rfl

/-! ### Parses -/

/-- The calls of a parse that are made for some listeners. A call that interrupts a builder among
them is the last one. -/
def heard (listeners : List Listener) (calls : List Call) : List Call :=
  if listeners.any isBuilder then
    calls.take (calls.findIdx (fun call => call.interruption?.isSome) + 1)
  else calls

/-- The fault with which some listeners end a parse that makes these calls. -/
def interruptionOf (listeners : List Listener) (calls : List Call) : Option ArithmeticFault :=
  if listeners.any isBuilder then calls.findSome? Call.interruption? else none

theorem interruption_receiveEach (call : Call) {listeners : List Listener}
    (flat : ∀ member ∈ listeners, member.isGroup = false) :
    (receiveEach call listeners).interruption
      = if listeners.any isBuilder then call.interruption? else none := by
  induction listeners with
  | nil => rfl
  | cons member rest inductionHypothesis =>
      obtain ⟨single, others⟩ := List.forall_mem_cons.1 flat
      have own := interruption_receive_leaf call single
      have behind := inductionHypothesis others
      by_cases building : member.isBuilder
      · rw [if_pos building] at own
        cases interrupted : call.interruption? with
        | some fault =>
            rw [receiveEach_cons_of_interrupted (own.trans interrupted)]
            simp [Reaction.map, own, interrupted, building]
        | none =>
            rw [receiveEach_cons_of_uninterrupted (own.trans interrupted)]
            simp [Reaction.map, Reaction.after, behind, interrupted]
      · rw [if_neg building] at own
        rw [receiveEach_cons_of_uninterrupted own]
        simp [Reaction.map, Reaction.after, behind, building]

theorem interruption_receive (call : Call) (tree : Listener) :
    (receive call tree).interruption
      = if tree.leaves.any isBuilder then call.interruption? else none :=
  (congrArg Reaction.interruption (leaves_receive call tree)).trans
    (interruption_receiveEach call fun _ member => isGroup_of_mem_leaves member)

theorem any_isBuilder_next_receive (call : Call) (tree : Listener) :
    (receive call tree).next.leaves.any isBuilder = tree.leaves.any isBuilder := by
  rw [leaves_next_receive]
  exact any_isBuilder_congr (map_isBuilder_receiveEach call tree.leaves)

/-- A tree goes through the calls of a parse as far as they are made for its leaves. -/
theorem follow_map_call (calls : List Call) (tree : Listener) :
    (tree.follow (calls.map .call)).next = tree.receiveAll (heard tree.leaves calls)
      ∧ (tree.follow (calls.map .call)).interruption = interruptionOf tree.leaves calls := by
  induction calls generalizing tree with
  | nil => simp [heard, interruptionOf, follow, receiveAll, Reaction.quiet]
  | cons call rest inductionHypothesis =>
      have own := interruption_receive call tree
      have kept := any_isBuilder_next_receive call tree
      rw [List.map_cons, follow]
      by_cases building : tree.leaves.any isBuilder
      · rw [if_pos building] at own
        cases interrupted : call.interruption? with
        | some fault =>
            rw [Reaction.andThen_of_interrupted (own.trans interrupted)]
            simp [heard, interruptionOf, building, interrupted, own, List.findIdx_cons, receiveAll]
        | none =>
            obtain ⟨next, ending⟩ := inductionHypothesis (receive call tree).next
            rw [Reaction.andThen_of_uninterrupted _ (own.trans interrupted)]
            simp only [heard, interruptionOf, kept, building] at next ending ⊢
            simp [next, ending, interrupted, List.findIdx_cons, receiveAll, Reaction.after]
      · rw [if_neg building] at own
        obtain ⟨next, ending⟩ := inductionHypothesis (receive call tree).next
        rw [Reaction.andThen_of_uninterrupted _ own]
        simp only [heard, interruptionOf, kept, building] at next ending ⊢
        exact ⟨next, ending⟩

theorem listener_hear (tree : Listener) (run : Run) :
    (tree.hear run).listener = tree.receiveAll (heard tree.leaves run.calls) :=
  (follow_calls tree run).1.trans (follow_map_call run.calls tree).1

theorem result_hear (tree : Listener) (run : Run) :
    (tree.hear run).result = run.resultWith (interruptionOf tree.leaves run.calls) := by
  rw [hear, (follow_calls tree run).2, (follow_map_call run.calls tree).2]

section

variable {calls : List Call} (spared : ∀ call ∈ calls, call.interruption? = none)

include spared

theorem heard_of_spared (listeners : List Listener) : heard listeners calls = calls := by
  have none_found : calls.findIdx (fun call => call.interruption?.isSome) = calls.length :=
    List.findIdx_eq_length.2 fun call member => by simp [spared call member]
  unfold heard
  split
  · rw [none_found, List.take_of_length_le (Nat.le_succ _)]
  · rfl

theorem interruptionOf_of_spared (listeners : List Listener) :
    interruptionOf listeners calls = none := by
  unfold interruptionOf
  rw [List.findSome?_eq_none_iff.2 spared, ite_self]

end

/-- A parse whose calls interrupt no builder is heard by every leaf as if it were alone. -/
theorem hear_of_spared {run : Run} (spared : ∀ call ∈ run.calls, call.interruption? = none)
    (tree : Listener) :
    (tree.hear run).listener.leaves = tree.leaves.map (fun leaf => (leaf.hear run).listener)
      ∧ (tree.hear run).result = run.result := by
  simp only [listener_hear, heard_of_spared spared, leaves_receiveAll_of_spared spared,
    result_hear, interruptionOf_of_spared spared, Run.resultWith, and_self]

/-! ### Trees -/

/-- How a tree of groups serves its leaves. -/
structure ServesLeaves (tree : Listener) : Prop where
  /-- A call is delivered once to every leaf, from left to right. -/
  once : ∀ call, (receive call tree).map leaves
    = deliverAll (round tree.leaves.length call) tree.leaves
  /-- All leaves are served with a call before the next one. -/
  inRounds : ∀ calls : List Call, (tree.follow (calls.map .call)).map leaves
    = deliverAll (rounds tree.leaves.length calls) tree.leaves
  /-- A leaf becomes what it would become alone by the calls that get past those in front. -/
  leaf : ∀ (calls : List Call) (place : Nat) (leaf : Listener), tree.leaves[place]? = some leaf →
    (tree.receiveAll calls).leaves[place]?
      = some (leaf.receiveAll (calls.filter (reaches (tree.leaves.take place))))
  /-- Calls that interrupt no builder get to all leaves. -/
  alone : ∀ calls : List Call, (∀ call ∈ calls, call.interruption? = none) →
    (tree.receiveAll calls).leaves = tree.leaves.map fun leaf => leaf.receiveAll calls
  /-- A parse is heard up to the first call that interrupts a builder, and ends there. -/
  heard : ∀ run : Run, (tree.hear run).listener = tree.receiveAll (heard tree.leaves run.calls)
    ∧ (tree.hear run).result = run.resultWith (interruptionOf tree.leaves run.calls)
  /-- A parse that interrupts no builder is heard by all leaves. -/
  heardAlone : ∀ run : Run, (∀ call ∈ run.calls, call.interruption? = none) →
    (tree.hear run).listener.leaves = tree.leaves.map (fun leaf => (leaf.hear run).listener)
      ∧ (tree.hear run).result = run.result
  /-- It makes no difference how the leaves are grouped. -/
  flat : (∀ calls, (tree.receiveAll calls).leaves = ((group tree.leaves).receiveAll calls).leaves)
    ∧ ∀ notices, (tree.follow notices).map leaves
      = ((group tree.leaves).follow notices).map leaves

theorem servesLeaves (tree : Listener) : tree.ServesLeaves where
  once call := (leaves_receive call tree).trans (receiveEach_eq_deliverAll call tree.leaves)
  inRounds calls := leaves_follow_calls calls tree
  leaf calls _ _ there := getElem?_leaves_receiveAll calls there
  alone _ spared := leaves_receiveAll_of_spared spared tree
  heard run := ⟨listener_hear tree run, result_hear tree run⟩
  heardAlone _ spared := hear_of_spared spared tree
  flat := by
    refine ⟨fun calls => ?_, fun notices => leaves_follow notices tree⟩
    rw [leaves_receiveAll, leaves_receiveAll, leaves_group_leaves]

/-- A collector behind a builder does not receive a meter whose length cannot be computed. -/
theorem not_forall_leaves_alone :
    ¬ ∀ (tree : Listener) (calls : List Call),
      (tree.receiveAll calls).leaves = tree.leaves.map fun leaf => leaf.receiveAll calls := by
  intro alone
  have same : [Listener.builder .fresh, .collector []]
      = [.builder .fresh, .collector [.meter 3 0]] :=
    alone (.group [.builder .fresh, .collector []]) [.event (.meter 3 0)]
  simp at same

end Listener

end MusicText
