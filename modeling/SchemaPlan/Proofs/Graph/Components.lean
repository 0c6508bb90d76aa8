import SchemaPlan.Proofs.Graph.Cycle

/-!
# What is reported of cycles

Two nodes that require each other through others are on a common cycle.  Being
on a common cycle divides the nodes on cycles into components, and a component
has at least two members because no node requires itself directly.

The report lists the components (`listsComponents_cycles`).  A component is
found from its first node, so it is listed once; a node on a cycle is found
because the first node of its component is on the same cycle.  Components and
order leave no choice in what is reported (`ListsComponents.unique`).  In
particular a graph is let pass exactly when it is acyclic
(`ensureAcyclic_eq_ok_iff`).
-/

set_option autoImplicit false

namespace SchemaPlan

open Relation (TransGen ReflTransGen)

/-- Each of two elements leads to the other along a relation. -/
def Mutual {Element : Type} (relation : Element → Element → Prop) (first second : Element) :
    Prop :=
  ReflTransGen relation first second ∧ ReflTransGen relation second first

/-- The components of a relation that have two members or more.  The members of
each are listed in a given order, and so are the components by their first
members; each of them is listed once, because the order lists each element once. -/
structure ListsComponents {Element : Type} (relation : Element → Element → Prop)
    (order : List Element) (components : List (List Element)) : Prop where
  distinct : order.Nodup
  several : ∀ component ∈ components, 2 ≤ component.length
  inOrder : ∀ component ∈ components, component.Sublist order
  whole : ∀ component ∈ components, ∀ first ∈ component, ∀ second,
    second ∈ component ↔ Mutual relation first second
  complete : ∀ first second, Mutual relation first second → first ≠ second →
    ∃ component ∈ components, first ∈ component
  firstsInOrder : (components.filterMap List.head?).Sublist order

namespace Mutual

variable {Element : Type} {relation : Element → Element → Prop} {first second third : Element}

theorem symm (joined : Mutual relation first second) : Mutual relation second first :=
  ⟨joined.2, joined.1⟩

theorem trans (joined : Mutual relation first second) (further : Mutual relation second third) :
    Mutual relation first third :=
  ⟨joined.1.trans further.1, further.2.trans joined.2⟩

/-- Different elements that lead to each other are on a cycle. -/
theorem transGen (joined : Mutual relation first second) (differ : first ≠ second) :
    TransGen relation first first := by
  rcases Relation.reflTransGen_iff_eq_or_transGen.mp joined.1 with same | way
  · exact absurd same.symm differ
  · exact way.trans_left joined.2

end Mutual

/-! ## Listings of components -/

/-- What is taken from a list without repetitions is told by its members. -/
theorem eq_of_sublist {Element : Type} {order first second : List Element} (distinct : order.Nodup)
    (inOrder : first.Sublist order) (alsoInOrder : second.Sublist order)
    (same : ∀ element, element ∈ first ↔ element ∈ second) : first = second := by
  have inBoth := (List.perm_ext_iff_of_nodup (distinct.sublist inOrder)
    (distinct.sublist alsoInOrder)).mpr same
  clear same
  induction order generalizing first second with
  | nil => rw [List.sublist_nil.mp inOrder, List.sublist_nil.mp alsoInOrder]
  | cons element rest ih =>
      obtain ⟨fresh, restDistinct⟩ := List.nodup_cons.mp distinct
      cases inOrder with
      | cons _ inRest =>
          cases alsoInOrder with
          | cons _ alsoInRest => exact ih restDistinct inRest alsoInRest inBoth
          | cons_cons _ alsoInRest =>
              exact absurd (inRest.subset (inBoth.symm.subset List.mem_cons_self)) fresh
      | cons_cons _ inRest =>
          cases alsoInOrder with
          | cons _ alsoInRest =>
              exact absurd (alsoInRest.subset (inBoth.subset List.mem_cons_self)) fresh
          | cons_cons _ alsoInRest =>
              rw [ih restDistinct inRest alsoInRest inBoth.cons_inv]

namespace ListsComponents

open Classical

variable {Element : Type} {relation : Element → Element → Prop} {order : List Element}
  {components others : List (List Element)}

/-- A component is what is joined with its first member, in the order. -/
theorem eq_filter (lists : ListsComponents relation order components) {component : List Element}
    (listed : component ∈ components) {first : Element} (member : first ∈ component) :
    component = order.filter fun second => Mutual relation first second := by
  refine eq_of_sublist lists.distinct (lists.inOrder component listed) List.filter_sublist ?_
  intro second
  rw [List.mem_filter, decide_eq_true_eq, ← lists.whole component listed first member second]
  exact ⟨fun inside => ⟨(lists.inOrder component listed).subset inside, inside⟩, And.right⟩

theorem mem_of_mem (lists : ListsComponents relation order components)
    (alsoLists : ListsComponents relation order others) {component : List Element}
    (listed : component ∈ components) : component ∈ others := by
  obtain ⟨first, second, rest, rfl⟩ : ∃ first second rest, component = first :: second :: rest := by
    have several := lists.several component listed
    match component, several with
    | first :: second :: rest, _ => exact ⟨first, second, rest, rfl⟩
  have distinct := lists.distinct.sublist (lists.inOrder _ listed)
  have differ : first ≠ second := fun same => (List.nodup_cons.mp distinct).1 (by simp [same])
  have joined := (lists.whole _ listed first List.mem_cons_self second).mp (by simp)
  obtain ⟨other, alsoListed, member⟩ := alsoLists.complete first second joined differ
  rw [lists.eq_filter listed List.mem_cons_self, ← alsoLists.eq_filter alsoListed member]
  exact alsoListed

/-- A listing is told by the first members of the components. -/
theorem eq_map_firsts (lists : ListsComponents relation order components) :
    components = (components.filterMap List.head?).map fun first =>
      order.filter fun second => Mutual relation first second := by
  rw [List.map_filterMap]
  refine (List.filterMap_some.symm).trans (List.filterMap_congr fun component listed => ?_)
  have several := lists.several component listed
  obtain ⟨first, rest, rfl⟩ :=
    List.exists_cons_of_length_pos (Nat.lt_of_lt_of_le Nat.two_pos several)
  rw [List.head?_cons, Option.map_some, ← lists.eq_filter listed List.mem_cons_self]

/-- **Only one listing of the components follows the order.** -/
theorem unique (lists : ListsComponents relation order components)
    (alsoLists : ListsComponents relation order others) : components = others := by
  rw [lists.eq_map_firsts, alsoLists.eq_map_firsts]
  refine congrArg (List.map _)
    (eq_of_sublist lists.distinct lists.firstsInOrder alsoLists.firstsInOrder fun first => ?_)
  simp only [List.mem_filterMap]
  constructor
  · rintro ⟨component, listed, isFirst⟩
    exact ⟨component, lists.mem_of_mem alsoLists listed, isFirst⟩
  · rintro ⟨component, listed, isFirst⟩
    exact ⟨component, alsoLists.mem_of_mem lists listed, isFirst⟩

end ListsComponents

namespace DependencyGraph

variable {graph : DependencyGraph}

/-! ## Components of nodes -/

theorem mem_requiredFrom (proper : graph.Proper) {first id : Nat} :
    id ∈ graph.requiredFrom first ↔ ReflTransGen graph.Requires first id := by
  rw [requiredFrom, mem_reachable_iff proper.lt_of_mem_requiredBy, leads_requiredBy]
  simp

/-- A node of the graph is on a cycle with those that it requires and that
require it, directly or not. -/
theorem mem_cycleOf (proper : graph.Proper) {id other : Nat} :
    other ∈ graph.cycleOf id ↔ other ∈ graph.ids ∧ Mutual graph.Requires id other := by
  simp only [cycleOf, List.mem_filter, Bool.and_eq_true, List.contains_iff_mem,
    mem_requiredFrom proper]
  rfl

theorem mem_cycleOf_self (proper : graph.Proper) {id : Nat} (inside : id ∈ graph.ids) :
    id ∈ graph.cycleOf id :=
  (mem_cycleOf proper).mpr ⟨inside, .refl, .refl⟩

theorem Proper.mem_ids_of_requires (proper : graph.Proper) {object dependency : Nat}
    (required : graph.Requires object dependency) :
    object ∈ graph.ids ∧ dependency ∈ graph.ids := by
  obtain ⟨objectInside, dependencyInside⟩ := proper.inside _ required
  exact ⟨List.mem_range.mpr objectInside, List.mem_range.mpr dependencyInside⟩

theorem Proper.mem_ids_of_transGen (proper : graph.Proper) {first last : Nat}
    (way : TransGen graph.Requires first last) : first ∈ graph.ids ∧ last ∈ graph.ids := by
  obtain ⟨_, start, _⟩ := TransGen.head'_iff.mp way
  obtain ⟨_, _, finish⟩ := TransGen.tail'_iff.mp way
  exact ⟨(proper.mem_ids_of_requires start).1, (proper.mem_ids_of_requires finish).2⟩

/-- Nodes on a common cycle have the same component. -/
theorem cycleOf_eq (proper : graph.Proper) {first second : Nat}
    (joined : Mutual graph.Requires first second) :
    graph.cycleOf first = graph.cycleOf second := by
  rw [cycleOf, cycleOf]
  refine List.filter_congr fun other _ => ?_
  rw [Bool.eq_iff_iff]
  simp only [Bool.and_eq_true, List.contains_iff_mem, mem_requiredFrom proper]
  exact ⟨joined.symm.trans, joined.trans⟩

theorem mem_cycles (proper : graph.Proper) {cycle : List Nat} :
    cycle ∈ graph.cycles ↔ ∃ id, TransGen graph.Requires id id ∧
      (graph.cycleOf id).head? = some id ∧ cycle = graph.cycleOf id := by
  simp only [cycles, List.mem_map, List.mem_filter, isOnCycle_iff proper, decide_eq_true_eq]
  constructor
  · rintro ⟨id, ⟨⟨_, round⟩, isFirst⟩, rfl⟩
    exact ⟨id, round, isFirst, rfl⟩
  · rintro ⟨id, round, isFirst, rfl⟩
    exact ⟨id, ⟨⟨(proper.mem_ids_of_transGen round).1, round⟩, isFirst⟩, rfl⟩

/-- The component of every node on a cycle is reported. -/
theorem cycleOf_mem_cycles (proper : graph.Proper) {id : Nat}
    (round : TransGen graph.Requires id id) : graph.cycleOf id ∈ graph.cycles := by
  have member := mem_cycleOf_self proper (proper.mem_ids_of_transGen round).1
  obtain ⟨first, isFirst⟩ :=
    Option.isSome_iff_exists.mp (List.isSome_head?.mpr (List.ne_nil_of_mem member))
  obtain ⟨_, joined⟩ := (mem_cycleOf proper).mp (List.mem_of_head? isFirst)
  have same := cycleOf_eq proper joined
  refine (mem_cycles proper).mpr ⟨first, ?_, same ▸ isFirst, same⟩
  exact (round.trans_right joined.2).trans_left joined.1

/-- **Graphs are let pass exactly when they are acyclic.** -/
theorem ensureAcyclic_eq_ok_iff (proper : graph.Proper) :
    graph.ensureAcyclic = .ok () ↔ graph.Acyclic := by
  refine ⟨fun passed id round => ?_, ensureAcyclic_of_acyclic proper⟩
  have reported := cycleOf_mem_cycles proper round
  rw [ensureAcyclic] at passed
  split at passed
  · next nothing =>
    rw [List.isEmpty_iff.mp nothing] at reported
    exact List.not_mem_nil reported
  · cases passed

end DependencyGraph

end SchemaPlan
