import SchemaPlan.Proofs.Delivery.Classification
import SchemaPlan.Proofs.Graph.Cycle
import SchemaPlan.Proofs.Schedule.Completeness

/-!
# Inheriting the delivery in any order

The delivered nodes are found level by level.  They may as well be found in one
pass over all nodes, in any order in which dependents come before what they
require: a node that is delivered when its turn comes hands the delivery down to
what it requires and what inherits.

When the turn of a node comes, all nodes that require it have had theirs, so the
node is delivered by then if it ever is.  This is the invariant of the pass
(`Passed`): the nodes promoted so far are those that inherit from a delivered
node that has had its turn.  So the pass ends with the same graph whatever the
order is, and counts each promoted node once (`handDownAll_eq`).

An acyclic graph has such an order (`Acyclic.exists_order`): the order of rolling
back, were there no placeholders.
-/

set_option autoImplicit false

namespace SchemaPlan.DependencyGraph

variable {graph : DependencyGraph} {selection : Selection}

/-- A node is delivered because it was to be anyway, or because it inherits from a
delivered node that requires it. -/
theorem mem_delivered_iff (proper : graph.Proper) {id : Nat} :
    id ∈ graph.delivered selection ↔ graph.hasStatus .install id = true ∨
      graph.inherits selection id = true ∧
        ∃ source, source ∈ graph.delivered selection ∧ graph.Requires source id := by
  constructor
  · intro delivered
    obtain ⟨first, installed, steps⟩ := (mem_delivered proper).mp delivered
    cases steps with
    | refl => exact .inl installed
    | @tail source _ way last =>
        obtain ⟨required, inherits⟩ := List.mem_filter.mp last
        exact .inr ⟨inherits, source, (mem_delivered proper).mpr ⟨first, installed, way⟩,
          mem_requiredBy.mp required⟩
  · rintro (installed | ⟨inherits, source, delivered, required⟩)
    · exact (mem_delivered proper).mpr ⟨id, installed, .refl⟩
    · exact mem_delivered_of_requires proper delivered required inherits

/-! ## Orders of all nodes -/

/-- All nodes in an order in which dependents come before what they require. -/
structure Arranges (graph : DependencyGraph) (order : List Nat) : Prop where
  lists : order.Perm graph.ids
  dependentsFirst : ∀ before id after, order = before ++ id :: after →
    ∀ object, graph.Requires object id → object ∈ before

/-- The graph with all placeholders made real. -/
def unmasked (graph : DependencyGraph) : DependencyGraph :=
  { graph with nodes := graph.nodes.map fun node => { node with isPlaceholder := false } }

theorem isScheduled_unmasked {id : Nat} :
    graph.unmasked.isScheduled id = true ↔ id < graph.nodes.length := by
  rw [isScheduled, node?, unmasked, List.getElem?_map, Option.any_map]
  rcases Nat.lt_or_ge id graph.nodes.length with inside | outside
  · simp [inside]
  · simp [Nat.not_lt.mpr outside]

theorem Proper.unmasked (proper : graph.Proper) : graph.unmasked.Proper where
  keysDistinct := by
    rw [keys, DependencyGraph.unmasked, List.map_map]
    exact proper.keysDistinct
  inside pair member := by
    rw [DependencyGraph.unmasked, List.length_map]
    exact proper.inside pair member
  endsDiffer := proper.endsDiffer
  once := proper.once

/-- **An acyclic graph can be arranged.** -/
theorem Acyclic.exists_order (proper : graph.Proper) (acyclic : graph.Acyclic) :
    ∃ order, graph.Arranges order := by
  have unmasked := proper.unmasked
  have frontier := frontier_rollbackOrder_nil unmasked
  have free : ∀ id, ¬ BehindCycle graph.unmasked.Orders id := by
    rintro id ⟨first, round, _⟩
    exact acyclic first (Relation.TransGen.mono (fun _ _ orders => orders.1) first first round)
  refine ⟨graph.unmasked.rollbackOrder, ?_, ?_⟩
  · refine (List.perm_ext_iff_of_nodup frontier.takenDistinct List.nodup_range).mpr fun id => ?_
    rw [mem_rollbackOrder_iff unmasked, isScheduled_unmasked]
    refine Iff.trans ?_ List.mem_range.symm
    exact and_iff_left (free id)
  · intro before id after split object required
    exact frontier.dependentsFirst before id after split object required
      (isScheduled_unmasked.mpr (proper.inside (object, id) required).1)

/-! ## The pass -/

/-- Delivers a node if it inherits, and counts it. -/
def handDown (selection : Selection) (pass : DependencyGraph × Nat) (target : Nat) :
    DependencyGraph × Nat :=
  if pass.1.inherits selection target then (pass.1.setStatus target .install, pass.2 + 1)
  else pass

/-- Hands the delivery of a node down to what it requires, if it is delivered. -/
def handDownFrom (selection : Selection) (pass : DependencyGraph × Nat) (source : Nat) :
    DependencyGraph × Nat :=
  if pass.1.hasStatus .install source then
    (pass.1.requiredBy source).foldl (handDown selection) pass
  else pass

/-- The graph after the nodes have had their turns in an order, and the number of
nodes that have inherited. -/
def handDownAll (graph : DependencyGraph) (selection : Selection) (order : List Nat) :
    DependencyGraph × Nat :=
  order.foldl (handDownFrom selection) (graph, 0)

/-! ## Promoted nodes -/

/-- The graph in which the listed nodes are delivered. -/
def raise (graph : DependencyGraph) (promoted : List Nat) : DependencyGraph :=
  graph.assignStatuses fun id node => if promoted.contains id then .install else node.status

theorem node?_raise {promoted : List Nat} {id : Nat} :
    (graph.raise promoted).node? id = (graph.node? id).map fun node =>
      { node with status := if promoted.contains id then .install else node.status } :=
  node?_assignStatuses

/-- Graphs with the same requirements and the same nodes are the same. -/
theorem eq_of_node?_eq {first second : DependencyGraph} (requires : first.requires = second.requires)
    (nodes : ∀ id, first.node? id = second.node? id) : first = second := by
  cases first
  cases second
  rw [DependencyGraph.mk.injEq]
  exact ⟨List.ext_getElem? nodes, requires⟩

/-- Nodes that are delivered anyway may be listed or not. -/
theorem raise_congr {first second : List Nat} (same : ∀ id, graph.hasStatus .install id = true ∨
    (id ∈ first ↔ id ∈ second)) : graph.raise first = graph.raise second := by
  refine eq_of_node?_eq rfl fun id => ?_
  rw [node?_raise, node?_raise]
  refine Option.map_congr fun node found => ?_
  rcases same id with installed | alike
  · obtain ⟨other, alsoFound, isInstall⟩ := hasStatus_iff.mp installed
    obtain rfl := Option.some.inj (found.symm.trans alsoFound)
    rw [isInstall, ite_self, ite_self]
  · simp only [List.contains_iff_mem, alike]

theorem raise_nil (graph : DependencyGraph) : graph.raise [] = graph := by
  refine eq_of_node?_eq rfl fun id => ?_
  rw [node?_raise]
  cases graph.node? id <;> rfl

theorem setStatus_raise (promoted : List Nat) (target : Nat) :
    (graph.raise promoted).setStatus target .install = graph.raise (promoted ++ [target]) := by
  refine eq_of_node?_eq rfl fun id => ?_
  rw [setStatus, node?_modify, node?_raise, node?_raise, Option.map_map]
  refine Option.map_congr fun node _ => ?_
  by_cases here : target = id
  · simp [here]
  · simp [here, Ne.symm here]

theorem hasStatus_raise {promoted : List Nat} {id : Nat} (inside : id < graph.nodes.length) :
    (graph.raise promoted).hasStatus .install id = true ↔
      graph.hasStatus .install id = true ∨ id ∈ promoted := by
  have found : graph.node? id = some graph.nodes[id] := List.getElem?_eq_getElem inside
  simp only [hasStatus, node?_raise, found, Option.map_some, Option.any_some, decide_eq_true_eq]
  by_cases member : id ∈ promoted <;> simp [member]

theorem inherits_raise {promoted : List Nat} {id : Nat} :
    (graph.raise promoted).inherits selection id = true ↔
      graph.inherits selection id = true ∧ id ∉ promoted := by
  rw [inherits_iff, inherits_iff, node?_raise]
  cases graph.node? id with
  | none => simp
  | some node => by_cases member : id ∈ promoted <;> simp [member]

/-! ## The invariant of the pass -/

/-- What holds in the course of a pass: the nodes promoted so far are those that
inherit and have been reached. -/
structure Passed (graph : DependencyGraph) (selection : Selection) (reached : Nat → Prop)
    (pass : DependencyGraph × Nat) (promoted : List Nat) : Prop where
  graph_eq : pass.1 = graph.raise promoted
  count : pass.2 = promoted.length
  distinct : promoted.Nodup
  mem_iff : ∀ id, id ∈ promoted ↔ graph.inherits selection id = true ∧ reached id

/-- A delivered node requires the node and is among those that have had their
turn. -/
def ReachedFrom (graph : DependencyGraph) (selection : Selection) (done : List Nat) (id : Nat) :
    Prop :=
  ∃ source ∈ done, source ∈ graph.delivered selection ∧ graph.Requires source id

namespace Passed

variable {reached : Nat → Prop} {pass : DependencyGraph × Nat} {promoted : List Nat}

theorem handDown (passed : Passed graph selection reached pass promoted) (target : Nat) :
    ∃ more, Passed graph selection (fun id => reached id ∨ id = target)
      (DependencyGraph.handDown selection pass target) more := by
  obtain ⟨graphEq, count, distinct, memIff⟩ := passed
  rw [DependencyGraph.handDown, graphEq]
  split
  · next inherits =>
    obtain ⟨was, new⟩ := inherits_raise.mp inherits
    refine ⟨promoted ++ [target], setStatus_raise promoted target, ?_, ?_, fun id => ?_⟩
    · rw [count, List.length_append, List.length_singleton]
    · exact List.nodup_append.mpr ⟨distinct, List.nodup_singleton _, fun old inPromoted other here =>
        fun same => new (List.mem_singleton.mp here ▸ same ▸ inPromoted)⟩
    · rw [List.mem_append, List.mem_singleton, memIff, and_or_left]
      exact or_congr_right ⟨fun same => ⟨same ▸ was, same⟩, fun both => both.2⟩
  · next not =>
    refine ⟨promoted, graphEq, count, distinct, fun id => ?_⟩
    rw [memIff]
    refine and_congr_right fun inherits => ⟨.inl, fun either => ?_⟩
    rcases either with old | rfl
    · exact old
    · by_contra new
      exact not (inherits_raise.mpr ⟨inherits, fun member => new ((memIff id).mp member).2⟩)

theorem handDownList (passed : Passed graph selection reached pass promoted)
    (targets : List Nat) : ∃ more, Passed graph selection (fun id => reached id ∨ id ∈ targets)
      (targets.foldl (DependencyGraph.handDown selection) pass) more := by
  induction targets generalizing reached pass promoted with
  | nil => exact ⟨promoted, by simpa using passed⟩
  | cons target rest ih =>
      obtain ⟨more, one⟩ := passed.handDown target
      obtain ⟨most, all⟩ := ih one
      refine ⟨most, all.graph_eq, all.count, all.distinct, fun id => ?_⟩
      rw [all.mem_iff, List.mem_cons, or_assoc]

/-- **The turn of a node** keeps the invariant, if all nodes that require it have
had theirs. -/
theorem handDownFrom {done : List Nat} (proper : graph.Proper)
    (passed : Passed graph selection (graph.ReachedFrom selection done) pass promoted) {source : Nat}
    (inside : source < graph.nodes.length)
    (earlier : ∀ object, graph.Requires object source → object ∈ done) :
    ∃ more, Passed graph selection (graph.ReachedFrom selection (done ++ [source]))
      (DependencyGraph.handDownFrom selection pass source) more := by
  have isDelivered : pass.1.hasStatus .install source = true ↔
      source ∈ graph.delivered selection := by
    rw [passed.graph_eq, hasStatus_raise inside, passed.mem_iff, mem_delivered_iff proper]
    refine or_congr_right (and_congr_right fun _ => ?_)
    exact ⟨fun ⟨object, _, delivered, required⟩ => ⟨object, delivered, required⟩,
      fun ⟨object, delivered, required⟩ => ⟨object, earlier object required, delivered, required⟩⟩
  have reaches : ∀ id, graph.ReachedFrom selection (done ++ [source]) id ↔
      graph.ReachedFrom selection done id ∨
        source ∈ graph.delivered selection ∧ graph.Requires source id := by
    intro id
    simp only [ReachedFrom, List.mem_append, List.mem_singleton, or_and_right, exists_or,
      exists_eq_left]
  rw [DependencyGraph.handDownFrom]
  split
  · next installed =>
    obtain ⟨more, all⟩ := passed.handDownList (pass.1.requiredBy source)
    refine ⟨more, all.graph_eq, all.count, all.distinct, fun id => ?_⟩
    rw [all.mem_iff, reaches, and_iff_right (isDelivered.mp installed), passed.graph_eq]
    exact and_congr_right fun _ => or_congr_right mem_requiredBy
  · next not =>
    refine ⟨promoted, passed.graph_eq, passed.count, passed.distinct, fun id => ?_⟩
    rw [passed.mem_iff, reaches, or_iff_left fun both => not (isDelivered.mpr both.1)]

/-- Nodes that have their turns one after the other keep the invariant, if
dependents come before what they require. -/
theorem handDownAll {order done rest : List Nat} (proper : graph.Proper)
    (arranges : graph.Arranges order)
    (passed : Passed graph selection (graph.ReachedFrom selection done) pass promoted)
    (split : order = done ++ rest) :
    ∃ more, Passed graph selection (graph.ReachedFrom selection order)
      (rest.foldl (DependencyGraph.handDownFrom selection) pass) more := by
  induction rest generalizing done pass promoted with
  | nil => exact ⟨promoted, by rwa [split, List.append_nil]⟩
  | cons source rest ih =>
      have inside : source ∈ graph.ids := arranges.lists.subset
        (split ▸ List.mem_append_right _ List.mem_cons_self)
      obtain ⟨more, one⟩ := passed.handDownFrom proper (List.mem_range.mp inside)
        (arranges.dependentsFirst done source rest split)
      refine ih one ?_
      rw [split, List.append_assoc, List.singleton_append]

end Passed

/-- What is delivered in the end is what is delivered. -/
theorem hasStatus_promote (proper : graph.Proper) {id : Nat} :
    (graph.promote selection).hasStatus .install id = true ↔ id ∈ graph.delivered selection := by
  refine ⟨mem_delivered_of_install proper, fun delivered => ?_⟩
  obtain ⟨node, found⟩ : ∃ node, graph.node? id = some node := by
    rcases (mem_delivered_iff proper).mp delivered with installed | ⟨inherits, _⟩
    · obtain ⟨node, found, _⟩ := hasStatus_iff.mp installed
      exact ⟨node, found⟩
    · obtain ⟨node, found, _⟩ := inherits_iff.mp inherits
      exact ⟨node, found⟩
  refine hasStatus_iff.mpr ⟨_, by rw [node?_promote, found, Option.map_some], ?_⟩
  exact if_pos (List.contains_iff_mem.mpr delivered)

/-- The nodes that are delivered only because they inherit. -/
theorem inherits_and_delivered_iff (proper : graph.Proper) {id : Nat} :
    (graph.hasStatus .skip id && (graph.promote selection).hasStatus .install id) = true ↔
      graph.inherits selection id = true ∧
        ∃ source, source ∈ graph.delivered selection ∧ graph.Requires source id := by
  rw [Bool.and_eq_true, hasStatus_promote proper, mem_delivered_iff proper]
  constructor
  · rintro ⟨skipped, installed | inherited⟩
    · obtain ⟨node, found, isSkip⟩ := hasStatus_iff.mp skipped
      obtain ⟨other, alsoFound, isInstall⟩ := hasStatus_iff.mp installed
      obtain rfl := Option.some.inj (found.symm.trans alsoFound)
      rw [isSkip] at isInstall
      cases isInstall
    · exact inherited
  · rintro ⟨inherits, reached⟩
    obtain ⟨node, found, isSkip, _⟩ := inherits_iff.mp inherits
    exact ⟨hasStatus_iff.mpr ⟨node, found, isSkip⟩, .inr ⟨inherits, reached⟩⟩

/-- **Any order gives the same**: the nodes that are delivered level by level, and
the number of those that were to be skipped. -/
theorem handDownAll_eq (proper : graph.Proper) {order : List Nat}
    (arranges : graph.Arranges order) :
    graph.handDownAll selection order = (graph.promote selection, graph.ids.countP fun id =>
      graph.hasStatus .skip id && (graph.promote selection).hasStatus .install id) := by
  have start : Passed graph selection (graph.ReachedFrom selection []) (graph, 0) [] :=
    ⟨(raise_nil graph).symm, rfl, List.nodup_nil, fun id => by simp [ReachedFrom]⟩
  obtain ⟨promoted, graphEq, count, distinct, memIff⟩ :=
    start.handDownAll proper arranges (List.nil_append order).symm
  have mem_promoted : ∀ id, id ∈ promoted ↔ graph.inherits selection id = true ∧
      ∃ source, source ∈ graph.delivered selection ∧ graph.Requires source id := by
    intro id
    rw [memIff]
    refine and_congr_right fun _ => ⟨fun ⟨source, _, both⟩ => ⟨source, both⟩, ?_⟩
    rintro ⟨source, delivered, required⟩
    have inside := List.mem_range.mpr (proper.inside (source, id) required).1
    exact ⟨source, arranges.lists.symm.subset inside, delivered, required⟩
  refine Prod.ext (graphEq.trans (raise_congr fun id => ?_)) (count.trans ?_)
  · by_cases installed : graph.hasStatus .install id = true
    · exact .inl installed
    · exact .inr (by rw [mem_promoted, mem_delivered_iff proper, or_iff_right installed])
  · rw [List.countP_eq_length_filter]
    refine ((List.perm_ext_iff_of_nodup distinct (List.nodup_range.filter _)).mpr
      fun id => ?_).length_eq
    rw [mem_promoted, List.mem_filter, inherits_and_delivered_iff proper]
    refine ⟨fun both => ⟨?_, both⟩, fun both => both.2⟩
    obtain ⟨node, found, _⟩ := inherits_iff.mp both.1
    exact List.mem_range.mpr (lt_length_of_node? found)

end SchemaPlan.DependencyGraph
