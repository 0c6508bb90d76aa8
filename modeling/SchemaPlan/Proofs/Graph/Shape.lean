import Mathlib.Data.List.Nodup
import SchemaPlan.Graph.Build
import SchemaPlan.Proofs.Outcome

/-!
# The shape of a dependency graph

Whatever is added to a graph, each key keeps one node, and each requirement
joins two different nodes of the graph and is noted once (`Proper`).  A change
of nodes never takes a node away, never gives it another key and never turns
an object into a placeholder (`Keeps`).

In a graph that is built from records more holds: both ends of a requirement
are named by records, so neither is a placeholder (`Built`).  A change of nodes
keeps this too.

Changes of all kinds, in whatever order they come, make proper graphs from nothing
(`proper_ofChanges`).
-/

set_option autoImplicit false

namespace SchemaPlan.DependencyGraph

/-- The keys of the nodes, in the order of creation. -/
def keys (graph : DependencyGraph) : List ObjectKey := graph.nodes.map (·.key)

/-- What holds of a graph after any sequence of changes. -/
structure Proper (graph : DependencyGraph) : Prop where
  keysDistinct : graph.keys.Nodup
  inside : ∀ pair ∈ graph.requires,
    pair.1 < graph.nodes.length ∧ pair.2 < graph.nodes.length
  endsDiffer : ∀ pair ∈ graph.requires, pair.1 ≠ pair.2
  once : graph.requires.Nodup

/-- A proper graph in which no placeholder requires or is required. -/
structure Built (graph : DependencyGraph) : Prop extends Proper graph where
  endsScheduled : ∀ pair ∈ graph.requires,
    graph.isScheduled pair.1 = true ∧ graph.isScheduled pair.2 = true

/-- A change of nodes: it keeps what is there and adds nodes under new keys. -/
structure Keeps (before after : DependencyGraph) : Prop where
  keys : before.keys <+: after.keys
  scheduled : ∀ id, before.isScheduled id = true → after.isScheduled id = true
  requires : after.requires = before.requires
  distinct : before.keys.Nodup → after.keys.Nodup

namespace Keeps

theorem refl (graph : DependencyGraph) : Keeps graph graph :=
  ⟨List.prefix_refl _, fun _ same => same, rfl, fun same => same⟩

theorem trans {first second third : DependencyGraph} (earlier : Keeps first second)
    (later : Keeps second third) : Keeps first third where
  keys := earlier.keys.trans later.keys
  scheduled id here := later.scheduled id (earlier.scheduled id here)
  requires := later.requires.trans earlier.requires
  distinct nodup := later.distinct (earlier.distinct nodup)

theorem length_le {before after : DependencyGraph} (keeps : Keeps before after) :
    before.nodes.length ≤ after.nodes.length := by
  simpa [DependencyGraph.keys] using keeps.keys.length_le

theorem proper {before after : DependencyGraph} (keeps : Keeps before after)
    (proper : before.Proper) : after.Proper where
  keysDistinct := keeps.distinct proper.keysDistinct
  inside pair member := by
    have ends := proper.inside pair (keeps.requires ▸ member)
    have longer := keeps.length_le
    omega
  endsDiffer pair member := proper.endsDiffer pair (keeps.requires ▸ member)
  once := keeps.requires ▸ proper.once

theorem built {before after : DependencyGraph} (keeps : Keeps before after)
    (built : before.Built) : after.Built where
  toProper := keeps.proper built.toProper
  endsScheduled pair member :=
    have ends := built.endsScheduled pair (keeps.requires ▸ member)
    ⟨keeps.scheduled _ ends.1, keeps.scheduled _ ends.2⟩

end Keeps

/-! ## Nodes -/

theorem isScheduled_iff {graph : DependencyGraph} {id : Nat} :
    graph.isScheduled id = true ↔
      ∃ node, graph.node? id = some node ∧ node.isPlaceholder = false := by
  simp [isScheduled, Option.any_eq_true]

theorem lt_length_of_node? {graph : DependencyGraph} {id : Nat} {node : Node}
    (found : graph.node? id = some node) : id < graph.nodes.length :=
  (List.getElem?_eq_some_iff.mp found).1

theorem lt_length_of_isScheduled {graph : DependencyGraph} {id : Nat}
    (scheduled : graph.isScheduled id = true) : id < graph.nodes.length := by
  obtain ⟨node, found, _⟩ := isScheduled_iff.mp scheduled
  exact lt_length_of_node? found

theorem mem_scheduled {graph : DependencyGraph} {id : Nat} :
    id ∈ graph.scheduled ↔ graph.isScheduled id = true := by
  simp only [scheduled, ids, List.mem_filter, List.mem_range]
  exact ⟨fun both => both.2, fun here => ⟨lt_length_of_isScheduled here, here⟩⟩

theorem filterMap_node?_ids (graph : DependencyGraph) :
    graph.ids.filterMap graph.node? = graph.nodes := by
  have readAll : ∀ nodes : List Node,
      (List.range nodes.length).filterMap (nodes[·]?) = nodes := by
    intro nodes
    induction nodes with
    | nil => rfl
    | cons node rest ih =>
        rw [List.length_cons, List.range_succ_eq_map, List.filterMap_cons, List.filterMap_map]
        exact congrArg (node :: ·) ih
  exact readAll graph.nodes

theorem mem_requiredBy {graph : DependencyGraph} {object dependency : Nat} :
    dependency ∈ graph.requiredBy object ↔ (object, dependency) ∈ graph.requires := by
  simp [requiredBy]

/-- Two nodes with the same key are the same node. -/
theorem Proper.eq_of_key_eq {graph : DependencyGraph} (proper : graph.Proper)
    {first second : Nat} {node other : Node} (found : graph.node? first = some node)
    (alsoFound : graph.node? second = some other) (same : node.key = other.key) :
    first = second := by
  have inside : first < graph.keys.length := by
    simpa [keys] using lt_length_of_node? found
  refine (List.getElem?_inj inside proper.keysDistinct).mp ?_
  rw [keys, List.getElem?_map, List.getElem?_map]
  rw [node?] at found alsoFound
  rw [found, alsoFound, Option.map_some, Option.map_some, same]

/-! ## Changes of nodes -/

theorem node?_modify {graph : DependencyGraph} {id other : Nat} {change : Node → Node} :
    (graph.modify id change).node? other =
      (graph.node? other).map fun node => if id = other then change node else node := by
  simp [modify, node?, List.getElem?_modify]

/-- What no node shows of its change, the graph does not show. -/
theorem map_modify {Reading : Type} {graph : DependencyGraph} {id : Nat} {change : Node → Node}
    {read : Node → Reading} (same : ∀ node, read (change node) = read node) :
    (graph.modify id change).nodes.map read = graph.nodes.map read := by
  refine List.ext_getElem? fun place => ?_
  have here := @node?_modify graph id place change
  simp only [node?] at here
  rw [List.getElem?_map, List.getElem?_map, here, Option.map_map]
  congr 1
  funext node
  by_cases hit : id = place
  · simp [hit, same]
  · simp [hit]

theorem keys_modify {graph : DependencyGraph} {id : Nat} {change : Node → Node}
    (sameKey : ∀ node, (change node).key = node.key) :
    (graph.modify id change).keys = graph.keys :=
  map_modify sameKey

theorem keeps_modify {graph : DependencyGraph} {id : Nat} {change : Node → Node}
    (sameKey : ∀ node, (change node).key = node.key)
    (real : ∀ node, node.isPlaceholder = false → (change node).isPlaceholder = false) :
    Keeps graph (graph.modify id change) where
  keys := (keys_modify sameKey).symm ▸ List.prefix_refl _
  scheduled other here := by
    obtain ⟨node, found, isReal⟩ := isScheduled_iff.mp here
    refine isScheduled_iff.mpr ⟨if id = other then change node else node, ?_, ?_⟩
    · rw [node?_modify, found, Option.map_some]
    · split
      · exact real node isReal
      · exact isReal
  requires := rfl
  distinct nodup := (keys_modify sameKey).symm ▸ nodup

theorem keeps_ensureContainer (graph : DependencyGraph) (id : Nat) (container : Container) :
    Keeps graph (graph.ensureContainer id container) :=
  keeps_modify (fun _ => rfl) fun _ real => real

theorem keeps_setContainer (graph : DependencyGraph) (id : Nat) (container : Container) :
    Keeps graph (graph.setContainer id container) :=
  keeps_modify (fun _ => rfl) fun _ real => real

/-! ## New nodes -/

theorem idOf?_eq_none {graph : DependencyGraph} {key : ObjectKey}
    (absent : graph.idOf? key = none) : key ∉ graph.keys := by
  intro member
  obtain ⟨node, inNodes, rfl⟩ := List.mem_map.mp member
  simpa using List.findIdx?_eq_none_iff.mp absent node inNodes

theorem node?_of_idOf? {graph : DependencyGraph} {key : ObjectKey} {id : Nat}
    (found : graph.idOf? key = some id) : ∃ node, graph.node? id = some node ∧ node.key = key := by
  obtain ⟨inside, hit, _⟩ := List.findIdx?_eq_some_iff_getElem.mp found
  exact ⟨graph.nodes[id], List.getElem?_eq_getElem inside, of_decide_eq_true hit⟩

/-- Naming a key gives a node of that key and keeps all others. -/
theorem intern_spec (graph : DependencyGraph) (key : ObjectKey) (owner : Option String)
    (isPlaceholder : Bool) :
    Keeps graph (graph.intern key owner isPlaceholder).1 ∧
      ∃ node, (graph.intern key owner isPlaceholder).1.node?
        (graph.intern key owner isPlaceholder).2 = some node ∧ node.key = key := by
  rw [intern]
  cases known : graph.idOf? key with
  | some id =>
      obtain ⟨node, found, rfl⟩ := node?_of_idOf? known
      refine ⟨keeps_modify (fun _ => rfl) (fun _ real => real), node.ownedBy owner, ?_, rfl⟩
      rw [node?_modify, found, Option.map_some, if_pos rfl]
  | none =>
      have fresh := idOf?_eq_none known
      refine ⟨⟨?_, ?_, rfl, ?_⟩, ⟨key, owner, none, .skip, isPlaceholder⟩, ?_, rfl⟩
      · simp [keys]
      · intro id here
        obtain ⟨node, found, real⟩ := isScheduled_iff.mp here
        refine isScheduled_iff.mpr ⟨node, ?_, real⟩
        rw [node?, List.getElem?_append_left (lt_length_of_node? found)]
        exact found
      · intro nodup
        rw [keys, List.map_append, List.nodup_append]
        refine ⟨nodup, List.nodup_singleton _, fun old member new here same => ?_⟩
        rw [List.map_singleton, List.mem_singleton] at here
        rw [same, here] at member
        exact fresh member
      · simp [node?]

/-- Adding an object gives a node that takes part in delivery, and keeps all
others. -/
theorem addObject_spec (graph : DependencyGraph) (key : ObjectKey) (owner : Option String) :
    Keeps graph (graph.addObject key owner).1 ∧
      (graph.addObject key owner).1.isScheduled (graph.addObject key owner).2 = true := by
  obtain ⟨keeps, node, found, _⟩ := intern_spec graph key owner false
  refine ⟨keeps.trans (keeps_modify (fun _ => rfl) fun _ _ => rfl), ?_⟩
  refine isScheduled_iff.mpr ⟨{ node with isPlaceholder := false }, ?_, rfl⟩
  rw [addObject, node?_modify, found, Option.map_some, if_pos rfl]

theorem keeps_addContainer (graph : DependencyGraph) (package : String)
    (owner : Option String) : Keeps graph (graph.addContainer package owner).1 :=
  (intern_spec graph _ owner true).1

/-! ## Requirements -/

theorem proper_addRequires {graph : DependencyGraph} (proper : graph.Proper)
    (object dependency : Nat) : (graph.addRequires object dependency).Proper := by
  rw [addRequires]
  split
  · exact proper
  · next allowed =>
    simp only [not_or, Nat.not_le] at allowed
    obtain ⟨differ, new, objectInside, dependencyInside⟩ := allowed
    refine ⟨proper.keysDistinct, fun pair member => ?_, fun pair member => ?_, ?_⟩
    · rcases List.mem_append.mp member with old | here
      · exact proper.inside pair old
      · rw [List.mem_singleton.mp here]
        exact ⟨objectInside, dependencyInside⟩
    · rcases List.mem_append.mp member with old | here
      · exact proper.endsDiffer pair old
      · rw [List.mem_singleton.mp here]
        exact differ
    · refine List.nodup_append.mpr ⟨proper.once, List.nodup_singleton _, ?_⟩
      intro old member pair here same
      rw [List.mem_singleton] at here
      exact new (here ▸ same ▸ member)

theorem built_addRequires {graph : DependencyGraph} (built : graph.Built)
    {object dependency : Nat} (objectScheduled : graph.isScheduled object = true)
    (dependencyScheduled : graph.isScheduled dependency = true) :
    (graph.addRequires object dependency).Built := by
  refine ⟨proper_addRequires built.toProper object dependency, ?_⟩
  rw [addRequires]
  split
  · exact built.endsScheduled
  · intro pair member
    rcases List.mem_append.mp member with old | here
    · exact built.endsScheduled pair old
    · rw [List.mem_singleton.mp here]
      exact ⟨objectScheduled, dependencyScheduled⟩

/-! ## Records -/

theorem built_empty : empty.Built where
  keysDistinct := List.nodup_nil
  inside := by simp [empty]
  endsDiffer := by simp [empty]
  once := List.nodup_nil
  endsScheduled := by simp [empty]

end SchemaPlan.DependencyGraph

namespace SchemaPlan

/-! ## Graphs made by changes -/

/-- A change of a dependency graph. -/
inductive GraphChange where
  | addObject (key : ObjectKey) (owner : Option String)
  | addContainer (package : String) (owner : Option String)
  | ensureContainer (id : Nat) (container : Container)
  | setContainer (id : Nat) (container : Container)
  | addRequires (object dependency : Nat)
  | setStatus (id : Nat) (status : NodeStatus)
deriving DecidableEq, Repr

namespace DependencyGraph

/-- The graph after a change. -/
def apply (graph : DependencyGraph) : GraphChange → DependencyGraph
  | .addObject key owner => (graph.addObject key owner).1
  | .addContainer package owner => (graph.addContainer package owner).1
  | .ensureContainer id container => graph.ensureContainer id container
  | .setContainer id container => graph.setContainer id container
  | .addRequires object dependency => graph.addRequires object dependency
  | .setStatus id status => graph.setStatus id status

/-- The graph that changes make from nothing. -/
def ofChanges (changes : List GraphChange) : DependencyGraph := changes.foldl apply empty

theorem keeps_setStatus (graph : DependencyGraph) (id : Nat) (status : NodeStatus) :
    Keeps graph (graph.setStatus id status) :=
  keeps_modify (fun _ => rfl) fun _ real => real

/-- A change leaves a proper graph proper: it keeps the nodes, or it notes one
requirement. -/
theorem proper_apply {graph : DependencyGraph} (proper : graph.Proper) (change : GraphChange) :
    (graph.apply change).Proper := by
  cases change with
  | addObject key owner => exact (addObject_spec graph key owner).1.proper proper
  | addContainer package owner => exact (keeps_addContainer graph package owner).proper proper
  | ensureContainer id container => exact (keeps_ensureContainer graph id container).proper proper
  | setContainer id container => exact (keeps_setContainer graph id container).proper proper
  | addRequires object dependency => exact proper_addRequires proper object dependency
  | setStatus id status => exact (keeps_setStatus graph id status).proper proper

/-- **Graphs made by changes are proper.** -/
theorem proper_ofChanges (changes : List GraphChange) : (ofChanges changes).Proper := by
  have folded : ∀ graph : DependencyGraph, graph.Proper →
      (changes.foldl apply graph).Proper := by
    induction changes with
    | nil => exact fun _ proper => proper
    | cons change rest ih =>
        exact fun graph proper => ih (graph.apply change) (proper_apply proper change)
  exact folded empty built_empty.toProper

end DependencyGraph

end SchemaPlan
