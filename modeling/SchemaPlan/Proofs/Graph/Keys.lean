import SchemaPlan.Proofs.Graph.Components

/-!
# Graphs by their keys

A node is a number that says nothing by itself; what it stands for is told by
its key.  Since each key has one node, requirements of nodes are requirements of
keys: ways along the ones are ways along the others (`reflTransGen_key_iff`), and
the components of the nodes are the components of the keys
(`ListsComponents.keys`).
-/

set_option autoImplicit false

namespace SchemaPlan

open Relation (TransGen ReflTransGen)

namespace DependencyGraph

variable {graph : DependencyGraph}

/-- The key of a node. -/
def key? (graph : DependencyGraph) (id : Nat) : Option ObjectKey := (graph.node? id).map (·.key)

/-- One key requires another: so do their nodes. -/
def RequiresKey (graph : DependencyGraph) (object dependency : ObjectKey) : Prop :=
  ∃ id target, graph.Requires id target ∧ graph.key? id = some object ∧
    graph.key? target = some dependency

/-! ## Keys of nodes -/

theorem getElem?_keys (graph : DependencyGraph) (id : Nat) : graph.keys[id]? = graph.key? id :=
  List.getElem?_map

theorem key?_eq_some {id : Nat} {key : ObjectKey} :
    graph.key? id = some key ↔ ∃ node, graph.node? id = some node ∧ node.key = key :=
  Option.map_eq_some_iff

theorem filterMap_key?_ids (graph : DependencyGraph) :
    graph.ids.filterMap graph.key? = graph.keys := by
  rw [keys, ← filterMap_node?_ids, List.map_filterMap]
  rfl

theorem exists_key? {id : Nat} (inside : id < graph.nodes.length) :
    ∃ key, graph.key? id = some key :=
  ⟨graph.nodes[id].key, by rw [key?, node?, List.getElem?_eq_getElem inside, Option.map_some]⟩

theorem mem_ids_of_key? {id : Nat} {key : ObjectKey} (found : graph.key? id = some key) :
    id ∈ graph.ids := by
  obtain ⟨node, isNode, _⟩ := key?_eq_some.mp found
  exact List.mem_range.mpr (lt_length_of_node? isNode)

theorem mem_keys_iff {key : ObjectKey} : key ∈ graph.keys ↔ ∃ id, graph.key? id = some key := by
  rw [List.mem_iff_getElem?]
  exact exists_congr fun id => by rw [getElem?_keys]

theorem mem_keys_of_node? {id : Nat} {node : Node} (found : graph.node? id = some node) :
    node.key ∈ graph.keys :=
  List.mem_map_of_mem (List.mem_of_getElem? found)

/-- **Each key has one node.** -/
theorem Proper.eq_of_key? (proper : graph.Proper) {first second : Nat} {key : ObjectKey}
    (found : graph.key? first = some key) (alsoFound : graph.key? second = some key) :
    first = second := by
  obtain ⟨node, isNode, rfl⟩ := key?_eq_some.mp found
  obtain ⟨other, isOther, same⟩ := key?_eq_some.mp alsoFound
  exact proper.eq_of_key_eq isNode isOther same.symm

theorem Keeps.key? {before after : DependencyGraph} (keeps : Keeps before after) {id : Nat}
    {key : ObjectKey} (found : before.key? id = some key) : after.key? id = some key := by
  rw [← getElem?_keys] at found ⊢
  obtain ⟨inside, _⟩ := List.getElem?_eq_some_iff.mp found
  rw [← found]
  exact (List.prefix_iff_getElem?.mp keeps.keys id inside).trans
    (List.getElem?_eq_getElem inside).symm

theorem Keeps.key?_of_lt {before after : DependencyGraph} (keeps : Keeps before after) {id : Nat}
    (inside : id < before.nodes.length) : after.key? id = before.key? id := by
  obtain ⟨key, found⟩ := exists_key? inside
  rw [found, keeps.key? found]

/-- A change of nodes changes no requirement between keys. -/
theorem Keeps.requiresKey_iff {before after : DependencyGraph} (keeps : Keeps before after)
    (proper : before.Proper) {object dependency : ObjectKey} :
    after.RequiresKey object dependency ↔ before.RequiresKey object dependency := by
  refine exists_congr fun id => exists_congr fun target => ?_
  rw [Requires, Requires, keeps.requires]
  refine and_congr_right fun required => ?_
  obtain ⟨idInside, targetInside⟩ := proper.inside _ required
  rw [keeps.key?_of_lt idInside, keeps.key?_of_lt targetInside]

/-! ## Ways along keys -/

theorem reflTransGen_key (proper : graph.Proper) {first last : Nat} {key : ObjectKey}
    (way : ReflTransGen graph.Requires first last) (found : graph.key? first = some key) :
    ∃ other, graph.key? last = some other ∧ ReflTransGen graph.RequiresKey key other := by
  induction way with
  | refl => exact ⟨key, found, .refl⟩
  | tail _ step ih =>
      obtain ⟨middle, isMiddle, steps⟩ := ih
      obtain ⟨other, isOther⟩ := exists_key? (proper.inside _ step).2
      exact ⟨other, isOther, steps.tail ⟨_, _, step, isMiddle, isOther⟩⟩

theorem reflTransGen_node (proper : graph.Proper) {first : Nat} {key other : ObjectKey}
    (way : ReflTransGen graph.RequiresKey key other) (found : graph.key? first = some key) :
    ∃ last, graph.key? last = some other ∧ ReflTransGen graph.Requires first last := by
  induction way with
  | refl => exact ⟨first, found, .refl⟩
  | tail _ step ih =>
      obtain ⟨middle, isMiddle, steps⟩ := ih
      obtain ⟨id, target, required, isId, isTarget⟩ := step
      obtain rfl := proper.eq_of_key? isMiddle isId
      exact ⟨target, isTarget, steps.tail required⟩

/-- **Ways along keys are ways along their nodes.** -/
theorem reflTransGen_key_iff (proper : graph.Proper) {first last : Nat} {key other : ObjectKey}
    (found : graph.key? first = some key) (alsoFound : graph.key? last = some other) :
    ReflTransGen graph.RequiresKey key other ↔ ReflTransGen graph.Requires first last := by
  constructor
  · intro way
    obtain ⟨end_, isEnd, steps⟩ := reflTransGen_node proper way found
    exact proper.eq_of_key? isEnd alsoFound ▸ steps
  · intro way
    obtain ⟨final, isFinal, steps⟩ := reflTransGen_key proper way found
    rw [alsoFound, Option.some.injEq] at isFinal
    exact isFinal ▸ steps

theorem mutual_key_iff (proper : graph.Proper) {first second : Nat} {key other : ObjectKey}
    (found : graph.key? first = some key) (alsoFound : graph.key? second = some other) :
    Mutual graph.RequiresKey key other ↔ Mutual graph.Requires first second := by
  rw [Mutual, Mutual, reflTransGen_key_iff proper found alsoFound,
    reflTransGen_key_iff proper alsoFound found]

/-- **A graph is acyclic exactly when no key requires itself through others.** -/
theorem acyclic_iff_keys (proper : graph.Proper) :
    graph.Acyclic ↔ ∀ key, ¬ TransGen graph.RequiresKey key key := by
  constructor
  · intro acyclic key round
    obtain ⟨next, ⟨id, target, required, isId, isTarget⟩, back⟩ := TransGen.head'_iff.mp round
    refine acyclic id (TransGen.head'_iff.mpr ⟨target, required, ?_⟩)
    exact (reflTransGen_key_iff proper isTarget isId).mp back
  · intro acyclic id round
    obtain ⟨target, required, back⟩ := TransGen.head'_iff.mp round
    obtain ⟨key, isId⟩ := exists_key? (proper.inside _ required).1
    obtain ⟨next, isTarget⟩ := exists_key? (proper.inside _ required).2
    refine acyclic key (TransGen.head'_iff.mpr ⟨next, ⟨id, target, required, isId, isTarget⟩, ?_⟩)
    exact (reflTransGen_key_iff proper isTarget isId).mpr back

/-! ## Components of keys -/

theorem mem_filterMap_key? {ids : List Nat} {key : ObjectKey} :
    key ∈ ids.filterMap graph.key? ↔ ∃ id ∈ ids, graph.key? id = some key :=
  List.mem_filterMap

theorem length_filterMap_key? {ids : List Nat} (inside : ids ⊆ graph.ids) :
    (ids.filterMap graph.key?).length = ids.length := by
  rw [List.filterMap_length_eq_length]
  intro id member
  obtain ⟨key, found⟩ := exists_key? (List.mem_range.mp (inside member))
  rw [found, Option.isSome_some]

theorem head?_filterMap_key? {ids : List Nat} (inside : ids ⊆ graph.ids) :
    (ids.filterMap graph.key?).head? = ids.head?.bind graph.key? := by
  cases ids with
  | nil => rfl
  | cons id rest =>
      obtain ⟨key, found⟩ := exists_key? (List.mem_range.mp (inside List.mem_cons_self))
      rw [List.filterMap_cons_some found, List.head?_cons, List.head?_cons, Option.bind_some, found]

/-- **The components of the nodes are the components of their keys.** -/
theorem ListsComponents.keys (proper : graph.Proper) {components : List (List Nat)}
    (lists : ListsComponents graph.Requires graph.ids components) :
    ListsComponents graph.RequiresKey graph.keys
      (components.map fun component => component.filterMap graph.key?) where
  distinct := proper.keysDistinct
  several component member := by
    obtain ⟨ids, listed, rfl⟩ := List.mem_map.mp member
    rw [length_filterMap_key? (lists.inOrder ids listed).subset]
    exact lists.several ids listed
  inOrder component member := by
    obtain ⟨ids, listed, rfl⟩ := List.mem_map.mp member
    rw [← filterMap_key?_ids]
    exact (lists.inOrder ids listed).filterMap graph.key?
  whole component member first isFirst second := by
    obtain ⟨ids, listed, rfl⟩ := List.mem_map.mp member
    obtain ⟨id, inside, found⟩ := mem_filterMap_key?.mp isFirst
    rw [mem_filterMap_key?]
    constructor
    · rintro ⟨other, alsoInside, alsoFound⟩
      exact (mutual_key_iff proper found alsoFound).mpr
        ((lists.whole ids listed id inside other).mp alsoInside)
    · intro joined
      obtain ⟨other, alsoFound, _⟩ := reflTransGen_node proper joined.1 found
      exact ⟨other, (lists.whole ids listed id inside other).mpr
        ((mutual_key_iff proper found alsoFound).mp joined), alsoFound⟩
  complete first second joined differ := by
    obtain ⟨_, ⟨id, _, _, found, _⟩, _⟩ := TransGen.head'_iff.mp (joined.transGen differ)
    obtain ⟨other, alsoFound, _⟩ := reflTransGen_node proper joined.1 found
    have differs : id ≠ other := by
      rintro rfl
      rw [found, Option.some.injEq] at alsoFound
      exact differ alsoFound
    obtain ⟨ids, listed, inside⟩ :=
      lists.complete id other ((mutual_key_iff proper found alsoFound).mp joined) differs
    exact ⟨_, List.mem_map_of_mem listed, mem_filterMap_key?.mpr ⟨id, inside, found⟩⟩
  firstsInOrder := by
    have firsts : (components.map fun component => component.filterMap graph.key?).filterMap
        List.head? = (components.filterMap List.head?).filterMap graph.key? := by
      rw [List.filterMap_map, List.filterMap_filterMap]
      exact List.filterMap_congr fun ids listed =>
        head?_filterMap_key? (lists.inOrder ids listed).subset
    rw [firsts, ← filterMap_key?_ids]
    exact lists.firstsInOrder.filterMap graph.key?

end DependencyGraph

end SchemaPlan
