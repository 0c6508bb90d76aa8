import SchemaPlan.Proofs.Graph.Refusal

/-!
# Graphs and the order of records

What a graph holds is said by the records without their order: the retained records
say which keys are required, which take part in delivery and which packages are only
needed around them (`build_contents`).  So records in another order lead to a graph
with other numbers: there is a renumbering that takes the one to the other, container
by container and requirement by requirement (`Alike.renumbers`).  Only the owners may
differ, because the first owner given stays.
-/

set_option autoImplicit false

namespace SchemaPlan

/-- The container with another number for its node. -/
def Container.renumber (number : Nat → Nat) : Container → Container
  | .root => .root
  | .package node => .package (number node)

namespace Node

/-- The node with another number for that of its container. -/
def renumber (number : Nat → Nat) (node : Node) : Node :=
  { node with container := node.container.map (Container.renumber number) }

/-- The node without its owner. -/
def disowned (node : Node) : Node := { node with owner := none }

end Node

namespace DependencyGraph

variable {config : GraphConfig} {edges others : List Edge} {first second graph : DependencyGraph}
  {key : ObjectKey} {container : Container} {id : Nat}

/-- The requirements as pairs of keys. -/
def requiredKeys (graph : DependencyGraph) : List (Option ObjectKey × Option ObjectKey) :=
  graph.requires.map (Prod.map graph.key? graph.key?)

/-- The object of a key only contains others. -/
def OnlyContains (graph : DependencyGraph) (key : ObjectKey) : Prop :=
  ∃ id node, graph.node? id = some node ∧ node.key = key ∧ node.isPlaceholder = true

/-- One graph is the other one with other numbers, up to the owners of nodes. -/
structure Renumbers (number : Nat → Nat) (first second : DependencyGraph) : Prop where
  ids : (first.ids.map number).Perm second.ids
  nodes : ∀ id ∈ first.ids, (second.node? (number id)).map Node.disowned =
    (first.node? id).map fun node => (node.renumber number).disowned
  requires : (first.requires.map (Prod.map number number)).Perm second.requires

/-- The number in another graph of the node with the same key. -/
def numberIn (first second : DependencyGraph) (id : Nat) : Nat :=
  ((first.key? id).bind second.idOf?).getD 0

/-- Two graphs hold the same when their numbers are not looked at. -/
structure Alike (first second : DependencyGraph) : Prop where
  proper : first.Proper
  alsoProper : second.Proper
  arranged : first.Arranged []
  alsoArranged : second.Arranged []
  keys : ∀ key, key ∈ first.keys ↔ key ∈ second.keys
  schedulesKey : ∀ key, first.SchedulesKey key ↔ second.SchedulesKey key
  requiresKey : ∀ object dependency,
    first.RequiresKey object dependency ↔ second.RequiresKey object dependency

/-! ## Nodes by their keys -/

theorem isScheduled_iff_schedulesKey (proper : graph.Proper) (found : graph.key? id = some key) :
    graph.isScheduled id = true ↔ graph.SchedulesKey key := by
  constructor
  · intro scheduled
    exact ⟨id, found, scheduled⟩
  · rintro ⟨other, alsoFound, scheduled⟩
    exact proper.eq_of_key? alsoFound found ▸ scheduled

/-- A key asks for one container. -/
theorem Proper.suits_unique (proper : graph.Proper) {other : Container}
    (suits : graph.Suits key container) (alsoSuits : graph.Suits key other) :
    container = other := by
  cases container with
  | root =>
      cases other with
      | root => rfl
      | package outer =>
          obtain ⟨package, inside, _⟩ := alsoSuits
          cases suits.symm.trans inside
  | package outer =>
      obtain ⟨package, inside, isOuter⟩ := suits
      cases other with
      | root => cases inside.symm.trans alsoSuits
      | package otherOuter =>
          obtain ⟨otherPackage, alsoInside, isOtherOuter⟩ := alsoSuits
          obtain rfl := Option.some.inj (inside.symm.trans alsoInside)
          rw [proper.eq_of_key? isOuter isOtherOuter]

/-- A key has a node that only contains others if it has a node that takes no part in
delivery. -/
theorem onlyContains_iff_not_schedulesKey (proper : graph.Proper) :
    graph.OnlyContains key ↔ key ∈ graph.keys ∧ ¬ graph.SchedulesKey key := by
  constructor
  · rintro ⟨id, node, isNode, rfl, placeholder⟩
    have found := key?_eq_some.mpr ⟨node, isNode, rfl⟩
    refine ⟨mem_keys_iff.mpr ⟨id, found⟩, ?_⟩
    rw [← isScheduled_iff_schedulesKey proper found, isScheduled, isNode]
    simp [placeholder]
  · rintro ⟨present, unscheduled⟩
    obtain ⟨id, found⟩ := mem_keys_iff.mp present
    obtain ⟨node, isNode, isKey⟩ := key?_eq_some.mp found
    rw [← isScheduled_iff_schedulesKey proper found, isScheduled, isNode] at unscheduled
    exact ⟨id, node, isNode, isKey, by simpa using unscheduled⟩

/-- Nodes require each other just as their keys do. -/
theorem mem_requires_iff_requiresKey (proper : graph.Proper) {object dependency : ObjectKey}
    {target : Nat}
    (isObject : graph.key? id = some object) (isDependency : graph.key? target = some dependency) :
    (id, target) ∈ graph.requires ↔ graph.RequiresKey object dependency := by
  constructor
  · intro required
    exact ⟨id, target, required, isObject, isDependency⟩
  · rintro ⟨other, otherTarget, required, alsoObject, alsoDependency⟩
    rw [proper.eq_of_key? isObject alsoObject, proper.eq_of_key? isDependency alsoDependency]
    exact required

theorem Proper.nodup_requiredKeys (proper : graph.Proper) : graph.requiredKeys.Nodup := by
  refine proper.once.map_on ?_
  rintro ⟨object, dependency⟩ required ⟨otherObject, otherDependency⟩ alsoRequired same
  obtain ⟨objectKey, isObject⟩ := exists_key? (proper.inside _ required).1
  obtain ⟨dependencyKey, isDependency⟩ := exists_key? (proper.inside _ required).2
  obtain ⟨sameObject, sameDependency⟩ := Prod.mk.inj same
  exact Prod.ext (proper.eq_of_key? isObject (sameObject.symm.trans isObject))
    (proper.eq_of_key? isDependency (sameDependency.symm.trans isDependency))

theorem Proper.mem_requiredKeys (proper : graph.Proper)
    {pair : Option ObjectKey × Option ObjectKey} : pair ∈ graph.requiredKeys ↔
      ∃ object dependency, pair = (some object, some dependency) ∧
        graph.RequiresKey object dependency := by
  rw [requiredKeys, List.mem_map]
  constructor
  · rintro ⟨⟨id, target⟩, required, rfl⟩
    obtain ⟨object, isObject⟩ := exists_key? (proper.inside _ required).1
    obtain ⟨dependency, isDependency⟩ := exists_key? (proper.inside _ required).2
    exact ⟨object, dependency, Prod.ext isObject isDependency,
      id, target, required, isObject, isDependency⟩
  · rintro ⟨object, dependency, rfl, id, target, required, isObject, isDependency⟩
    exact ⟨(id, target), required, Prod.ext isObject isDependency⟩

/-! ## Renumbering graphs that are alike -/

namespace Alike

/-- The renumbering keeps keys. -/
theorem key?_numberIn (alike : Alike first second) (found : first.key? id = some key) :
    second.key? (first.numberIn second id) = some key := by
  have present := (alike.keys key).mp (mem_keys_iff.mpr ⟨id, found⟩)
  rw [numberIn, found, Option.bind_some]
  cases known : second.idOf? key with
  | none => exact absurd present (idOf?_eq_none known)
  | some number => exact key?_eq_some.mpr (node?_of_idOf? known)

theorem numberIn_injective (alike : Alike first second) {other : Nat}
    (inside : id ∈ first.ids) (alsoInside : other ∈ first.ids)
    (same : first.numberIn second id = first.numberIn second other) : id = other := by
  obtain ⟨key, found⟩ := exists_key? (List.mem_range.mp inside)
  obtain ⟨otherKey, alsoFound⟩ := exists_key? (List.mem_range.mp alsoInside)
  have keys := alike.key?_numberIn found
  rw [same, alike.key?_numberIn alsoFound, Option.some.injEq] at keys
  exact alike.proper.eq_of_key? found (keys ▸ alsoFound)

theorem ids (alike : Alike first second) :
    (first.ids.map (first.numberIn second)).Perm second.ids := by
  refine (List.perm_ext_iff_of_nodup ?_ List.nodup_range).mpr fun number => ?_
  · exact List.nodup_range.map_on fun _ inside _ alsoInside same =>
      alike.numberIn_injective inside alsoInside same
  · rw [List.mem_map]
    constructor
    · rintro ⟨id, inside, rfl⟩
      obtain ⟨key, found⟩ := exists_key? (List.mem_range.mp inside)
      exact mem_ids_of_key? (alike.key?_numberIn found)
    · intro inside
      obtain ⟨key, found⟩ := exists_key? (List.mem_range.mp inside)
      obtain ⟨id, isFirst⟩ := mem_keys_iff.mp ((alike.keys key).mpr (mem_keys_iff.mpr ⟨_, found⟩))
      exact ⟨id, mem_ids_of_key? isFirst,
        alike.alsoProper.eq_of_key? (alike.key?_numberIn isFirst) found⟩

theorem suits (alike : Alike first second) (fits : first.Suits key container) :
    second.Suits key (container.renumber (first.numberIn second)) := by
  cases container with
  | root => exact fits
  | package outer =>
      obtain ⟨package, inside, isOuter⟩ := fits
      exact ⟨package, inside, alike.key?_numberIn isOuter⟩

theorem isScheduled_numberIn (alike : Alike first second) (found : first.key? id = some key) :
    second.isScheduled (first.numberIn second id) = first.isScheduled id := by
  rw [Bool.eq_iff_iff, isScheduled_iff_schedulesKey alike.alsoProper (alike.key?_numberIn found),
    isScheduled_iff_schedulesKey alike.proper found, alike.schedulesKey]

theorem nodes (alike : Alike first second) (inside : id ∈ first.ids) :
    (second.node? (first.numberIn second id)).map Node.disowned =
      (first.node? id).map fun node => (node.renumber (first.numberIn second)).disowned := by
  obtain ⟨key, found⟩ := exists_key? (List.mem_range.mp inside)
  have sameScheduled := alike.isScheduled_numberIn found
  obtain ⟨node, isNode, isKey⟩ := key?_eq_some.mp found
  obtain ⟨other, isOther, sameKey⟩ := key?_eq_some.mp (alike.key?_numberIn found)
  obtain ⟨skip, ⟨container, held, fits⟩ | ⟨_, loose⟩⟩ := alike.arranged id node isNode
  swap
  · cases loose
  obtain ⟨alsoSkip, ⟨otherContainer, alsoHeld, alsoFits⟩ | ⟨_, loose⟩⟩ :=
    alike.alsoArranged _ other isOther
  swap
  · cases loose
  rw [sameKey, ← isKey] at alsoFits
  have sameContainer := alike.alsoProper.suits_unique (alike.suits fits) alsoFits
  rw [isScheduled, isScheduled, isNode, isOther, Option.any_some, Option.any_some,
    Bool.not_inj_iff] at sameScheduled
  rw [isNode, isOther, Option.map_some, Option.map_some, Option.some.injEq]
  simp only [Node.disowned, Node.renumber, held, alsoHeld, Option.map_some, sameContainer, sameKey,
    isKey, skip, alsoSkip, sameScheduled]

theorem requires (alike : Alike first second) :
    (first.requires.map (Prod.map (first.numberIn second) (first.numberIn second))).Perm
      second.requires := by
  have inside := alike.proper.inside
  refine (List.perm_ext_iff_of_nodup ?_ alike.alsoProper.once).mpr ?_
  · refine alike.proper.once.map_on ?_
    rintro ⟨object, dependency⟩ required ⟨otherObject, otherDependency⟩ alsoRequired same
    have ends := alike.proper.mem_ids_of_requires required
    have otherEnds := alike.proper.mem_ids_of_requires alsoRequired
    obtain ⟨sameObject, sameDependency⟩ := Prod.mk.inj same
    rw [alike.numberIn_injective ends.1 otherEnds.1 sameObject,
      alike.numberIn_injective ends.2 otherEnds.2 sameDependency]
  · rintro ⟨object, dependency⟩
    rw [List.mem_map]
    constructor
    · rintro ⟨⟨id, target⟩, required, same⟩
      obtain ⟨rfl, rfl⟩ := Prod.mk.inj same
      obtain ⟨key, found⟩ := exists_key? (alike.proper.inside _ required).1
      obtain ⟨other, alsoFound⟩ := exists_key? (alike.proper.inside _ required).2
      rw [mem_requires_iff_requiresKey alike.alsoProper (alike.key?_numberIn found)
        (alike.key?_numberIn alsoFound), ← alike.requiresKey]
      exact (mem_requires_iff_requiresKey alike.proper found alsoFound).mp required
    · intro required
      obtain ⟨key, found⟩ := exists_key? (alike.alsoProper.inside _ required).1
      obtain ⟨other, alsoFound⟩ := exists_key? (alike.alsoProper.inside _ required).2
      obtain ⟨id, target, wasRequired, isObject, isDependency⟩ := (alike.requiresKey key other).mpr
        ((mem_requires_iff_requiresKey alike.alsoProper found alsoFound).mp required)
      refine ⟨(id, target), wasRequired, Prod.ext ?_ ?_⟩
      · exact alike.alsoProper.eq_of_key? (alike.key?_numberIn isObject) found
      · exact alike.alsoProper.eq_of_key? (alike.key?_numberIn isDependency) alsoFound

/-- **Graphs that are alike differ in their numbers and owners only.** -/
theorem renumbers (alike : Alike first second) :
    Renumbers (first.numberIn second) first second :=
  ⟨alike.ids, fun _ => alike.nodes, alike.requires⟩

end Alike

/-! ## Graphs of the same records -/

theorem alike_of_reflects (reflects : Reflects config (keptEdges config edges) first)
    (alsoReflects : Reflects config (keptEdges config others) second)
    (same : ∀ edge, edge ∈ others ↔ edge ∈ edges) : Alike first second where
  proper := reflects.built.toProper
  alsoProper := alsoReflects.built.toProper
  arranged := reflects.arranged
  alsoArranged := alsoReflects.arranged
  keys key := by
    simp only [reflects.mem_keys_iff, alsoReflects.mem_keys_iff,
      GraphConfig.mentions_congr same]
  schedulesKey key := by
    rw [reflects.schedulesKey_iff_mentions, alsoReflects.schedulesKey_iff_mentions,
      GraphConfig.mentions_congr same]
  requiresKey object dependency := by
    rw [reflects.requiresKey_iff_needs, alsoReflects.requiresKey_iff_needs,
      GraphConfig.needs_congr same]

theorem exists_build_congr (same : ∀ edge, edge ∈ others ↔ edge ∈ edges)
    (made : build config edges = .ok graph) : ∃ other, build config others = .ok other := by
  obtain ⟨isMade, acyclic⟩ := build_eq_ok_iff.mp made
  have passes := exists_ofEdges_iff.mp ⟨graph, isMade⟩
  obtain ⟨other, alsoMade⟩ := exists_ofEdges_iff.mpr fun edge dependency package rejects =>
    passes edge dependency package
      { rejects with retained := (GraphConfig.retains_congr same).mp rejects.retained }
  have sameNeeds : config.Needs others = config.Needs edges := by
    funext object dependency
    exact propext (GraphConfig.needs_congr same)
  exact ⟨other, build_eq_ok_iff.mpr ⟨alsoMade, sameNeeds ▸ acyclic⟩⟩

/-- The packages that only contain others are those of mentioned keys that are not
mentioned themselves. -/
theorem Reflects.onlyContains_iff (reflects : Reflects config (keptEdges config edges) graph) :
    graph.OnlyContains key ↔ ¬ config.Mentions edges key ∧
      ∃ member package, config.Mentions edges member ∧ member.package? = some package ∧
        key = .packageNode package := by
  rw [onlyContains_iff_not_schedulesKey reflects.built.toProper, reflects.mem_keys_iff,
    reflects.schedulesKey_iff_mentions, and_comm]
  exact and_congr_right fun unmentioned => or_iff_right unmentioned

/-- **What a graph of records holds.**  It requires what the retained records need, each
requirement once; what they mention takes part in delivery; and the packages around
that are there besides.  The same records in another order lead to the same graph
with other numbers and owners. -/
theorem build_contents (made : build config edges = .ok graph) :
    graph.requiredKeys.Nodup ∧
    (∀ pair, pair ∈ graph.requiredKeys ↔ ∃ object dependency,
      pair = (some object, some dependency) ∧ config.Needs edges object dependency) ∧
    graph.keys.Nodup ∧
    (∀ key, graph.SchedulesKey key ↔ config.Mentions edges key) ∧
    (∀ key, graph.OnlyContains key ↔ ¬ config.Mentions edges key ∧
      ∃ member package, config.Mentions edges member ∧ member.package? = some package ∧
        key = .packageNode package) ∧
    ∀ others, (∀ edge, edge ∈ others ↔ edge ∈ edges) →
      ∃ other number, build config others = .ok other ∧ Renumbers number graph other := by
  have reflects := reflects_ofEdges (build_eq_ok_iff.mp made).1
  have proper := reflects.built.toProper
  refine ⟨proper.nodup_requiredKeys, fun pair => ?_, proper.keysDistinct,
    fun _ => reflects.schedulesKey_iff_mentions, fun _ => reflects.onlyContains_iff,
    fun others same => ?_⟩
  · simp only [proper.mem_requiredKeys, reflects.requiresKey_iff_needs]
  · obtain ⟨other, alsoMade⟩ := exists_build_congr same made
    have alsoReflects := reflects_ofEdges (build_eq_ok_iff.mp alsoMade).1
    exact ⟨other, _, alsoMade, (alike_of_reflects reflects alsoReflects same).renumbers⟩

/-- Records in which a package is needed around a function before it is named itself.
Another package is only needed around its procedure, and a third one has nothing that
requires anything but itself. -/
def mixedRecords : List Edge :=
  [.requires (.new (some "A") (.new .function "SALE" "SEND"))
      (.new none (.rootLevel .table "ITEMS")),
    .requires (.new (some "A") (.packageNode "SALE"))
      (.new (some "A") (.new .function "SALE" "SEND")),
    .requires (.new (some "B") (.new .procedure "BILL" "POST"))
      (.new (some "A") (.new .function "SALE" "SEND")),
    .requires (.new (some "A") (.new .procedure "IDLE" "RUN"))
      (.new (some "A") (.new .procedure "IDLE" "RUN")),
    .leaf (.new (some "A") (.rootLevel .table "ITEMS"))]

/-- The graph of those records. -/
def mixedGraph : DependencyGraph where
  nodes :=
    [⟨.new .function "SALE" "SEND", some "A", some (.package 1), .skip, false⟩,
      ⟨.packageNode "SALE", some "A", some .root, .skip, false⟩,
      ⟨.rootLevel .table "ITEMS", some "A", some .root, .skip, false⟩,
      ⟨.new .procedure "BILL" "POST", some "B", some (.package 4), .skip, false⟩,
      ⟨.packageNode "BILL", some "B", some .root, .skip, true⟩]
  requires := [(0, 2), (1, 0), (3, 0)]

theorem build_mixedRecords : build {} mixedRecords = .ok mixedGraph := by
  with_unfolding_all rfl

/-- The package that was named itself takes part in delivery and the other one only
contains its procedure; read backwards, the records lead to the same graph with other
numbers. -/
theorem build_contents_mixedRecords : build {} mixedRecords = .ok mixedGraph ∧
    GraphConfig.Mentions {} mixedRecords (.packageNode "SALE") ∧
    ¬ GraphConfig.Mentions {} mixedRecords (.packageNode "BILL") ∧
    ∃ other number, build {} mixedRecords.reverse = .ok other ∧
      Renumbers number mixedGraph other := by
  obtain ⟨_, _, _, scheduled, contains, reordered⟩ := build_contents build_mixedRecords
  exact ⟨build_mixedRecords, (scheduled _).mp ⟨1, by with_unfolding_all rfl, rfl⟩,
    ((contains _).mp ⟨4, _, rfl, by with_unfolding_all rfl, rfl⟩).1,
    reordered _ fun _ => List.mem_reverse⟩

end DependencyGraph

end SchemaPlan
