import SchemaPlan.Proofs.Graph.Renumbering

/-!
# What contains what

A node may be placed many times, as the object of a record, as a dependency and as
the package around another node, and each time it is put into a container or left in
the one that it is in.  All of them agree, because a container is chosen by the key
alone: the root level for a key outside all packages, and the node of the package for
a member.  The node of a package is outside all packages itself, so nothing is nested
deeper than that.

Who contains whom is therefore told by the keys (`Arranged.isWithin_iff`), and it is
the same whatever the order of the records was (`build_containers`).
-/

set_option autoImplicit false

namespace SchemaPlan.DependencyGraph

variable {config : GraphConfig} {edges : List Edge} {graph : DependencyGraph} {id : Nat}
  {node : Node} {key : ObjectKey} {package : String}

/-- The object of a key is contained in the object of another key, or in nothing but the
root level. -/
inductive IsWithin (graph : DependencyGraph) (key : ObjectKey) : Option ObjectKey → Prop
  | atRoot {id : Nat} {node : Node} (found : graph.node? id = some node) (isKey : node.key = key)
      (held : node.container = some .root) : IsWithin graph key none
  | inPackage {id outer : Nat} {node container : Node} (found : graph.node? id = some node)
      (isKey : node.key = key) (held : node.container = some (.package outer))
      (isOuter : graph.node? outer = some container) : IsWithin graph key (some container.key)

/-! ## Containers by keys -/

/-- In an arranged graph every node is in the container that its key asks for. -/
theorem Arranged.exists_suits (arranged : graph.Arranged [])
    (found : graph.node? id = some node) :
    ∃ container, node.container = some container ∧ graph.Suits node.key container := by
  obtain ⟨_, inPlace | ⟨_, loose⟩⟩ := arranged id node found
  · exact inPlace
  · cases loose

/-- **What is outside all packages is at the root level.** -/
theorem Arranged.container_of_outside (arranged : graph.Arranged [])
    (found : graph.node? id = some node) (outside : node.key.package? = none) :
    node.container = some .root := by
  obtain ⟨container, held, suits⟩ := arranged.exists_suits found
  cases container with
  | root => exact held
  | package outer =>
      obtain ⟨_, inside, _⟩ := suits
      cases outside.symm.trans inside

theorem Arranged.container_eq_root_iff (arranged : graph.Arranged [])
    (found : graph.node? id = some node) :
    node.container = some .root ↔ node.key.package = rootPackage := by
  have outside_iff : node.key.package? = none ↔ node.key.package = rootPackage :=
    ObjectKey.package?_eq_none.trans beq_iff_eq
  constructor
  · intro held
    obtain ⟨container, alsoHeld, suits⟩ := arranged.exists_suits found
    obtain rfl := Option.some.inj (held.symm.trans alsoHeld)
    exact outside_iff.mp suits
  · exact fun outside => arranged.container_of_outside found (outside_iff.mpr outside)

/-- **A member of a package is in the node of the package**, which is at the root level. -/
theorem Arranged.container_of_member (arranged : graph.Arranged [])
    (found : graph.node? id = some node) (inside : node.key.package? = some package) :
    ∃ outer container, node.container = some (.package outer) ∧
      graph.node? outer = some container ∧ container.key = .packageNode package ∧
      container.container = some .root := by
  obtain ⟨place, held, suits⟩ := arranged.exists_suits found
  cases place with
  | root => cases inside.symm.trans suits
  | package outer =>
      obtain ⟨other, alsoInside, isOuter⟩ := suits
      obtain rfl := Option.some.inj (inside.symm.trans alsoInside)
      obtain ⟨container, foundOuter, isPackage⟩ := key?_eq_some.mp isOuter
      have outside : container.key.package? = none := by
        rw [isPackage, ObjectKey.package?_eq_none]
        exact isRootLevel_packageNode package
      exact ⟨outer, container, held, foundOuter, isPackage,
        arranged.container_of_outside foundOuter outside⟩

/-- **Containment is told by the keys**: every key of the graph is in its package, or at
the root level if it is outside all packages. -/
theorem Arranged.isWithin_iff (arranged : graph.Arranged []) {outer : Option ObjectKey} :
    graph.IsWithin key outer ↔ key ∈ graph.keys ∧ outer = key.package?.map .packageNode := by
  constructor
  · intro within
    cases within with
    | atRoot found isKey held =>
        refine ⟨isKey ▸ mem_keys_of_node? found, ?_⟩
        obtain ⟨container, alsoHeld, suits⟩ := arranged.exists_suits found
        obtain rfl := Option.some.inj (held.symm.trans alsoHeld)
        rw [← isKey, show _ = none from suits, Option.map_none]
    | inPackage found isKey held isOuter =>
        refine ⟨isKey ▸ mem_keys_of_node? found, ?_⟩
        obtain ⟨container, alsoHeld, suits⟩ := arranged.exists_suits found
        obtain rfl := Option.some.inj (held.symm.trans alsoHeld)
        obtain ⟨package, inside, alsoOuter⟩ := suits
        obtain ⟨other, alsoIsOuter, isPackage⟩ := key?_eq_some.mp alsoOuter
        obtain rfl := Option.some.inj (isOuter.symm.trans alsoIsOuter)
        rw [← isKey, inside, Option.map_some, isPackage]
  · rintro ⟨member, rfl⟩
    obtain ⟨id, isNode⟩ := mem_keys_iff.mp member
    obtain ⟨node, found, rfl⟩ := key?_eq_some.mp isNode
    cases inside : node.key.package? with
    | none => exact .atRoot found rfl (arranged.container_of_outside found inside)
    | some package =>
        obtain ⟨outer, container, held, isOuter, isPackage, _⟩ :=
          arranged.container_of_member found inside
        rw [Option.map_some, ← isPackage]
        exact .inPackage found rfl held isOuter

/-! ## Graphs of records -/

/-- A package in stored form has the node of that very name. -/
theorem packageNode_of_isMade (made : key.IsMade) (inside : key.package? = some package) :
    ObjectKey.packageNode package = ⟨.package, rootPackage, package⟩ := by
  obtain ⟨_, rfl⟩ := ObjectKey.isRootLevel_of_package?_eq_some inside
  rw [packageNode_eq, canonical_of_normalizePackage made.normalizePackage_eq]

/-- What is contained in what does not depend on the order of the records. -/
theorem Alike.isWithin_iff {other : DependencyGraph} {outer : Option ObjectKey}
    (alike : Alike graph other) : graph.IsWithin key outer ↔ other.IsWithin key outer := by
  rw [alike.arranged.isWithin_iff, alike.alsoArranged.isWithin_iff, alike.keys]

/-- **Containment is determined by identity.**  A node of a graph of records is at the root
level exactly when it is outside all packages.  Otherwise it is in the one node that has
the name of its package, and that node is at the root level.  The same records in
another order lead to the same containment. -/
theorem build_containers (keysMade : ∀ edge ∈ edges, edge.status = .ok → edge.KeysMade)
    (made : build config edges = .ok graph) :
    (∀ id node, graph.node? id = some node →
      (node.container = some .root ↔ node.key.package = rootPackage) ∧
      (node.key.package ≠ rootPackage → ∃ outer container,
        node.container = some (.package outer) ∧ graph.node? outer = some container ∧
        container.key = .packageNode node.key.package ∧
        container.key = ⟨.package, rootPackage, node.key.package⟩ ∧
        container.container = some .root ∧
        ∀ id other, graph.node? id = some other → other.key = container.key → id = outer)) ∧
    ∀ others, (∀ edge, edge ∈ others ↔ edge ∈ edges) →
      ∃ other, build config others = .ok other ∧
        ∀ key outer, graph.IsWithin key outer ↔ other.IsWithin key outer := by
  have reflects := reflects_ofEdges (build_eq_ok_iff.mp made).1
  have arranged := reflects.arranged
  refine ⟨fun id node found => ⟨arranged.container_eq_root_iff found, fun packaged => ?_⟩,
    fun others same => ?_⟩
  · have inside : node.key.package? = some node.key.package :=
      if_neg fun rootLevel => packaged (beq_iff_eq.mp rootLevel)
    have stored := packageNode_of_isMade
      (reflects.isMade_of_mem_keys keysMade (mem_keys_of_node? found)) inside
    obtain ⟨outer, container, held, isOuter, isPackage, atRoot⟩ :=
      arranged.container_of_member found inside
    refine ⟨outer, container, held, isOuter, isPackage, isPackage.trans stored, atRoot,
      fun id other alsoFound sameKey => ?_⟩
    exact reflects.built.toProper.eq_of_key? (key?_eq_some.mpr ⟨other, alsoFound, sameKey⟩)
      (key?_eq_some.mpr ⟨container, isOuter, rfl⟩)
  · obtain ⟨other, alsoMade⟩ := exists_build_congr same made
    have alsoReflects := reflects_ofEdges (build_eq_ok_iff.mp alsoMade).1
    exact ⟨other, alsoMade, fun _ _ => (alike_of_reflects reflects alsoReflects same).isWithin_iff⟩

theorem keysMade_mixedRecords : ∀ edge ∈ mixedRecords, edge.KeysMade := by
  have required := @Edge.keysMade_requires
  simp only [mixedRecords, List.forall_mem_cons]
  exact ⟨required (ObjectKey.isMade_new _ _ _) (ObjectKey.isMade_new _ _ _),
    required (ObjectKey.isMade_new _ _ _) (ObjectKey.isMade_new _ _ _),
    required (ObjectKey.isMade_new _ _ _) (ObjectKey.isMade_new _ _ _),
    required (ObjectKey.isMade_new _ _ _) (ObjectKey.isMade_new _ _ _),
    ⟨ObjectKey.isMade_new _ _ _, fun _ nothing => by cases nothing⟩,
    fun _ none => by cases none⟩

/-- The procedure is in the node that is there only to contain it, and it still is if the
records are read backwards. -/
theorem build_containers_mixedRecords :
    (∀ edge ∈ mixedRecords, edge.status = .ok → edge.KeysMade) ∧
    build {} mixedRecords = .ok mixedGraph ∧
    mixedGraph.IsWithin (.new .procedure "BILL" "POST") (some ⟨.package, "NONE", "BILL"⟩) ∧
    ∃ other, build {} mixedRecords.reverse = .ok other ∧
      other.IsWithin (.new .procedure "BILL" "POST") (some ⟨.package, "NONE", "BILL"⟩) := by
  have keysMade : ∀ edge ∈ mixedRecords, edge.status = .ok → edge.KeysMade :=
    fun edge member _ => keysMade_mixedRecords edge member
  obtain ⟨contained, reordered⟩ := build_containers keysMade build_mixedRecords
  have found : mixedGraph.node? 3 =
      some ⟨.new .procedure "BILL" "POST", some "B", some (.package 4), .skip, false⟩ := rfl
  have within : mixedGraph.IsWithin (.new .procedure "BILL" "POST")
      (some ⟨.package, "NONE", "BILL"⟩) := by
    obtain ⟨outer, container, held, isOuter, _, isPackage, _⟩ :=
      (contained 3 _ found).2 (by with_unfolding_all decide)
    have isBill : container.key = ⟨.package, "NONE", "BILL"⟩ :=
      isPackage.trans (by with_unfolding_all rfl)
    exact isBill ▸ .inPackage found rfl held isOuter
  obtain ⟨other, alsoMade, same⟩ := reordered _ fun _ => List.mem_reverse
  exact ⟨keysMade, build_mixedRecords, within, other, alsoMade, (same _ _).mp within⟩

end SchemaPlan.DependencyGraph
