import SchemaPlan.Proofs.Delivery.Inheritance

/-!
# The status of every node

The statuses that classification gives can be told without any run.  A node is
missing when its key is.  The delivered nodes are the least set that holds every
node that the selection delivers and that passes delivery on to what a node of
the set requires, as long as the selection skips it and names no package for it
(`Delivers`).  All other nodes are skipped.

An acyclic graph is always classified, whatever the order in which the delivery
is handed down, and the summary counts the statuses of the scheduled nodes and
the nodes that have inherited (`classify_ofChanges`).
-/

set_option autoImplicit false

namespace SchemaPlan

/-- A node apart from its status. -/
def Node.unclassified (node : Node) : Node := { node with status := .skip }

/-- What the selection decides about a node that inherits nothing. -/
def Selection.DecidesFirst (selection : Selection) (missing : OrderedSet ObjectKey)
    (graph : DependencyGraph) (id : Nat) (status : NodeStatus) : Prop :=
  ∃ node, graph.node? id = some node ∧ selection.initialStatus missing node.key = status

/-- The selection names the package that a node is delivered with. -/
def Selection.NamesPackageOf (selection : Selection) (graph : DependencyGraph) (id : Nat) : Prop :=
  ∃ node package, graph.node? id = some node ∧ node.key.deliveryPackage? = some package ∧
    (package ∈ selection.install ∨ package ∈ selection.skip)

/-- The nodes that are delivered. -/
inductive Selection.Delivers (selection : Selection) (missing : OrderedSet ObjectKey)
    (graph : DependencyGraph) : Nat → Prop
  | chosen {id : Nat} (decided : selection.DecidesFirst missing graph id .install) :
      Delivers selection missing graph id
  | inherited {object dependency : Nat} (delivers : Delivers selection missing graph object)
      (required : graph.Requires object dependency)
      (decided : selection.DecidesFirst missing graph dependency .skip)
      (free : ¬ selection.NamesPackageOf graph dependency) :
      Delivers selection missing graph dependency

/-- A graph and a summary say of each node of another graph what becomes of it. -/
structure Selection.Classifies (selection : Selection) (missing : OrderedSet ObjectKey)
    (graph after : DependencyGraph) (summary : Summary) : Prop where
  /-- Only statuses are changed. -/
  nodes : after.nodes.map (·.unclassified) = graph.nodes.map (·.unclassified)
  requires : after.requires = graph.requires
  missing_iff : ∀ id node, after.node? id = some node →
    (node.status = .missing ↔ node.key ∈ missing)
  install_iff : ∀ id, after.hasStatus .install id = true ↔ selection.Delivers missing graph id
  skip_iff : ∀ id node, after.node? id = some node →
    (node.status = .skip ↔ node.key ∉ missing ∧ ¬ selection.Delivers missing graph id)
  countInstall : summary.install =
    after.scheduledNodes.countP fun node => decide (node.status = .install)
  countSkip : summary.skip =
    after.scheduledNodes.countP fun node => decide (node.status = .skip)
  countMissing : summary.missing =
    after.scheduledNodes.countP fun node => decide (node.status = .missing)
  countAll : summary.install + summary.skip + summary.missing = graph.scheduledNodes.length
  /-- The nodes that the selection skips and that are delivered all the same. -/
  countInherited : ∃ inherited : List Nat, inherited.Nodup ∧ summary.inherited = inherited.length ∧
    ∀ id, id ∈ inherited ↔
      selection.DecidesFirst missing graph id .skip ∧ after.hasStatus .install id = true

namespace Selection

open DependencyGraph

variable {selection : Selection} {missing : OrderedSet ObjectKey} {graph : DependencyGraph}

/-! ## Before anything is inherited -/

theorem node?_preclassify {id : Nat} :
    (selection.preclassify missing graph).node? id = (graph.node? id).map fun node =>
      { node with status := selection.initialStatus missing node.key } :=
  node?_assignStatuses

theorem hasStatus_preclassify {status : NodeStatus} {id : Nat} :
    (selection.preclassify missing graph).hasStatus status id = true ↔
      selection.DecidesFirst missing graph id status := by
  rw [hasStatus_iff, node?_preclassify, DecidesFirst]
  cases graph.node? id <;> simp

theorem fixes_iff {key : ObjectKey} :
    selection.fixes key = true ↔ ∃ package, key.deliveryPackage? = some package ∧
      (package ∈ selection.install ∨ package ∈ selection.skip) := by
  simp [fixes, isIndependent, OrderedSet.contains, Option.any_eq_true]

theorem inherits_preclassify {id : Nat} :
    (selection.preclassify missing graph).inherits selection id = true ↔
      selection.DecidesFirst missing graph id .skip ∧ ¬ selection.NamesPackageOf graph id := by
  rw [inherits_iff, node?_preclassify, DecidesFirst, NamesPackageOf]
  cases found : graph.node? id with
  | none => simp
  | some node =>
      simp only [Option.map_some, Option.some.injEq, exists_eq_left', exists_and_left,
        ← Bool.not_eq_true, fixes_iff]

/-- A key is missing before anything is inherited exactly when it is missing. -/
theorem initialStatus_eq_missing {key : ObjectKey} :
    selection.initialStatus missing key = .missing ↔ key ∈ missing := by
  rw [initialStatus, OrderedSet.contains]
  by_cases isMissing : key ∈ missing
  · rw [if_pos (decide_eq_true isMissing)]
    exact iff_of_true rfl isMissing
  · rw [if_neg (by simpa using isMissing)]
    refine iff_of_false ?_ isMissing
    split
    · decide
    · split
      · decide
      · split <;> decide

/-! ## What is delivered -/

/-- **The delivered nodes are the least set** that the rules allow. -/
theorem mem_delivered_preclassify (proper : graph.Proper) {id : Nat} :
    id ∈ (selection.preclassify missing graph).delivered selection ↔
      selection.Delivers missing graph id := by
  have before : (selection.preclassify missing graph).Proper :=
    (keeps_assignStatuses graph _).proper proper
  constructor
  · intro delivered
    obtain ⟨first, installed, steps⟩ := (mem_delivered before).mp delivered
    induction steps with
    | refl => exact .chosen (hasStatus_preclassify.mp installed)
    | @tail source target way last ih =>
        obtain ⟨required, inherits⟩ := List.mem_filter.mp last
        obtain ⟨decided, free⟩ := inherits_preclassify.mp inherits
        exact .inherited (ih ((mem_delivered before).mpr ⟨first, installed, way⟩))
          (mem_requiredBy.mp required) decided free
  · intro delivers
    induction delivers with
    | chosen decided =>
        exact (mem_delivered_iff before).mpr (.inl (hasStatus_preclassify.mpr decided))
    | inherited _ required decided free ih =>
        exact mem_delivered_of_requires before ih required
          (inherits_preclassify.mpr ⟨decided, free⟩)

/-- What is missing is not delivered. -/
theorem Delivers.not_missing {id : Nat} (delivers : selection.Delivers missing graph id)
    {node : Node} (found : graph.node? id = some node) : node.key ∉ missing := by
  have decided : ∃ status, selection.DecidesFirst missing graph id status ∧ status ≠ .missing := by
    cases delivers with
    | chosen decided => exact ⟨_, decided, by decide⟩
    | inherited _ _ decided _ => exact ⟨_, decided, by decide⟩
  obtain ⟨status, ⟨other, alsoFound, isStatus⟩, notMissing⟩ := decided
  obtain rfl := Option.some.inj (found.symm.trans alsoFound)
  exact fun isMissing => notMissing (isStatus ▸ initialStatus_eq_missing.mpr isMissing)

/-! ## The graph after classification -/

/-- The graph that classification makes of an acyclic one. -/
def classified (selection : Selection) (missing : OrderedSet ObjectKey)
    (graph : DependencyGraph) : DependencyGraph :=
  (selection.preclassify missing graph).promote selection

theorem proper_preclassify (proper : graph.Proper) :
    (selection.preclassify missing graph).Proper :=
  (keeps_assignStatuses graph _).proper proper

theorem install_classified_iff (proper : graph.Proper) {id : Nat} :
    (selection.classified missing graph).hasStatus .install id = true ↔
      selection.Delivers missing graph id := by
  rw [classified, hasStatus_promote (proper_preclassify proper), mem_delivered_preclassify proper]

theorem missing_classified_iff (proper : graph.Proper) {id : Nat} {node : Node}
    (found : (selection.classified missing graph).node? id = some node) :
    node.status = .missing ↔ node.key ∈ missing := by
  rw [classified, node?_promote, node?_preclassify, Option.map_map] at found
  obtain ⟨bare, wasThere, rfl⟩ := Option.map_eq_some_iff.mp found
  rw [Function.comp_apply]
  dsimp only
  split
  · next listed =>
    have delivers := (mem_delivered_preclassify proper).mp (List.contains_iff_mem.mp listed)
    exact iff_of_false (by decide) (delivers.not_missing wasThere)
  · exact initialStatus_eq_missing

/-- What is neither missing nor delivered is skipped. -/
theorem skip_classified_iff (proper : graph.Proper) {id : Nat} {node : Node}
    (found : (selection.classified missing graph).node? id = some node) :
    node.status = .skip ↔ node.key ∉ missing ∧ ¬ selection.Delivers missing graph id := by
  have isInstall : selection.Delivers missing graph id ↔ node.status = .install := by
    rw [← install_classified_iff proper, hasStatus_iff, found]
    simp
  rw [← missing_classified_iff proper found, isInstall]
  cases node.status <;> decide

end Selection

/-! ## Counting -/

namespace DependencyGraph

variable {graph : DependencyGraph}

theorem map_unclassified_assignStatuses (status : Nat → Node → NodeStatus) :
    (graph.assignStatuses status).nodes.map (·.unclassified) =
      graph.nodes.map (·.unclassified) := by
  refine List.ext_getElem? fun id => ?_
  rw [assignStatuses, List.getElem?_map, List.getElem?_mapIdx, Option.map_map, List.getElem?_map]
  rfl

/-- Which nodes are scheduled does not depend on statuses. -/
theorem length_scheduledNodes_congr {other : DependencyGraph}
    (same : other.nodes.map (·.unclassified) = graph.nodes.map (·.unclassified)) :
    other.scheduledNodes.length = graph.scheduledNodes.length := by
  have read : ∀ nodes : List Node, (nodes.filter fun node => !node.isPlaceholder).length =
      ((nodes.map (·.unclassified)).filter fun node => !node.isPlaceholder).length := by
    intro nodes
    rw [List.filter_map, List.length_map]
    rfl
  rw [scheduledNodes, scheduledNodes, read, read graph.nodes, same]

theorem countStatus_scheduled (graph : DependencyGraph) (status : NodeStatus) :
    graph.countStatus status graph.scheduled =
      graph.scheduledNodes.countP fun node => decide (node.status = status) := by
  rw [← filterMap_node?_scheduled, List.countP_filterMap, countStatus]
  congr 1
  funext id
  rw [hasStatus]
  cases graph.node? id <;> rfl

/-- Every node is counted under one status. -/
theorem countP_status_add (nodes : List Node) :
    (nodes.countP fun node => decide (node.status = .install)) +
      (nodes.countP fun node => decide (node.status = .skip)) +
      (nodes.countP fun node => decide (node.status = .missing)) = nodes.length := by
  induction nodes with
  | nil => rfl
  | cons node rest ih =>
      rw [List.countP_cons, List.countP_cons, List.countP_cons, List.length_cons, ← ih]
      cases node.status <;> simp <;> omega

theorem ids_assignStatuses (status : Nat → Node → NodeStatus) :
    (graph.assignStatuses status).ids = graph.ids := by
  rw [ids, assignStatuses, List.length_mapIdx, ids]

/-- The delivered nodes that were not delivered before are those that were to be
skipped. -/
theorem countStatus_promote (proper : graph.Proper) (selection : Selection) :
    (graph.promote selection).countStatus .install graph.ids =
      graph.countStatus .install graph.ids + graph.ids.countP fun id =>
        graph.hasStatus .skip id && (graph.promote selection).hasStatus .install id := by
  rw [countStatus, countStatus, List.countP_eq_countP_filter_add _ _ (graph.hasStatus .install),
    List.countP_filter, List.countP_filter]
  have delivered : ∀ id, (graph.promote selection).hasStatus .install id = true ↔
      graph.hasStatus .install id = true ∨
        (graph.hasStatus .skip id && (graph.promote selection).hasStatus .install id) = true := by
    intro id
    rw [inherits_and_delivered_iff proper, hasStatus_promote proper, mem_delivered_iff proper]
  have apart : ∀ id, graph.hasStatus .skip id = true → graph.hasStatus .install id = false := by
    intro id skipped
    obtain ⟨node, found, isSkip⟩ := hasStatus_iff.mp skipped
    rw [hasStatus, found, Option.any_some, isSkip]
    rfl
  congr 1
  · refine List.countP_congr fun id _ => ?_
    rw [Bool.and_eq_true, delivered id]
    exact ⟨fun both => both.2, fun installed => ⟨.inl installed, installed⟩⟩
  · refine List.countP_congr fun id _ => ?_
    rw [Bool.and_eq_true, Bool.not_eq_true', delivered id]
    constructor
    · rintro ⟨installed | inherited, new⟩
      · exact absurd installed (by rw [new]; decide)
      · exact inherited
    · exact fun inherited => ⟨.inr inherited, apart id (Bool.and_eq_true _ _ ▸ inherited).1⟩

/-- The nodes that are said to have inherited are those that do when the delivery
is handed down. -/
theorem inherited_summary_promote (proper : graph.Proper) (selection : Selection) :
    (graph.summary (graph.promote selection)).inherited = graph.ids.countP fun id =>
      graph.hasStatus .skip id && (graph.promote selection).hasStatus .install id := by
  have sameIds : (graph.promote selection).ids = graph.ids := ids_assignStatuses _
  rw [summary, sameIds, countStatus_promote proper, Nat.add_sub_cancel_left]

/-- Statuses do not matter to the orders of all nodes. -/
theorem Arranges.assignStatuses {order : List Nat} (arranges : graph.Arranges order)
    (status : Nat → Node → NodeStatus) : (graph.assignStatuses status).Arranges order where
  lists := (ids_assignStatuses status).symm ▸ arranges.lists
  dependentsFirst := arranges.dependentsFirst

theorem acyclic_of_lt (ascending : ∀ pair ∈ graph.requires, pair.1 < pair.2) : graph.Acyclic := by
  intro id round
  have upwards : ∀ other, Relation.TransGen graph.Requires id other → id < other := by
    intro other steps
    induction steps with
    | single step => exact ascending _ step
    | tail _ step ih => exact ih.trans (ascending _ step)
  exact Nat.lt_irrefl id (upwards id round)

end DependencyGraph

namespace Selection

open DependencyGraph

variable {selection : Selection} {missing : OrderedSet ObjectKey} {graph : DependencyGraph}

/-- **What becomes of each node** of a graph after classification. -/
theorem classifies_classified (proper : graph.Proper) :
    selection.Classifies missing graph (selection.classified missing graph)
      ((selection.preclassify missing graph).summary (selection.classified missing graph)) := by
  have before := @proper_preclassify selection missing graph proper
  have nodes : (selection.classified missing graph).nodes.map (·.unclassified) =
      graph.nodes.map (·.unclassified) :=
    (map_unclassified_assignStatuses _).trans (map_unclassified_assignStatuses _)
  constructor
  case nodes => exact nodes
  case requires => rfl
  case missing_iff => exact fun id node found => missing_classified_iff proper found
  case install_iff => exact fun id => install_classified_iff proper
  case skip_iff => exact fun id node found => skip_classified_iff proper found
  case countInstall => exact countStatus_scheduled _ _
  case countSkip => exact countStatus_scheduled _ _
  case countMissing => exact countStatus_scheduled _ _
  case countAll =>
    rw [summary, countStatus_scheduled, countStatus_scheduled, countStatus_scheduled,
      countP_status_add, length_scheduledNodes_congr nodes]
  case countInherited =>
    refine ⟨(selection.preclassify missing graph).ids.filter fun id =>
      (selection.preclassify missing graph).hasStatus .skip id &&
        (selection.classified missing graph).hasStatus .install id,
      List.nodup_range.filter _, ?_, fun id => ?_⟩
    · rw [classified, inherited_summary_promote before, List.countP_eq_length_filter]
    · rw [List.mem_filter, Bool.and_eq_true, hasStatus_preclassify]
      refine and_iff_right_of_imp fun both => ?_
      obtain ⟨node, found, _⟩ := hasStatus_iff.mp both.2
      have inside := List.mem_range.mpr (lt_length_of_node? found)
      rwa [classified, promote, assignStatuses, List.length_mapIdx] at inside

/-- An acyclic graph is classified. -/
theorem classify_of_acyclic (proper : graph.Proper) (acyclic : graph.Acyclic) :
    selection.classify missing graph = .ok (selection.classified missing graph,
      (selection.preclassify missing graph).summary (selection.classified missing graph)) := by
  have sameRequires : (selection.preclassify missing graph).Acyclic := acyclic
  rw [classify, ensureAcyclic_of_acyclic (proper_preclassify proper) sameRequires]
  rfl

/-- **Classification of an acyclic graph** that is made by changes.  It succeeds
and gives each node the status that the selection and the missing keys call for.
Handing the delivery down in one pass gives the same graph, and the same number
of nodes that have inherited, in any order of the nodes in which dependents come
before what they require; and there is such an order. -/
theorem classify_ofChanges {selection : Selection} {missing : OrderedSet ObjectKey}
    {changes : List GraphChange} (acyclic : (ofChanges changes).Acyclic) :
    ∃ after summary, selection.classify missing (ofChanges changes) = .ok (after, summary) ∧
      selection.Classifies missing (ofChanges changes) after summary ∧
      (∃ order, (ofChanges changes).Arranges order) ∧
      ∀ order, (ofChanges changes).Arranges order →
        (selection.preclassify missing (ofChanges changes)).handDownAll selection order =
          (after, summary.inherited) := by
  have proper := proper_ofChanges changes
  have before := @proper_preclassify selection missing _ proper
  refine ⟨_, _, classify_of_acyclic proper acyclic, classifies_classified proper,
    acyclic.exists_order proper, fun order arranges => ?_⟩
  rw [handDownAll_eq before (arranges.assignStatuses _), classified,
    inherited_summary_promote before]

/-- A graph of a package for sales.  A procedure of the package requires a procedure
of the ledger, which requires a table and a procedure that is gone; the first one
requires a function of a package for taxes as well.  The function and the lost
procedure require a table each, and the ledger is a placeholder. -/
def salesChanges : List GraphChange :=
  [.addObject (.new .procedure "SALES" "POST") (some "A"),
    .addObject (.new .procedure "LEDGER" "JOURNAL") (some "A"),
    .addObject (.rootLevel .table "LINES") none, .addObject (.new .function "TAX" "RATE") none,
    .addObject (.rootLevel .table "RATES") none, .addObject (.rootLevel .procedure "GONE") none,
    .addObject (.rootLevel .table "DEBTS") none, .addContainer "LEDGER" none,
    .addRequires 0 1, .addRequires 1 2, .addRequires 1 5, .addRequires 0 3, .addRequires 3 4,
    .addRequires 5 6]

/-- Sales are to be delivered and taxes are not. -/
def salesSelection : Selection := ⟨.ofList ["SALES"], .ofList ["TAX"]⟩

/-- The ledger and its table inherit the delivery; what only the function or the
lost procedure requires does not. -/
theorem classify_salesChanges :
    (ofChanges salesChanges).Acyclic ∧ ∃ after,
      salesSelection.classify (.ofList [.rootLevel .procedure "GONE"]) (ofChanges salesChanges) =
        .ok (after, ⟨3, 3, 1, 2⟩) ∧
      after.nodes.map (·.status) =
        [.install, .install, .install, .skip, .skip, .missing, .skip, .skip] ∧
      salesSelection.Classifies (.ofList [.rootLevel .procedure "GONE"]) (ofChanges salesChanges)
        after ⟨3, 3, 1, 2⟩ := by
  have acyclic : (ofChanges salesChanges).Acyclic :=
    acyclic_of_lt (by with_unfolding_all decide)
  obtain ⟨after, summary, done, classifies, _⟩ :=
    @classify_ofChanges salesSelection (.ofList [.rootLevel .procedure "GONE"]) _ acyclic
  have counted : (salesSelection.classify (.ofList [.rootLevel .procedure "GONE"])
      (ofChanges salesChanges)).map (fun result => (result.1.nodes.map (·.status), result.2)) =
      .ok ([.install, .install, .install, .skip, .skip, .missing, .skip, .skip],
        ⟨3, 3, 1, 2⟩) := by
    with_unfolding_all rfl
  rw [done] at counted
  obtain ⟨statuses, rfl⟩ := Prod.mk.inj (Except.ok.inj counted)
  exact ⟨acyclic, after, done, statuses, classifies⟩

end Selection

end SchemaPlan
