import SchemaPlan.Delivery.Classification
import SchemaPlan.Proofs.Graph.Cycle
import SchemaPlan.Proofs.Graph.Shape

/-!
# What a delivered object requires

The delivered nodes are closed under inheriting.  So when a node is delivered,
everything it requires either was to be delivered anyway, or inherits the
delivery, or is missing, or is held back because its package is named by the
selection.  In the last case the package is one of those that are never
delivered: a package that is named for delivery starts out delivered.
-/

set_option autoImplicit false

namespace SchemaPlan

namespace DependencyGraph

variable {graph : DependencyGraph} {selection : Selection}

/-! ## Statuses -/

theorem node?_assignStatuses {status : Nat → Node → NodeStatus} {id : Nat} :
    (graph.assignStatuses status).node? id =
      (graph.node? id).map fun node => { node with status := status id node } := by
  rw [node?, node?, assignStatuses, List.getElem?_mapIdx]

theorem keys_assignStatuses (graph : DependencyGraph) (status : Nat → Node → NodeStatus) :
    (graph.assignStatuses status).keys = graph.keys := by
  refine List.ext_getElem? fun place => ?_
  rw [keys, keys, assignStatuses, List.getElem?_map, List.getElem?_map, List.getElem?_mapIdx,
    Option.map_map]
  rfl

/-- Statuses are no part of the shape of a graph. -/
theorem keeps_assignStatuses (graph : DependencyGraph) (status : Nat → Node → NodeStatus) :
    Keeps graph (graph.assignStatuses status) := by
  have sameKeys := graph.keys_assignStatuses status
  refine ⟨sameKeys ▸ List.prefix_refl _, fun id here => ?_, rfl, fun nodup => sameKeys ▸ nodup⟩
  obtain ⟨node, found, real⟩ := isScheduled_iff.mp here
  refine isScheduled_iff.mpr ⟨{ node with status := status id node }, ?_, real⟩
  rw [node?_assignStatuses, found, Option.map_some]

theorem hasStatus_iff {status : NodeStatus} {id : Nat} :
    graph.hasStatus status id = true ↔
      ∃ node, graph.node? id = some node ∧ node.status = status := by
  simp [hasStatus, Option.any_eq_true]

theorem inherits_iff {id : Nat} :
    graph.inherits selection id = true ↔ ∃ node, graph.node? id = some node ∧
      node.status = .skip ∧ selection.fixes node.key = false := by
  simp [inherits, Option.any_eq_true]

/-! ## Delivery -/

/-- A node is delivered when a chain of inheriting nodes leads to it from one
that was to be delivered anyway. -/
theorem mem_delivered (proper : graph.Proper) {id : Nat} :
    id ∈ graph.delivered selection ↔ ∃ first, graph.hasStatus .install first = true ∧
      Relation.ReflTransGen
        (Leads fun id => (graph.requiredBy id).filter (graph.inherits selection)) first id := by
  rw [delivered, mem_reachable_iff]
  · constructor
    · rintro ⟨first, member, steps⟩
      exact ⟨first, (List.mem_filter.mp member).2, steps⟩
    · rintro ⟨first, installed, steps⟩
      obtain ⟨node, found, _⟩ := hasStatus_iff.mp installed
      have inside := List.mem_range.mpr (lt_length_of_node? found)
      exact ⟨first, List.mem_filter.mpr ⟨inside, installed⟩, steps⟩
  · intro id other neighbour
    obtain ⟨pair, required, rfl⟩ := List.mem_map.mp (List.mem_of_mem_filter neighbour)
    exact (proper.inside pair (List.mem_of_mem_filter required)).2

theorem mem_delivered_of_requires (proper : graph.Proper) {object dependency : Nat}
    (delivered : object ∈ graph.delivered selection)
    (required : (object, dependency) ∈ graph.requires)
    (inherits : graph.inherits selection dependency = true) :
    dependency ∈ graph.delivered selection := by
  obtain ⟨first, installed, steps⟩ := (mem_delivered proper).mp delivered
  refine (mem_delivered proper).mpr ⟨first, installed, steps.tail ?_⟩
  refine List.mem_filter.mpr ⟨?_, inherits⟩
  exact List.mem_map.mpr ⟨(object, dependency), List.mem_filter.mpr ⟨required, by simp⟩, rfl⟩

theorem node?_promote {id : Nat} :
    (graph.promote selection).node? id = (graph.node? id).map fun node =>
      { node with
        status := if (graph.delivered selection).contains id then .install else node.status } :=
  node?_assignStatuses

/-- What is to be delivered in the end is exactly what is delivered. -/
theorem mem_delivered_of_install (proper : graph.Proper) {id : Nat}
    (installed : (graph.promote selection).hasStatus .install id = true) :
    id ∈ graph.delivered selection := by
  obtain ⟨node, found, isInstall⟩ := hasStatus_iff.mp installed
  rw [node?_promote] at found
  obtain ⟨before, wasThere, rfl⟩ := Option.map_eq_some_iff.mp found
  by_cases member : id ∈ graph.delivered selection
  · exact member
  · rw [if_neg (by simpa using member)] at isInstall
    exact (mem_delivered proper).mpr ⟨id, hasStatus_iff.mpr ⟨before, wasThere, isInstall⟩, .refl⟩

/-- A node that is required by a delivered one is delivered, missing, or held
back by the selection since before. -/
theorem status_of_required (proper : graph.Proper) {object dependency : Nat} {node : Node}
    (installed : (graph.promote selection).hasStatus .install object = true)
    (required : (object, dependency) ∈ graph.requires)
    (found : (graph.promote selection).node? dependency = some node) :
    node.status = .install ∨ node.status = .missing ∨
      node.status = .skip ∧ selection.fixes node.key = true ∧
        ∃ before, graph.node? dependency = some before ∧ before.key = node.key ∧
          before.status = .skip := by
  have delivered := mem_delivered_of_install proper installed
  rw [node?_promote] at found
  obtain ⟨before, wasThere, rfl⟩ := Option.map_eq_some_iff.mp found
  by_cases member : dependency ∈ graph.delivered selection
  · exact .inl (if_pos (by simpa using member))
  · rw [if_neg (by simpa using member)]
    cases status : before.status with
    | install => exact .inl rfl
    | missing => exact .inr (.inl rfl)
    | skip =>
        refine .inr (.inr ⟨rfl, ?_, before, wasThere, rfl, status⟩)
        by_contra free
        rw [Bool.not_eq_true] at free
        exact member (mem_delivered_of_requires proper delivered required
          (inherits_iff.mpr ⟨before, wasThere, status, free⟩))

end DependencyGraph

namespace Selection

variable {selection : Selection} {missing : OrderedSet ObjectKey}

/-- An object that is held back from the start although its package is named
belongs to a package that is never delivered. -/
theorem skip_of_initialStatus {key : ObjectKey}
    (skipped : selection.initialStatus missing key = .skip)
    (fixed : selection.fixes key = true) :
    ∃ package, key.deliveryPackage? = some package ∧ package ∈ selection.skip := by
  obtain ⟨package, isPackage, named⟩ := (Option.any_eq_true _ _).mp fixed
  refine ⟨package, isPackage, ?_⟩
  by_contra notSkipped
  have chosen : selection.install.contains package = true := by
    simpa [isIndependent, OrderedSet.contains, notSkipped] using named
  simp [initialStatus, isPackage, OrderedSet.contains, notSkipped] at skipped
  simp [OrderedSet.contains] at chosen
  simp [chosen] at skipped
  split at skipped <;> cases skipped

theorem classify_eq_ok {graph after : DependencyGraph} {summary : Summary}
    (done : selection.classify missing graph = .ok (after, summary)) :
    after = (selection.preclassify missing graph).promote selection := by
  obtain ⟨_, _, rest⟩ := Outcome.bind_eq_ok.mp done
  exact (Prod.mk.inj (Outcome.pure_eq_ok.mp rest)).1.symm

/-- Classification leaves the keys as they are. -/
theorem keys_classify {graph after : DependencyGraph} {summary : Summary}
    (done : selection.classify missing graph = .ok (after, summary)) : after.keys = graph.keys := by
  rw [classify_eq_ok done]
  exact (DependencyGraph.keys_assignStatuses _ _).trans (DependencyGraph.keys_assignStatuses _ _)

theorem built_classify {graph after : DependencyGraph} {summary : Summary}
    (built : graph.Built) (done : selection.classify missing graph = .ok (after, summary)) :
    after.Built := by
  rw [classify_eq_ok done]
  exact ((DependencyGraph.keeps_assignStatuses graph _).trans
    (DependencyGraph.keeps_assignStatuses _ _)).built built

/-- **What a delivered object requires** is delivered, or missing, or belongs to
a package that is never delivered. -/
theorem status_of_required {graph after : DependencyGraph} {summary : Summary}
    (proper : graph.Proper) (done : selection.classify missing graph = .ok (after, summary))
    {object dependency : Nat} {node : Node}
    (installed : after.hasStatus .install object = true)
    (required : (object, dependency) ∈ after.requires)
    (found : after.node? dependency = some node) :
    node.status = .install ∨ node.status = .missing ∨
      node.status = .skip ∧
        ∃ package, node.key.deliveryPackage? = some package ∧ package ∈ selection.skip := by
  have same := classify_eq_ok done
  subst same
  have preclassified : (selection.preclassify missing graph).Proper :=
    (DependencyGraph.keeps_assignStatuses graph _).proper proper
  rcases DependencyGraph.status_of_required preclassified installed required found with
    isInstall | isMissing | ⟨isSkip, fixed, before, wasThere, sameKey, wasSkip⟩
  · exact .inl isInstall
  · exact .inr (.inl isMissing)
  · rw [preclassify, DependencyGraph.node?_assignStatuses] at wasThere
    obtain ⟨bare, _, rfl⟩ := Option.map_eq_some_iff.mp wasThere
    simp only at sameKey wasSkip
    rw [sameKey] at wasSkip
    exact .inr (.inr ⟨isSkip, skip_of_initialStatus wasSkip fixed⟩)

end Selection

end SchemaPlan
