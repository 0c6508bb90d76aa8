import Mathlib.Data.String.Basic
import SchemaPlan.Proofs.Collection
import SchemaPlan.Proofs.Graph.Cycle
import SchemaPlan.Proofs.Schedule.Contents

/-!
# When there is a schedule

Nodes are taken until no node is ready.  A scheduled node that is left then has
a scheduled node left that requires it, so going back from it never ends, and
since there are finitely many nodes it lies on a cycle or behind one.
Conversely what is behind a cycle has something before it that is as well, so
the first such node to be taken cannot be ready.

So exactly the nodes behind cycles are left (`mem_rollbackOrder_iff`): there is
a schedule if and only if the scheduled nodes have no cycle, and otherwise the
failure names those nodes (`schedule_ofChanges_iff`).  Placeholders are not
scheduled, so a cycle through one of them does no harm.
-/

set_option autoImplicit false

namespace SchemaPlan.DependencyGraph

open Relation (TransGen ReflTransGen)

variable {graph : DependencyGraph}

/-- One scheduled node requires another. -/
def Orders (graph : DependencyGraph) (object dependency : Nat) : Prop :=
  graph.Requires object dependency ∧ graph.isScheduled object = true ∧
    graph.isScheduled dependency = true

/-- Some scheduled node requires itself through scheduled nodes. -/
def HasScheduledCycle (graph : DependencyGraph) : Prop := ∃ id, TransGen graph.Orders id id

/-- A list of nodes that lists those on or behind a cycle of scheduled nodes, each
once. -/
structure ListsStuck (graph : DependencyGraph) (stuck : List Nat) : Prop where
  distinct : stuck.Nodup
  mem_iff : ∀ id, id ∈ stuck ↔ BehindCycle graph.Orders id

/-! ## What is taken in the end -/

theorem lightest?_eq_none {ready : List Nat} (nothing : graph.lightest? ready = none) :
    ready = [] := by
  cases ready with
  | nil => rfl
  | cons first rest =>
      rw [lightest?] at nothing
      split at nothing
      · cases nothing
      · split at nothing <;> cases nothing

/-- When every scheduled node has been taken, none is ready. -/
theorem Frontier.ready_eq_nil {ready taken : List Nat} (frontier : graph.Frontier ready taken)
    (enough : graph.scheduled.length ≤ taken.length) : ready = [] := by
  have inside : taken ⊆ graph.scheduled := fun id member =>
    mem_scheduled.mpr (frontier.scheduled id (.inr member))
  have all : graph.scheduled ⊆ taken :=
    ((frontier.takenDistinct.subperm inside).perm_of_length_le enough).symm.subset
  refine List.eq_nil_iff_forall_not_mem.mpr fun id member => frontier.apart id member ?_
  exact all (mem_scheduled.mpr (frontier.scheduled id (.inl member)))

/-- Nodes are taken until none is ready, if there may be as many steps as there
are scheduled nodes left. -/
theorem frontier_takeReady_nil {limit : Nat} {ready taken : List Nat} (proper : graph.Proper)
    (frontier : graph.Frontier ready taken)
    (enough : graph.scheduled.length ≤ taken.length + limit) :
    graph.Frontier [] (graph.takeReady limit ready taken) := by
  induction limit generalizing ready taken with
  | zero =>
      rw [takeReady]
      exact frontier.ready_eq_nil enough ▸ frontier
  | succ limit ih =>
      rw [takeReady]
      split
      · next nothing => exact lightest?_eq_none nothing ▸ frontier
      · next id lightest =>
        refine ih (frontier.take proper (lightest?_mem lightest)) ?_
        rw [List.length_append, List.length_singleton]
        omega

/-- In the end a scheduled node has been taken if all scheduled nodes that require
it have. -/
theorem frontier_rollbackOrder_nil (proper : graph.Proper) :
    graph.Frontier [] graph.rollbackOrder :=
  frontier_takeReady_nil proper (frontier_start graph) (by simp)

/-! ## What is left -/

/-- A node behind a cycle never comes after all nodes that require it. -/
theorem DependentsFirst.not_behindCycle {order : List Nat} (first : graph.DependentsFirst order) :
    ∀ id ∈ order, ¬ BehindCycle graph.Orders id := by
  -- The node is the first one behind a cycle, so what comes before it is not.
  have step : ∀ before id after, order = before ++ id :: after →
      (∀ other ∈ before, ¬ BehindCycle graph.Orders other) → ¬ BehindCycle graph.Orders id := by
    intro before id after split free behind
    obtain ⟨object, ⟨required, scheduled, _⟩, alsoBehind⟩ := behind.exists_before
    exact free object (first before id after split object required scheduled) alsoBehind
  have all : ∀ before after, order = before ++ after →
      ∀ other ∈ before, ¬ BehindCycle graph.Orders other := by
    intro before
    induction before using List.reverseRecOn with
    | nil => exact fun _ _ _ member => absurd member List.not_mem_nil
    | append_singleton before id ih =>
        intro after split other member
        rw [List.append_assoc, List.singleton_append] at split
        have free := ih (id :: after) split
        rcases List.mem_append.mp member with old | here
        · exact free other old
        · rw [List.mem_singleton.mp here]
          exact step before id after split free
  exact all order [] (List.append_nil order).symm

/-- **What is taken**: the scheduled nodes that are behind no cycle. -/
theorem mem_rollbackOrder_iff (proper : graph.Proper) {id : Nat} :
    id ∈ graph.rollbackOrder ↔
      graph.isScheduled id = true ∧ ¬ BehindCycle graph.Orders id := by
  have frontier := frontier_rollbackOrder_nil proper
  constructor
  · intro taken
    exact ⟨frontier.scheduled id (.inr taken), frontier.dependentsFirst.not_behindCycle id taken⟩
  · rintro ⟨scheduled, free⟩
    by_contra left
    let remaining := graph.scheduled.filter fun other => !graph.rollbackOrder.contains other
    have mem_remaining : ∀ other, other ∈ remaining ↔
        graph.isScheduled other = true ∧ other ∉ graph.rollbackOrder := by
      intro other
      simp [remaining, mem_scheduled]
    refine free (exists_cycle_behind (fun other isLeft => ?_)
      ((mem_remaining id).mpr ⟨scheduled, left⟩))
    obtain ⟨otherScheduled, notTaken⟩ := (mem_remaining other).mp isLeft
    have notReady : ¬ graph.isReady graph.rollbackOrder other = true := fun ready =>
      (frontier.complete other otherScheduled ready).elim List.not_mem_nil notTaken
    rw [isReady_iff] at notReady
    push Not at notReady
    obtain ⟨object, required, objectScheduled, objectLeft⟩ := notReady
    exact ⟨object, (mem_remaining object).mpr ⟨objectScheduled, objectLeft⟩, required,
      objectScheduled, otherScheduled⟩

theorem isScheduled_of_behindCycle {id : Nat} (behind : BehindCycle graph.Orders id) :
    graph.isScheduled id = true := by
  obtain ⟨_, ⟨_, _, scheduled⟩, _⟩ := behind.exists_before
  exact scheduled

/-- **What is left** when nothing is ready any more. -/
theorem listsStuck_remaining (proper : graph.Proper) :
    graph.ListsStuck (graph.scheduled.filter fun id => !graph.rollbackOrder.contains id) := by
  refine ⟨(List.nodup_range.filter _).filter _, fun id => ?_⟩
  rw [List.mem_filter, mem_scheduled, Bool.not_eq_true', ← Bool.not_eq_true,
    List.contains_iff_mem, mem_rollbackOrder_iff proper]
  constructor
  · rintro ⟨scheduled, notTaken⟩
    by_contra free
    exact notTaken ⟨scheduled, free⟩
  · intro behind
    exact ⟨isScheduled_of_behindCycle behind, fun taken => taken.2 behind⟩

/-- As many nodes are taken as there are scheduled nodes besides those left. -/
theorem length_rollbackOrder (proper : graph.Proper) :
    graph.rollbackOrder.length +
      (graph.scheduled.filter fun id => !graph.rollbackOrder.contains id).length =
        graph.scheduled.length := by
  have frontier := frontier_rollbackOrder_nil proper
  have distinct : graph.scheduled.Nodup := List.nodup_range.filter _
  have taken : graph.rollbackOrder.Perm
      (graph.scheduled.filter fun id => graph.rollbackOrder.contains id) := by
    refine (List.perm_ext_iff_of_nodup frontier.takenDistinct (distinct.filter _)).mpr fun id => ?_
    rw [List.mem_filter, mem_scheduled, List.contains_iff_mem]
    exact ⟨fun member => ⟨frontier.scheduled id (.inr member), member⟩, fun both => both.2⟩
  rw [taken.length_eq, ← List.length_append]
  exact (List.filter_append_perm _ graph.scheduled).length_eq

theorem length_scheduled (graph : DependencyGraph) :
    graph.scheduled.length = graph.scheduledNodes.length := by
  rw [← filterMap_node?_scheduled, eq_comm, List.filterMap_length_eq_length]
  intro id member
  obtain ⟨node, found, _⟩ := isScheduled_iff.mp (mem_scheduled.mp member)
  rw [found, Option.isSome_some]

/-! ## The schedule or its failure -/

theorem pairwise_le_sortOn (texts : List String) :
    (Sorting.sortOn id texts).Pairwise (· ≤ ·) := by
  refine (Sorting.pairwise_sortOn texts).imp fun {first second} before => ?_
  exact (isLE_compareOfLessAndEq le_antisymm not_le le_total).mp before

/-- Nothing is stuck exactly when there is no cycle. -/
theorem ListsStuck.isEmpty_iff {stuck : List Nat} (lists : graph.ListsStuck stuck) :
    stuck.isEmpty = true ↔ ¬ graph.HasScheduledCycle := by
  rw [List.isEmpty_iff, List.eq_nil_iff_forall_not_mem]
  constructor
  · rintro nothing ⟨id, round⟩
    exact nothing id ((lists.mem_iff id).mpr ⟨id, round, .refl⟩)
  · intro acyclic id member
    obtain ⟨first, round, _⟩ := (lists.mem_iff id).mp member
    exact acyclic ⟨first, round⟩

/-- There is a schedule exactly when the scheduled nodes have no cycle. -/
theorem exists_schedule_iff (proper : graph.Proper) :
    (∃ schedule, graph.schedule = .ok schedule) ↔ ¬ graph.HasScheduledCycle := by
  rw [schedule, ← (listsStuck_remaining proper).isEmpty_iff]
  split
  · next all => exact ⟨fun _ => all, fun _ => ⟨_, rfl⟩⟩
  · next some =>
    refine iff_of_false ?_ some
    rintro ⟨_, made⟩
    cases made

/-- **When there is a schedule** of a graph made by changes: exactly when its
scheduled nodes have no cycle.  Otherwise the failure tells, in ascending order,
the nodes on and behind cycles of scheduled nodes, and how many of the scheduled
nodes have been taken. -/
theorem schedule_ofChanges_iff (changes : List GraphChange) :
    ((∃ schedule, (ofChanges changes).schedule = .ok schedule) ↔
      ¬ (ofChanges changes).HasScheduledCycle) ∧
    ((ofChanges changes).HasScheduledCycle → ∃ visited remaining stuck,
      (ofChanges changes).schedule = .error (.cycleDetected visited
        (ofChanges changes).scheduledNodes.length remaining) ∧
      (ofChanges changes).ListsStuck stuck ∧
      remaining.Perm (stuck.map (ofChanges changes).describe) ∧
      remaining.Pairwise (· ≤ ·) ∧
      visited + remaining.length = (ofChanges changes).scheduledNodes.length) := by
  have proper := proper_ofChanges changes
  have lists := listsStuck_remaining proper
  have whole := lists.isEmpty_iff
  have counted := length_rollbackOrder proper
  rw [length_scheduled] at counted
  refine ⟨exists_schedule_iff proper, fun cyclic => ?_⟩
  have some := mt whole.mp (not_not_intro cyclic)
  rw [schedule, if_neg some, length_scheduled]
  refine ⟨_, _, _, rfl, lists, Sorting.perm_sortOn _, pairwise_le_sortOn _, ?_⟩
  rwa [Sorting.length_sortOn, List.length_map]

/-- A graph with two cycles.  Two functions require each other, one of them
requires a table, and a procedure requires the other; a package and a view
require each other too, but the package is a placeholder. -/
def knottedChanges : List GraphChange :=
  [.addObject (.rootLevel .procedure "ENTRY") (some "A"),
    .addObject (.rootLevel .function "PING") (some "A"),
    .addObject (.rootLevel .function "PONG") (some "A"),
    .addObject (.rootLevel .table "DATA") none, .addContainer "FRAME" none,
    .addObject (.rootLevel .view "SHOW") none, .addRequires 0 1, .addRequires 1 2,
    .addRequires 2 1, .addRequires 2 3, .addRequires 4 5, .addRequires 5 4]

/-- The names of the nodes on and behind the cycle of that graph. -/
def knottedNames : List String :=
  ["FUNCTION:NONE.PING", "FUNCTION:NONE.PONG", "TABLE:NONE.DATA"]

/-- The functions are on a cycle and the table is behind it.  The procedure in front
of the cycle is taken, and so is the view, which is on a cycle with a placeholder
only. -/
theorem schedule_knottedChanges :
    (ofChanges knottedChanges).HasScheduledCycle ∧
    (ofChanges knottedChanges).schedule = .error (.cycleDetected 2 5 knottedNames) ∧
    ∃ stuck, (ofChanges knottedChanges).ListsStuck stuck ∧
      knottedNames.Perm (stuck.map (ofChanges knottedChanges).describe) := by
  have joined : (1, 2) ∈ (ofChanges knottedChanges).requires ∧
      (2, 1) ∈ (ofChanges knottedChanges).requires := by
    with_unfolding_all decide
  have cyclic : (ofChanges knottedChanges).HasScheduledCycle :=
    ⟨1, .tail (.single ⟨joined.1, rfl, rfl⟩) ⟨joined.2, rfl, rfl⟩⟩
  have made : (ofChanges knottedChanges).schedule =
      .error (.cycleDetected 2 5 knottedNames) := by
    with_unfolding_all rfl
  obtain ⟨visited, remaining, stuck, failed, lists, names, _⟩ :=
    (schedule_ofChanges_iff knottedChanges).2 cyclic
  obtain ⟨-, -, rfl⟩ := ScheduleError.cycleDetected.inj (Except.error.inj (made.symm.trans failed))
  exact ⟨cyclic, made, stuck, lists, names⟩

end SchemaPlan.DependencyGraph
