import Mathlib.Data.Finset.Card
import Mathlib.Data.Set.Finite.Basic
import Mathlib.Logic.Relation
import Mathlib.Order.WellFounded
import SchemaPlan.Graph.Cycle
import SchemaPlan.Proofs.Graph.Shape

/-!
# Reachability level by level, and cycles

The level-by-level search finds exactly what can be reached by finitely many
steps, provided that no step leaves a finite range of numbers and that the
search may go as many levels deep as the range has numbers.

Everything found is reached by steps, because a level consists of neighbours
of the level before it.  Conversely the search stops with a closed list: a
level that adds nothing leaves no neighbour outside, and every other level
makes the set of numbers that are still missing smaller.

Whoever goes back along a relation without ever having to stop, among finitely
many nodes, comes round: every node of a finite list in which each node has one
before it lies on a cycle or behind one (`exists_cycle_behind`).

A graph is acyclic when no node requires itself through others.  What the search
for cycles reports does lie on one, so acyclic graphs are let pass.
-/

set_option autoImplicit false

namespace SchemaPlan

variable {next : Nat → List Nat}

/-- One step of the search: the second node is a neighbour of the first. -/
def Leads (next : Nat → List Nat) (first second : Nat) : Prop := second ∈ next first

/-! ## One level -/

theorem mem_foldl_fresh {reached ids found : List Nat} {id : Nat} :
    id ∈ ids.foldl
        (fun found id => if id ∈ reached ∨ id ∈ found then found else found ++ [id]) found ↔
      id ∈ found ∨ (id ∈ ids ∧ id ∉ reached) := by
  induction ids generalizing found with
  | nil => simp
  | cons first rest ih =>
      rw [List.foldl_cons, ih]
      by_cases present : first ∈ reached ∨ first ∈ found
      · rw [if_pos present]
        constructor
        · rintro (old | ⟨later, fresh⟩)
          · exact .inl old
          · exact .inr ⟨List.mem_cons_of_mem _ later, fresh⟩
        · rintro (old | ⟨member, fresh⟩)
          · exact .inl old
          · rcases List.mem_cons.mp member with rfl | later
            · exact .inl (present.resolve_left fresh)
            · exact .inr ⟨later, fresh⟩
      · rw [if_neg present]
        have outside : first ∉ reached := fun member => present (.inl member)
        constructor
        · rintro (old | ⟨later, fresh⟩)
          · rcases List.mem_append.mp old with old | here
            · exact .inl old
            · rw [List.mem_singleton] at here
              exact .inr ⟨here ▸ List.mem_cons_self, here ▸ outside⟩
          · exact .inr ⟨List.mem_cons_of_mem _ later, fresh⟩
        · rintro (old | ⟨member, fresh⟩)
          · exact .inl (List.mem_append_left _ old)
          · rcases List.mem_cons.mp member with rfl | later
            · exact .inl (List.mem_append_right _ List.mem_cons_self)
            · exact .inr ⟨later, fresh⟩

/-- A level holds the neighbours of the level before it that are new. -/
theorem mem_nextLevel {level reached : List Nat} {id : Nat} :
    id ∈ nextLevel next level reached ↔
      (∃ source ∈ level, id ∈ next source) ∧ id ∉ reached := by
  rw [nextLevel, mem_foldl_fresh, List.mem_flatMap]
  simp

/-! ## The whole search -/

theorem mem_spread_of_mem {limit : Nat} {level reached : List Nat} {id : Nat}
    (member : id ∈ reached) : id ∈ spread next limit level reached := by
  induction limit generalizing level reached with
  | zero => exact member
  | succ limit ih =>
      rw [spread]
      split
      · exact member
      · exact ih (List.mem_append_left _ member)

/-- What holds of the nodes reached so far and is handed on by every step
holds of everything that the search finds. -/
theorem spread_induction {property : Nat → Prop} {limit : Nat} {level reached : List Nat}
    (within : ∀ id ∈ level, id ∈ reached) (start : ∀ id ∈ reached, property id)
    (step : ∀ id, property id → ∀ other ∈ next id, property other) :
    ∀ id ∈ spread next limit level reached, property id := by
  induction limit generalizing level reached with
  | zero => exact start
  | succ limit ih =>
      rw [spread]
      split
      · exact start
      · refine ih (fun id member => List.mem_append_right _ member) fun id member => ?_
        rcases List.mem_append.mp member with old | new
        · exact start id old
        · obtain ⟨⟨source, inLevel, neighbour⟩, _⟩ := mem_nextLevel.mp new
          exact step source (start source (within source inLevel)) id neighbour

/-- The numbers of a range that have not been reached. -/
def unreached (bound : Nat) (reached : List Nat) : Finset Nat :=
  (Finset.range bound).filter (· ∉ reached)

theorem mem_unreached {bound : Nat} {reached : List Nat} {id : Nat} :
    id ∈ unreached bound reached ↔ id < bound ∧ id ∉ reached := by
  simp [unreached]

/-- A level that adds a number of the range leaves fewer of them out. -/
theorem card_unreached_lt {bound : Nat} {reached found : List Nat} {id : Nat}
    (inside : id < bound) (fresh : id ∉ reached) (new : id ∈ found) :
    (unreached bound (reached ++ found)).card < (unreached bound reached).card := by
  refine Finset.card_lt_card ⟨fun other member => ?_, fun included => ?_⟩
  · obtain ⟨small, outside⟩ := mem_unreached.mp member
    exact mem_unreached.mpr ⟨small, fun old => outside (List.mem_append_left _ old)⟩
  · have member := included (mem_unreached.mpr ⟨inside, fresh⟩)
    exact (mem_unreached.mp member).2 (List.mem_append_right _ new)

/-- The search ends with a closed list when it may go as many levels deep as
there are numbers left in the range. -/
theorem spread_closed {bound limit : Nat} {level reached : List Nat}
    (inside : ∀ id, ∀ other ∈ next id, other < bound)
    (enough : (unreached bound reached).card ≤ limit)
    (explored : ∀ id ∈ reached, id ∉ level → ∀ other ∈ next id, other ∈ reached) :
    ∀ id ∈ spread next limit level reached, ∀ other ∈ next id,
      other ∈ spread next limit level reached := by
  induction limit generalizing level reached with
  | zero =>
      intro id _ other neighbour
      by_contra missing
      have member : other ∈ unreached bound reached :=
        mem_unreached.mpr ⟨inside id other neighbour, missing⟩
      have positive := Finset.card_pos.mpr ⟨other, member⟩
      omega
  | succ limit ih =>
      rw [spread]
      split
      · next nothing =>
        intro id member other neighbour
        by_cases current : id ∈ level
        · by_contra missing
          have new : other ∈ nextLevel next level reached :=
            mem_nextLevel.mpr ⟨⟨id, current, neighbour⟩, missing⟩
          rw [List.isEmpty_iff.mp nothing] at new
          exact List.not_mem_nil new
        · exact explored id member current other neighbour
      · next something =>
        refine ih ?_ ?_
        · obtain ⟨new, isNew⟩ := List.exists_mem_of_ne_nil _
            (fun empty => something (List.isEmpty_iff.mpr empty))
          obtain ⟨⟨source, _, neighbour⟩, fresh⟩ := mem_nextLevel.mp isNew
          have fewer := card_unreached_lt (inside source new neighbour) fresh isNew
          omega
        · intro id member notNew other neighbour
          have old : id ∈ reached := (List.mem_append.mp member).resolve_right notNew
          by_cases present : other ∈ reached
          · exact List.mem_append_left _ present
          · by_cases current : id ∈ level
            · exact List.mem_append_right _
                (mem_nextLevel.mpr ⟨⟨id, current, neighbour⟩, present⟩)
            · exact absurd (explored id old current other neighbour) present

namespace DependencyGraph

/-- **What is reachable is what finitely many steps lead to**, as long as no
step leaves the graph. -/
theorem mem_reachable_iff {graph : DependencyGraph} {start : List Nat} {id : Nat}
    (inside : ∀ id, ∀ other ∈ next id, other < graph.nodes.length) :
    id ∈ graph.reachable next start ↔
      ∃ first ∈ start, Relation.ReflTransGen (Leads next) first id := by
  constructor
  · intro member
    refine @spread_induction next
      (fun id => ∃ first ∈ start, Relation.ReflTransGen (Leads next) first id) _ _ _
      (fun _ same => same) ?_ ?_ id member
    · exact fun id here => ⟨id, here, .refl⟩
    · rintro id ⟨first, inStart, steps⟩ other neighbour
      exact ⟨first, inStart, steps.tail neighbour⟩
  · rintro ⟨first, inStart, steps⟩
    have enough : (unreached graph.nodes.length start).card ≤ graph.nodes.length :=
      (Finset.card_filter_le _ _).trans (Finset.card_range _).le
    induction steps with
    | refl => exact mem_spread_of_mem inStart
    | tail _ step ih =>
        exact spread_closed inside enough (fun _ here away => absurd here away) _ ih _ step

end DependencyGraph

end SchemaPlan

/-! ## Cycles -/

namespace SchemaPlan

open Relation (TransGen ReflTransGen)

/-- A node lies on a cycle of a relation, or a cycle leads to it. -/
def BehindCycle (relation : Nat → Nat → Prop) (id : Nat) : Prop :=
  ∃ first, TransGen relation first first ∧ ReflTransGen relation first id

/-- What is behind a cycle comes directly after something that is. -/
theorem BehindCycle.exists_before {relation : Nat → Nat → Prop} {id : Nat}
    (behind : BehindCycle relation id) :
    ∃ before, relation before id ∧ BehindCycle relation before := by
  obtain ⟨first, round, steps⟩ := behind
  cases steps with
  | refl =>
      obtain ⟨before, way, last⟩ := TransGen.tail'_iff.mp round
      exact ⟨before, last, id, round, way⟩
  | tail way last => exact ⟨_, last, first, round, way⟩

/-- **Among finitely many nodes a way back that never stops comes round.** -/
theorem exists_cycle_behind {relation : Nat → Nat → Prop} {nodes : List Nat}
    (continued : ∀ id ∈ nodes, ∃ before ∈ nodes, relation before id) {id : Nat}
    (member : id ∈ nodes) : BehindCycle relation id := by
  by_contra free
  -- On what leads to a node with no cycle behind it the relation is well-founded.
  let Leading := {other : Nat // other ∈ nodes ∧ ReflTransGen relation other id}
  have finite : Finite Leading :=
    (nodes.finite_toSet.subset fun _ leading => leading.1).to_subtype
  let earlier : Leading → Leading → Prop := fun first second =>
    TransGen relation first.1 second.1
  have isTrans : IsTrans Leading earlier := ⟨fun _ _ _ one other => one.trans other⟩
  have isIrrefl : Std.Irrefl earlier :=
    ⟨fun first round => free ⟨first.1, round, first.2.2⟩⟩
  obtain ⟨least, _, isLeast⟩ := (Finite.wellFounded_of_trans_of_irrefl earlier).has_min Set.univ
    ⟨⟨id, member, .refl⟩, trivial⟩
  obtain ⟨before, inNodes, step⟩ := continued least.1 least.2.1
  exact isLeast ⟨before, inNodes, least.2.2.head step⟩ trivial (.single step)

namespace DependencyGraph

variable {graph : DependencyGraph}

/-- One node requires another. -/
def Requires (graph : DependencyGraph) (object dependency : Nat) : Prop :=
  (object, dependency) ∈ graph.requires

/-- No node requires itself through others. -/
def Acyclic (graph : DependencyGraph) : Prop := ∀ id, ¬ TransGen graph.Requires id id

theorem leads_requiredBy : Leads graph.requiredBy = graph.Requires := by
  funext object dependency
  exact propext mem_requiredBy

theorem Proper.lt_of_mem_requiredBy (proper : graph.Proper) :
    ∀ id, ∀ other ∈ graph.requiredBy id, other < graph.nodes.length := by
  intro id other member
  exact (proper.inside (id, other) (mem_requiredBy.mp member)).2

theorem isOnCycle_iff (proper : graph.Proper) {id : Nat} :
    graph.isOnCycle id = true ↔ TransGen graph.Requires id id := by
  rw [isOnCycle, List.contains_iff_mem, mem_reachable_iff proper.lt_of_mem_requiredBy,
    leads_requiredBy, TransGen.head'_iff]
  exact exists_congr fun first => and_congr_left fun _ => mem_requiredBy

/-- **Acyclic graphs are let pass.** -/
theorem ensureAcyclic_of_acyclic (proper : graph.Proper) (acyclic : graph.Acyclic) :
    graph.ensureAcyclic = .ok () := by
  have noCycles : graph.cycles = [] := by
    rw [cycles, List.map_eq_nil_iff, List.filter_eq_nil_iff]
    intro id onCycle
    exact absurd ((isOnCycle_iff proper).mp (List.mem_filter.mp onCycle).2) (acyclic id)
  rw [ensureAcyclic, noCycles]
  rfl

end DependencyGraph

end SchemaPlan
