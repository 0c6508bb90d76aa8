import Mathlib.Data.List.Basic
import SchemaPlan.Proofs.Graph.Shape
import SchemaPlan.Schedule.Basic

/-!
# Numbered lists and the order of rolling back

The number of an object is its place in the list and nothing else.  Whatever is
read off the objects without their numbers is the same before and after a list
is numbered, and numbering a list again changes nothing but the numbers.

While nodes are taken one after the other, two lists are kept: the nodes that
are ready and the nodes that have been taken.  Every ready node has all the
nodes that require it among those taken, so every taken node came after all of
them (`Frontier`).  Taking a node keeps this: a node that is released by it was
not ready before, because the node just taken requires it.

A schedule that succeeds therefore lists every scheduled node once, and of two
nodes joined by a requirement the required one is rolled back later.
-/

set_option autoImplicit false

/-! ## Numbered lists of scheduled objects -/

namespace SchemaPlan

/-- An object without its place in a list. -/
def ScheduledObject.unplaced (object : ScheduledObject) : ScheduledObject :=
  { object with order := 0 }

namespace Schedule

theorem map_numbered {View : Type} {objects : List ScheduledObject}
    {view : ScheduledObject → View}
    (ignores : ∀ object place, view { object with order := place } = view object) :
    (numbered objects).map view = objects.map view := by
  refine List.ext_getElem? fun place => ?_
  rw [numbered, List.getElem?_map, List.getElem?_map, List.getElem?_mapIdx, Option.map_map]
  congr 1
  funext object
  exact ignores object (place + 1)

theorem map_key_numbered (objects : List ScheduledObject) :
    (numbered objects).map (·.key) = objects.map (·.key) :=
  map_numbered fun _ _ => rfl

theorem map_unplaced_numbered (objects : List ScheduledObject) :
    (numbered objects).map (·.unplaced) = objects.map (·.unplaced) :=
  map_numbered fun _ _ => rfl

/-- The numbers of a list count from one. -/
theorem map_order_numbered (objects : List ScheduledObject) :
    (numbered objects).map (·.order) = List.range' 1 objects.length := by
  refine List.ext_getElem (by simp [numbered]) fun place _ _ => ?_
  rw [List.getElem_map, List.getElem_range']
  simp [numbered, Nat.add_comm]

/-- Lists that differ in the numbers only are numbered alike. -/
theorem numbered_congr {first second : List ScheduledObject}
    (same : first.map (·.unplaced) = second.map (·.unplaced)) :
    numbered first = numbered second := by
  have through : ∀ objects, numbered objects = numbered (objects.map (·.unplaced)) := by
    intro objects
    refine List.ext_getElem? fun place => ?_
    rw [numbered, numbered, List.getElem?_mapIdx, List.getElem?_mapIdx, List.getElem?_map,
      Option.map_map]
    rfl
  rw [through first, through second, same]

/-- Both lists of a schedule are the same objects, one in reverse. -/
theorem rollback_ofRollback (objects : List ScheduledObject) :
    (ofRollback objects).rollback = numbered (ofRollback objects).install.reverse := by
  refine numbered_congr ?_
  rw [ofRollback, List.map_reverse, map_unplaced_numbered, List.map_reverse, List.reverse_reverse]

/-- Two images that follow each other are images of two that do. -/
theorem pair_sublist_map {Item View : Type} {view : Item → View} {items : List Item}
    {first second : View} (sublist : [first, second].Sublist (items.map view)) :
    ∃ one other, [one, other].Sublist items ∧ view one = first ∧ view other = second := by
  obtain ⟨images, inside, same⟩ := List.sublist_map_iff.mp sublist
  obtain ⟨one, rest, rfl, isFirst, restSame⟩ := List.map_eq_cons_iff.mp same.symm
  obtain ⟨other, rfl, isSecond⟩ := List.map_eq_singleton_iff.mp restSame
  exact ⟨one, other, inside, isFirst, isSecond⟩

end Schedule

end SchemaPlan

namespace SchemaPlan.DependencyGraph

variable {graph : DependencyGraph}

/-! ## Requirements as lists of nodes -/

theorem mem_scheduledDependents {object dependency : Nat} :
    object ∈ graph.scheduledDependents dependency ↔
      (object, dependency) ∈ graph.requires ∧ graph.isScheduled object = true := by
  simp [scheduledDependents, dependentsOf]

theorem isReady_iff {taken : List Nat} {id : Nat} :
    graph.isReady taken id = true ↔ ∀ object, (object, id) ∈ graph.requires →
      graph.isScheduled object = true → object ∈ taken := by
  simp only [isReady, List.all_eq_true, mem_scheduledDependents, List.contains_iff_mem]
  exact ⟨fun all object required scheduled => all object ⟨required, scheduled⟩,
    fun all object both => all object both.1 both.2⟩

theorem nodup_requiredBy (proper : graph.Proper) (id : Nat) : (graph.requiredBy id).Nodup := by
  refine List.Nodup.map_on ?_ (proper.once.filter _)
  intro first inFirst second inSecond same
  have firstObject := (List.mem_filter.mp inFirst).2
  have secondObject := (List.mem_filter.mp inSecond).2
  rw [beq_iff_eq] at firstObject secondObject
  exact Prod.ext (firstObject.trans secondObject.symm) same

theorem mem_released {taken : List Nat} {id target : Nat} :
    target ∈ graph.released taken id ↔ (id, target) ∈ graph.requires ∧
      graph.isScheduled target = true ∧ graph.isReady taken target = true := by
  simp [released, mem_requiredBy]

theorem lightest?_mem {ready : List Nat} {id : Nat}
    (lightest : graph.lightest? ready = some id) : id ∈ ready := by
  induction ready generalizing id with
  | nil => cases lightest
  | cons first rest ih =>
      rw [lightest?] at lightest
      split at lightest
      · exact Option.some.inj lightest ▸ List.mem_cons_self
      · next other found =>
        split at lightest
        · exact Option.some.inj lightest ▸ List.mem_cons_self
        · exact Option.some.inj lightest ▸ List.mem_cons_of_mem _ (ih found)

/-! ## The frontier -/

/-- Every node of the list comes after all scheduled nodes that require it. -/
def DependentsFirst (graph : DependencyGraph) (order : List Nat) : Prop :=
  ∀ before id after, order = before ++ id :: after →
    ∀ object, (object, id) ∈ graph.requires → graph.isScheduled object = true → object ∈ before

/-- What holds of the ready nodes and the nodes taken so far. -/
structure Frontier (graph : DependencyGraph) (ready taken : List Nat) : Prop where
  readyDistinct : ready.Nodup
  takenDistinct : taken.Nodup
  apart : ∀ id ∈ ready, id ∉ taken
  scheduled : ∀ id, id ∈ ready ∨ id ∈ taken → graph.isScheduled id = true
  isReady : ∀ id ∈ ready, graph.isReady taken id = true
  complete : ∀ id, graph.isScheduled id = true → graph.isReady taken id = true →
    id ∈ ready ∨ id ∈ taken
  dependentsFirst : graph.DependentsFirst taken

/-- What holds of each node and those before it in a list holds so in the list with one more
node, if it holds of that one. -/
theorem forall_split_append {holds : List Nat → Nat → Prop} {order : List Nat} {last : Nat}
    (each : ∀ before id after, order = before ++ id :: after → holds before id)
    (ofLast : holds order last) :
    ∀ before id after, order ++ [last] = before ++ id :: after → holds before id := by
  intro before id after split
  rcases List.eq_nil_or_concat after with rfl | ⟨init, final, rfl⟩
  · obtain ⟨rfl, same⟩ := List.append_inj' split rfl
    exact List.singleton_inj.mp same ▸ ofLast
  · rw [List.concat_eq_append, ← List.cons_append, ← List.append_assoc] at split
    exact each before id init (List.append_inj' split rfl).1

theorem dependentsFirst_append {taken : List Nat} {id : Nat}
    (first : graph.DependentsFirst taken) (ready : graph.isReady taken id = true) :
    graph.DependentsFirst (taken ++ [id]) :=
  forall_split_append first (isReady_iff.mp ready)

theorem isReady_mono {taken more : List Nat} {id : Nat} (subset : ∀ other ∈ taken, other ∈ more)
    (ready : graph.isReady taken id = true) : graph.isReady more id = true :=
  isReady_iff.mpr fun object required scheduled =>
    subset object (isReady_iff.mp ready object required scheduled)

/-- A node that has been taken had all nodes that require it taken before. -/
theorem Frontier.isReady_of_mem_taken {ready taken : List Nat}
    (frontier : graph.Frontier ready taken) {id : Nat} (member : id ∈ taken) :
    graph.isReady taken id = true := by
  obtain ⟨before, after, split⟩ := List.append_of_mem member
  refine isReady_iff.mpr fun object required scheduled => ?_
  rw [split]
  exact List.mem_append_left _
    (frontier.dependentsFirst before id after split object required scheduled)

/-- What is released with a node was not ready before: the node requires it. -/
theorem Frontier.not_isReady_of_released {ready taken : List Nat}
    (frontier : graph.Frontier ready taken) {id target : Nat} (member : id ∈ ready)
    (released : target ∈ graph.released (taken ++ [id]) id) :
    ¬ graph.isReady taken target = true := by
  intro before
  obtain ⟨required, _, _⟩ := mem_released.mp released
  exact frontier.apart id member
    (isReady_iff.mp before id required (frontier.scheduled id (.inl member)))

/-- What is ready only once a node has been taken is released with it. -/
theorem mem_released_of_isReady {taken : List Nat} {id target : Nat}
    (scheduled : graph.isScheduled target = true)
    (ready : graph.isReady (taken ++ [id]) target = true)
    (before : ¬ graph.isReady taken target = true) :
    target ∈ graph.released (taken ++ [id]) id := by
  refine mem_released.mpr ⟨?_, scheduled, ready⟩
  by_contra notRequired
  refine before (isReady_iff.mpr fun object required isScheduled => ?_)
  rcases List.mem_append.mp (isReady_iff.mp ready object required isScheduled) with old | here
  · exact old
  · exact (notRequired (List.mem_singleton.mp here ▸ required)).elim

/-- **Taking a ready node keeps the frontier.** -/
theorem Frontier.take {ready taken : List Nat} (proper : graph.Proper)
    (frontier : graph.Frontier ready taken) {id : Nat} (member : id ∈ ready) :
    graph.Frontier (ready.erase id ++ graph.released (taken ++ [id]) id) (taken ++ [id]) := by
  have idScheduled := frontier.scheduled id (.inl member)
  have idNew := frontier.apart id member
  have widen : ∀ other ∈ taken, other ∈ taken ++ [id] := fun _ old => List.mem_append_left _ old
  constructor
  case readyDistinct =>
    refine List.nodup_append.mpr ⟨frontier.readyDistinct.erase id,
      (nodup_requiredBy proper id).filter _, fun old inReady target released same => ?_⟩
    subst same
    exact frontier.not_isReady_of_released member released
      (frontier.isReady old (List.mem_of_mem_erase inReady))
  case takenDistinct =>
    refine List.nodup_append.mpr ⟨frontier.takenDistinct, List.nodup_singleton _, ?_⟩
    rintro old inTaken last here rfl
    exact idNew (List.mem_singleton.mp here ▸ inTaken)
  case apart =>
    intro other inReady inTaken
    rcases List.mem_append.mp inReady with old | released
    · rcases List.mem_append.mp inTaken with before | here
      · exact frontier.apart other (List.mem_of_mem_erase old) before
      · rw [List.mem_singleton.mp here] at old
        exact (frontier.readyDistinct.not_mem_erase old).elim
    · refine frontier.not_isReady_of_released member released ?_
      rcases List.mem_append.mp inTaken with before | here
      · exact frontier.isReady_of_mem_taken before
      · exact List.mem_singleton.mp here ▸ frontier.isReady id member
  case scheduled =>
    rintro other (inReady | inTaken)
    · rcases List.mem_append.mp inReady with old | released
      · exact frontier.scheduled other (.inl (List.mem_of_mem_erase old))
      · exact (mem_released.mp released).2.1
    · rcases List.mem_append.mp inTaken with before | here
      · exact frontier.scheduled other (.inr before)
      · exact List.mem_singleton.mp here ▸ idScheduled
  case isReady =>
    intro other inReady
    rcases List.mem_append.mp inReady with old | released
    · exact isReady_mono widen (frontier.isReady other (List.mem_of_mem_erase old))
    · exact (mem_released.mp released).2.2
  case complete =>
    intro other scheduled ready
    by_cases before : graph.isReady taken other = true
    · rcases frontier.complete other scheduled before with inReady | inTaken
      · by_cases same : other = id
        · exact .inr (List.mem_append_right _ (List.mem_singleton.mpr same))
        · exact .inl (List.mem_append_left _ ((List.mem_erase_of_ne same).mpr inReady))
      · exact .inr (widen other inTaken)
    · exact .inl (List.mem_append_right _ (mem_released_of_isReady scheduled ready before))
  case dependentsFirst =>
    exact dependentsFirst_append frontier.dependentsFirst (frontier.isReady id member)

theorem frontier_start (graph : DependencyGraph) : graph.Frontier graph.firstReady [] := by
  have memFirst : ∀ id, id ∈ graph.firstReady ↔
      graph.isScheduled id = true ∧ graph.isReady [] id = true := fun id => by
    rw [firstReady, List.mem_filter, mem_scheduled]
  refine ⟨?_, List.nodup_nil, fun _ _ => List.not_mem_nil, ?_, ?_, ?_, ?_⟩
  · exact (List.nodup_range.filter _).filter _
  · rintro id (inReady | inTaken)
    · exact ((memFirst id).mp inReady).1
    · exact absurd inTaken List.not_mem_nil
  · exact fun id inReady => ((memFirst id).mp inReady).2
  · exact fun id scheduled ready => .inl ((memFirst id).mpr ⟨scheduled, ready⟩)
  · intro before id after split
    simp at split

theorem frontier_takeReady {limit : Nat} {ready taken : List Nat} (proper : graph.Proper)
    (frontier : graph.Frontier ready taken) :
    ∃ left, graph.Frontier left (graph.takeReady limit ready taken) := by
  induction limit generalizing ready taken with
  | zero => exact ⟨ready, frontier⟩
  | succ limit ih =>
      rw [takeReady]
      split
      · exact ⟨ready, frontier⟩
      · next id lightest => exact ih (frontier.take proper (lightest?_mem lightest))

theorem frontier_rollbackOrder (proper : graph.Proper) :
    ∃ left, graph.Frontier left graph.rollbackOrder :=
  frontier_takeReady proper (frontier_start graph)

/-- Of two scheduled nodes joined by a requirement the required one comes
later in the order of rolling back. -/
theorem sublist_rollbackOrder (proper : graph.Proper) {object dependency : Nat}
    (required : (object, dependency) ∈ graph.requires)
    (scheduled : graph.isScheduled object = true) (member : dependency ∈ graph.rollbackOrder) :
    [object, dependency].Sublist graph.rollbackOrder := by
  obtain ⟨_, frontier⟩ := frontier_rollbackOrder proper
  obtain ⟨before, after, split⟩ := List.append_of_mem member
  have earlier := frontier.dependentsFirst before dependency after split object required scheduled
  rw [split]
  exact (List.singleton_sublist.mpr earlier).append
    (List.singleton_sublist.mpr List.mem_cons_self)

/-! ## The schedule -/

/-- The objects of a schedule in the order of rolling back, not yet numbered. -/
def rollbackObjects (graph : DependencyGraph) : List ScheduledObject :=
  graph.rollbackOrder.filterMap graph.scheduledObject?

/-- A schedule that succeeds has taken every scheduled node. -/
theorem schedule_eq_ok {schedule : Schedule} (made : graph.schedule = .ok schedule) :
    schedule = Schedule.ofRollback graph.rollbackObjects ∧
      ∀ id, graph.isScheduled id = true → id ∈ graph.rollbackOrder := by
  rw [DependencyGraph.schedule] at made
  split at made
  · next all =>
    refine ⟨(Except.ok.inj made).symm, fun id scheduled => ?_⟩
    by_contra missing
    have left : id ∈ graph.scheduled.filter fun id => !graph.rollbackOrder.contains id := by
      simpa [mem_scheduled] using ⟨scheduled, missing⟩
    rw [List.isEmpty_iff.mp all] at left
    exact List.not_mem_nil left
  · cases made

theorem map_key_rollbackObjects (graph : DependencyGraph) :
    graph.rollbackObjects.map (·.key) =
      graph.rollbackOrder.filterMap fun id => (graph.node? id).map (·.key) := by
  rw [rollbackObjects, List.map_filterMap]
  congr 1
  funext id
  rw [scheduledObject?, Option.map_map]
  rfl

/-- No key is scheduled twice. -/
theorem nodup_keys_rollbackObjects (proper : graph.Proper) :
    (graph.rollbackObjects.map (·.key)).Nodup := by
  obtain ⟨_, frontier⟩ := frontier_rollbackOrder proper
  rw [map_key_rollbackObjects]
  refine frontier.takenDistinct.filterMap fun first second key inFirst inSecond => ?_
  obtain ⟨node, found, rfl⟩ := Option.map_eq_some_iff.mp (Option.mem_def.mp inFirst)
  obtain ⟨other, alsoFound, same⟩ := Option.map_eq_some_iff.mp (Option.mem_def.mp inSecond)
  exact proper.eq_of_key_eq found alsoFound same.symm

end SchemaPlan.DependencyGraph
