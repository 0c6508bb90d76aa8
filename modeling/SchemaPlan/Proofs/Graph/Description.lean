import SchemaPlan.Proofs.Collection
import SchemaPlan.Proofs.Graph.Placement

/-!
# What a graph of records holds

Which records a graph is made of can be said without an order (`Retains`): a
record is retained when it is confirmed, its object is custom, and the package
that the object is delivered with has something that requires another object.
The retained records say which keys need which other ones (`Needs`) and which
keys there are at all (`Mentions`).

Records are placed one after the other, but what has been placed so far is always
reflected in the same way (`Reflects`): the keys are those named by the records in
the order of first naming, what takes part in delivery is what the records
mention, and one key requires another if a record says so.  So in the end the
graph requires what the retained records need (`Reflects.requiresKey_iff_needs`).
-/

set_option autoImplicit false

namespace SchemaPlan

/-- Both ends of a record have keys in stored form. -/
structure Edge.KeysMade (edge : Edge) : Prop where
  object : edge.object.key.IsMade
  dependency : ∀ key, edge.dependency.map (·.key) = some key → key.IsMade

theorem Edge.keysMade_requires {object dependency : ObjectRef} (objectMade : object.key.IsMade)
    (dependencyMade : dependency.key.IsMade) : (Edge.requires object dependency).KeysMade where
  object := objectMade
  dependency _ isKey := Option.some.inj isKey ▸ dependencyMade

/-- A confirmed record says that something that is delivered with the package
requires another object. -/
def HasDependencies (edges : List Edge) (package : String) : Prop :=
  ∃ edge ∈ edges, edge.status = .ok ∧ edge.isLeaf = false ∧ edge.isSelfReference = false ∧
    edge.object.key.deliveryPackage? = some package

namespace GraphConfig

variable {config : GraphConfig} {edges others : List Edge}

/-- A record is one of those that a graph is made of. -/
structure Retains (config : GraphConfig) (edges : List Edge) (edge : Edge) : Prop where
  listed : edge ∈ edges
  confirmed : edge.status = .ok
  custom : config.isCustom edge.object.key = true
  needed : ∀ package, edge.object.key.deliveryPackage? = some package →
    HasDependencies edges package

/-- A retained record says that one key requires another custom one. -/
def Needs (config : GraphConfig) (edges : List Edge) (object dependency : ObjectKey) : Prop :=
  ∃ edge target, config.Retains edges edge ∧ edge.object.key = object ∧
    edge.dependency = some target ∧ target.key = dependency ∧ dependency ≠ object ∧
    config.isCustom dependency = true

/-- A key is that of the object of a retained record, or of what it needs. -/
def Mentions (config : GraphConfig) (edges : List Edge) (key : ObjectKey) : Prop :=
  (∃ edge, config.Retains edges edge ∧ edge.object.key = key) ∨
    ∃ object, config.Needs edges object key

/-! ## The order of records does not matter -/

theorem retains_congr (same : ∀ edge, edge ∈ others ↔ edge ∈ edges) {edge : Edge} :
    config.Retains others edge ↔ config.Retains edges edge := by
  have packages : ∀ package, HasDependencies others package ↔ HasDependencies edges package :=
    fun package => exists_congr fun edge => and_congr_left fun _ => same edge
  constructor
  · intro retains
    exact ⟨(same edge).mp retains.listed, retains.confirmed, retains.custom,
      fun package isPackage => (packages package).mp (retains.needed package isPackage)⟩
  · intro retains
    exact ⟨(same edge).mpr retains.listed, retains.confirmed, retains.custom,
      fun package isPackage => (packages package).mpr (retains.needed package isPackage)⟩

theorem needs_congr (same : ∀ edge, edge ∈ others ↔ edge ∈ edges) {object dependency : ObjectKey} :
    config.Needs others object dependency ↔ config.Needs edges object dependency :=
  exists_congr fun _ => exists_congr fun _ => and_congr_left fun _ => retains_congr same

theorem mentions_congr (same : ∀ edge, edge ∈ others ↔ edge ∈ edges) {key : ObjectKey} :
    config.Mentions others key ↔ config.Mentions edges key :=
  or_congr (exists_congr fun _ => and_congr_left fun _ => retains_congr same)
    (exists_congr fun _ => needs_congr same)

/-- What confirmed records mention has a key in stored form if they have. -/
theorem Mentions.isMade {key : ObjectKey} (mentions : config.Mentions edges key)
    (made : ∀ edge ∈ edges, edge.status = .ok → edge.KeysMade) : key.IsMade := by
  rcases mentions with ⟨edge, retains, rfl⟩ | ⟨_, edge, target, retains, _, needed, rfl, _, _⟩
  · exact (made edge retains.listed retains.confirmed).object
  · exact (made edge retains.listed retains.confirmed).dependency target.key
      (by rw [needed, Option.map_some])

end GraphConfig

namespace DependencyGraph

variable {config : GraphConfig} {edges records : List Edge} {edge : Edge}
  {graph after : DependencyGraph}

/-! ## Retained records -/

theorem mem_packagesWithDependencies {package : String} :
    package ∈ packagesWithDependencies edges ↔ HasDependencies edges package := by
  simp only [packagesWithDependencies, OrderedSet.mem_ofList, List.mem_filterMap, List.mem_filter,
    HasDependencies, Bool.and_eq_true, decide_eq_true_eq, Bool.not_eq_true', and_assoc]

/-- **What is kept are the retained records.** -/
theorem mem_keptEdges : edge ∈ keptEdges config edges ↔ config.Retains edges edge := by
  have needed : (edge.object.key.deliveryPackage?.all
      (packagesWithDependencies edges).contains) = true ↔
        ∀ package, edge.object.key.deliveryPackage? = some package →
          HasDependencies edges package := by
    rw [Option.all_eq_true]
    refine forall_congr' fun package => imp_congr_right fun _ => ?_
    rw [OrderedSet.contains, decide_eq_true_eq, mem_packagesWithDependencies]
  rw [keptEdges, List.mem_filter, isKept, Bool.and_eq_true, Bool.and_eq_true, decide_eq_true_eq,
    needed]
  constructor
  · rintro ⟨listed, ⟨confirmed, custom⟩, unpruned⟩
    exact ⟨listed, confirmed, custom, unpruned⟩
  · rintro ⟨listed, confirmed, custom, unpruned⟩
    exact ⟨listed, ⟨confirmed, custom⟩, unpruned⟩

theorem countedDependency_eq_some {target : ObjectRef} :
    countedDependency config edge = some target ↔ edge.dependency = some target ∧
      target.key ≠ edge.object.key ∧ config.isCustom target.key = true := by
  rw [countedDependency, Option.filter_eq_some_iff, Bool.and_eq_true, decide_eq_true_eq]

theorem needs_iff {object dependency : ObjectKey} :
    config.Needs edges object dependency ↔ ∃ edge ∈ keptEdges config edges,
      edge.object.key = object ∧
        ∃ target, countedDependency config edge = some target ∧ target.key = dependency := by
  simp only [mem_keptEdges, countedDependency_eq_some]
  constructor
  · rintro ⟨edge, target, retains, rfl, requires, rfl, differs, custom⟩
    exact ⟨edge, retains, rfl, target, ⟨requires, differs, custom⟩, rfl⟩
  · rintro ⟨edge, retains, rfl, target, ⟨requires, differs, custom⟩, rfl⟩
    exact ⟨edge, target, retains, rfl, requires, rfl, differs, custom⟩

/-! ## The graph of the records placed so far -/

/-- The keys that records name, in the order in which each is named first. -/
def namingOrder (config : GraphConfig) (records : List Edge) : List ObjectKey :=
  (records.flatMap fun edge => namesOf edge.object (countedDependency config edge)).eraseDups

/-- What a graph holds when some records have been placed. -/
structure Reflects (config : GraphConfig) (records : List Edge) (graph : DependencyGraph) :
    Prop where
  built : graph.Built
  keys : graph.keys = namingOrder config records
  schedulesKey : ∀ key, graph.SchedulesKey key ↔ ∃ edge ∈ records, key = edge.object.key ∨
    ∃ target, countedDependency config edge = some target ∧ key = target.key
  requiresKey : ∀ object dependency, graph.RequiresKey object dependency ↔ ∃ edge ∈ records,
    edge.object.key = object ∧
      ∃ target, countedDependency config edge = some target ∧ target.key = dependency
  arranged : graph.Arranged []

theorem reflects_empty : Reflects config [] empty where
  built := built_empty
  keys := rfl
  schedulesKey key := by simp [SchedulesKey, key?, node?, empty]
  requiresKey object dependency := by simp [RequiresKey, Requires, empty]
  arranged id node found := by simp [node?, empty] at found

/-- Placing a record adds what it says. -/
theorem Reflects.place (reflects : Reflects config records graph)
    (placed : graph.place edge.object (countedDependency config edge) = .ok after) :
    Reflects config (records ++ [edge]) after := by
  have places := places_of_place placed
  have differs : ∀ target, countedDependency config edge = some target →
      target.key ≠ edge.object.key :=
    fun _ counted => (countedDependency_eq_some.mp counted).2.1
  constructor
  case built => exact places.built reflects.built
  case keys =>
    rw [namingOrder, List.flatMap_append, List.flatMap_singleton]
    exact places.keys reflects.keys
  case schedulesKey =>
    intro key
    rw [places.schedulesKey, reflects.schedulesKey]
    simp only [List.mem_append, List.mem_singleton, or_and_right, exists_or, exists_eq_left]
  case requiresKey =>
    intro object dependency
    rw [places.requiresKey reflects.built.toProper differs, reflects.requiresKey]
    simp only [List.mem_append, List.mem_singleton, or_and_right, exists_or, exists_eq_left]
    refine or_congr_right ⟨?_, ?_⟩
    · rintro ⟨target, counted, rfl, rfl⟩
      exact ⟨rfl, target, counted, rfl⟩
    · rintro ⟨rfl, target, counted, rfl⟩
      exact ⟨target, counted, rfl, rfl⟩
  case arranged => exact places.arranged reflects.arranged

/-- **A graph of records reflects those that are kept.** -/
theorem reflects_ofEdges (made : ofEdges config edges = .ok graph) :
    Reflects config (keptEdges config edges) graph := by
  have placed : ∀ rest before start, Reflects config before start →
      rest.foldlM (fun graph edge => graph.place edge.object (countedDependency config edge))
        start = .ok graph → Reflects config (before ++ rest) graph := by
    intro rest
    induction rest with
    | nil =>
        intro before start reflects done
        obtain rfl := Outcome.pure_eq_ok.mp done
        rwa [List.append_nil]
    | cons edge rest ih =>
        intro before start reflects done
        rw [List.foldlM_cons, Outcome.bind_eq_ok] at done
        obtain ⟨middle, one, others⟩ := done
        have step := ih (before ++ [edge]) middle (reflects.place one) others
        rwa [List.append_assoc] at step
  exact placed (keptEdges config edges) [] empty reflects_empty made

/-! ## Graphs by what the records say -/

/-- **A graph requires what the records need.** -/
theorem Reflects.requiresKey_iff_needs (reflects : Reflects config (keptEdges config edges) graph)
    {object dependency : ObjectKey} :
    graph.RequiresKey object dependency ↔ config.Needs edges object dependency := by
  rw [reflects.requiresKey, needs_iff]

/-- **What takes part in delivery is what the records mention.** -/
theorem Reflects.schedulesKey_iff_mentions
    (reflects : Reflects config (keptEdges config edges) graph) {key : ObjectKey} :
    graph.SchedulesKey key ↔ config.Mentions edges key := by
  rw [reflects.schedulesKey, GraphConfig.Mentions]
  simp only [needs_iff, mem_keptEdges]
  constructor
  · rintro ⟨edge, retains, rfl | ⟨target, counted, rfl⟩⟩
    · exact .inl ⟨edge, retains, rfl⟩
    · exact .inr ⟨edge.object.key, edge, retains, rfl, target, counted, rfl⟩
  · rintro (⟨edge, retains, rfl⟩ | ⟨_, edge, retains, rfl, target, counted, rfl⟩)
    · exact ⟨edge, retains, .inl rfl⟩
    · exact ⟨edge, retains, .inr ⟨target, counted, rfl⟩⟩

/-- The keys of a graph are those that the records mention and the packages that these
are in. -/
theorem Reflects.mem_keys_iff (reflects : Reflects config (keptEdges config edges) graph)
    {key : ObjectKey} :
    key ∈ graph.keys ↔ config.Mentions edges key ∨
      ∃ member package, config.Mentions edges member ∧ member.package? = some package ∧
        key = .packageNode package := by
  have named : ∀ edge, key ∈ namesOf edge.object (countedDependency config edge) ↔
      ∃ member, (member = edge.object.key ∨
        ∃ target, countedDependency config edge = some target ∧ member = target.key) ∧
          key ∈ member.withPackage := by
    intro edge
    cases countedDependency config edge <;> simp [namesOf]
  have within : ∀ member : ObjectKey, key ∈ member.withPackage ↔
      key = member ∨ ∃ package, member.package? = some package ∧ key = .packageNode package := by
    intro member
    simp [ObjectKey.withPackage, eq_comm]
  have mentioned : key ∈ graph.keys ↔
      ∃ member, config.Mentions edges member ∧ key ∈ member.withPackage := by
    simp only [← reflects.schedulesKey_iff_mentions, reflects.schedulesKey, reflects.keys,
      namingOrder, List.mem_eraseDups, List.mem_flatMap, named]
    constructor
    · rintro ⟨edge, kept, member, isNamed, here⟩
      exact ⟨member, ⟨edge, kept, isNamed⟩, here⟩
    · rintro ⟨member, ⟨edge, kept, isNamed⟩, here⟩
      exact ⟨edge, kept, member, isNamed, here⟩
  rw [mentioned]
  simp only [within]
  constructor
  · rintro ⟨member, mentions, rfl | ⟨package, inside, rfl⟩⟩
    · exact .inl mentions
    · exact .inr ⟨member, package, mentions, inside, rfl⟩
  · rintro (mentions | ⟨member, package, mentions, inside, rfl⟩)
    · exact ⟨key, mentions, .inl rfl⟩
    · exact ⟨member, mentions, .inr ⟨package, inside, rfl⟩⟩

/-- **The keys of a graph of records** are in stored form if those of the confirmed records
are. -/
theorem Reflects.isMade_of_mem_keys (reflects : Reflects config (keptEdges config edges) graph)
    (made : ∀ edge ∈ edges, edge.status = .ok → edge.KeysMade) {key : ObjectKey}
    (member : key ∈ graph.keys) : key.IsMade := by
  rcases reflects.mem_keys_iff.mp member with mentions | ⟨_, package, _, _, rfl⟩
  · exact mentions.isMade made
  · exact ObjectKey.isMade_packageNode package

end DependencyGraph

end SchemaPlan
