import SchemaPlan.Proofs.Closure.Absence
import SchemaPlan.Proofs.Graph.Placement

/-!
# The shape of the records of a closure

Most records of a closure fit into a graph whatever they are.  An object outside
all packages that is no package requires packages in place of their members, and
a member may require anything.  A package is left: it requires members by
themselves, and a graph lets it require its own members only.

So the records of a closure are refused for their shape exactly when a package
refers to a member of another package, and both have the names of custom
objects.
-/

set_option autoImplicit false

namespace SchemaPlan

/-- A delivery unit that a standalone object requires is in no package. -/
theorem package?_deliveryUnit_standalone {object target : ObjectRef}
    (standalone : object.key.isStandalone = true) :
    (deliveryUnit object target).key.package? = none := by
  cases isMember : target.key.package? with
  | none =>
      rw [deliveryUnit_eq_self fun _ => isMember]
      exact isMember
  | some package =>
      rw [deliveryUnit_of_member standalone isMember]
      exact if_pos (isRootLevel_packageNode package)

namespace DependencyGraph

/-- A package that requires another object is kept, if it is custom. -/
theorem isKept_of_package {config : GraphConfig} {edges : List Edge} {edge : Edge}
    {dependency : ObjectRef} (listed : edge ∈ edges) (ok : edge.status = .ok)
    (isPackage : edge.object.key.objectType = .package)
    (custom : config.isCustom edge.object.key = true)
    (requires : edge.dependency = some dependency)
    (other : dependency.key ≠ edge.object.key) : edge ∈ keptEdges config edges := by
  have delivered : edge.object.key.deliveryPackage? = some edge.object.key.name := if_pos isPackage
  have listedPackage : edge.object.key.name ∈ packagesWithDependencies edges := by
    refine OrderedSet.mem_ofList.mpr (List.mem_filterMap.mpr ⟨edge, ?_, delivered⟩)
    refine List.mem_filter.mpr ⟨listed, ?_⟩
    simp [ok, Edge.isLeaf, Edge.isSelfReference, requires, other]
  refine List.mem_filter.mpr ⟨listed, ?_⟩
  simp [isKept, ok, custom, delivered, OrderedSet.contains, listedPackage]

end DependencyGraph

namespace Expansion

variable {expansion : Expansion} {roots : List ObjectRef}

/-- A package refers to a member of another package, and both are custom. -/
def RefersAcross (expansion : Expansion) (roots : List ObjectRef) (config : GraphConfig)
    (object target : ObjectRef) : Prop :=
  expansion.Answers roots object target ∧ isOwnDeliveryUnit object target = false ∧
    object.key.objectType = .package ∧ object.key.isRootLevel = true ∧
    (∃ package, target.key.package? = some package ∧ package ≠ object.key.name) ∧
    config.isCustom object.key = true ∧ config.isCustom target.key = true

namespace Finishes

variable {last : Nat} {final : ClosureState} {closure : Closure} {config : GraphConfig}

/-- A rejected record comes from a package that refers to a member of another
one: an object outside all packages that is no package requires packages. -/
theorem refersAcross_of_rejected (finishes : Finishes expansion roots last final closure)
    (fresh : expansion.prior = []) {edge : Edge}
    (kept : edge ∈ DependencyGraph.keptEdges config closure.edges)
    (outside : edge.object.key.package? = none) {dependency : ObjectRef} {package : String}
    (counted : DependencyGraph.countedDependency config edge = some dependency)
    (isMember : dependency.key.package? = some package)
    (otherPackage : package ≠ edge.object.key.name) :
    ∃ target, expansion.RefersAcross roots config edge.object target := by
  obtain ⟨listed, isKept⟩ := List.mem_filter.mp kept
  simp only [DependencyGraph.isKept, Bool.and_eq_true, decide_eq_true_eq] at isKept
  obtain ⟨⟨ok, custom⟩, _⟩ := isKept
  obtain ⟨requires, counts⟩ := Option.filter_eq_some_iff.mp counted
  simp only [Bool.and_eq_true, decide_eq_true_eq] at counts
  have recorded : closure.Records edge.object (some dependency.key) := by
    refine ⟨edge, List.mem_filter.mpr ⟨listed, decide_eq_true ok⟩, rfl, ?_⟩
    rw [requires, Option.map_some]
  obtain ⟨iteration, state, scans, member, known, sameObject, reference, mentioned, target,
    answered, notOwn, sameUnit⟩ := (finishes.records_requires fresh).mp recorded
  rw [sameObject] at notOwn sameUnit
  have notStandalone : ¬ edge.object.key.isStandalone = true := by
    intro standalone
    have nowhere := @package?_deliveryUnit_standalone _ target standalone
    rw [sameUnit, isMember] at nowhere
    cases nowhere
  rw [deliveryUnit_eq_self fun standalone => absurd standalone notStandalone] at sameUnit
  have rootLevel := ObjectKey.package?_eq_none.mp outside
  have isPackage : edge.object.key.objectType = .package := by
    by_contra notPackage
    simp [ObjectKey.isStandalone, rootLevel, notPackage] at notStandalone
  refine ⟨target, ?_, notOwn, isPackage, rootLevel, ⟨package, ?_, otherPackage⟩, custom, ?_⟩
  · exact ⟨iteration, state, scans, member, known, sameObject, reference, mentioned, answered⟩
  · rw [sameUnit, isMember]
  · rw [sameUnit]
    exact counts.2

/-- A package that refers to a member of another one has a record for it, and the
record is rejected. -/
theorem rejected_of_refersAcross (finishes : Finishes expansion roots last final closure)
    (fresh : expansion.prior = []) {object target : ObjectRef}
    (refers : expansion.RefersAcross roots config object target) :
    ∃ edge ∈ DependencyGraph.keptEdges config closure.edges, edge.object.key.package? = none ∧
      ∃ dependency package, DependencyGraph.countedDependency config edge = some dependency ∧
        dependency.key.package? = some package ∧ package ≠ edge.object.key.name := by
  obtain ⟨⟨iteration, state, scans, member, known, rfl, reference, mentioned, answered⟩, notOwn,
    isPackage, rootLevel, ⟨package, isMember, otherPackage⟩, custom, alsoCustom⟩ := refers
  have sameUnit : (deliveryUnit member.object target).key = target.key := by
    refine congrArg ObjectRef.key (deliveryUnit_eq_self fun standalone => ?_)
    simp [ObjectKey.isStandalone, isPackage] at standalone
  obtain ⟨edge, confirmed, sameObject, requires⟩ := (finishes.records_requires fresh).mpr
    ⟨iteration, state, scans, member, known, rfl, reference, mentioned, target, answered, notOwn,
      sameUnit⟩
  obtain ⟨listed, ok⟩ := List.mem_filter.mp confirmed
  obtain ⟨dependency, isDependency, sameKey⟩ := Option.map_eq_some_iff.mp requires
  have outside := ObjectKey.package?_eq_none.mpr rootLevel
  rw [← sameObject] at outside isPackage custom otherPackage
  rw [← sameKey] at isMember alsoCustom
  have differs : dependency.key ≠ edge.object.key := by
    intro same
    rw [same, outside] at isMember
    cases isMember
  have counted : DependencyGraph.countedDependency config edge = some dependency := by
    refine Option.filter_eq_some_iff.mpr ⟨isDependency, ?_⟩
    rw [decide_eq_true differs, alsoCustom, Bool.and_self]
  exact ⟨edge, DependencyGraph.isKept_of_package listed (of_decide_eq_true ok) isPackage custom
    isDependency differs, outside, dependency, package, counted, isMember, otherPackage⟩

end Finishes

/-! ## Runs -/

variable {Log : Type} {sink : EdgeSink Log}

/-- **When the records of a closure are refused for their shape**: exactly when a
package refers to a member of another package, and both are custom.  So neither
members nor objects that are no packages bring this about. -/
theorem invalidShape_iff_of_run (fresh : expansion.prior = []) {closure : Closure}
    {log after : Log} (done : expansion.run sink roots log = (.ok closure, after))
    (config : GraphConfig) :
    (∃ edge reason, DependencyGraph.build config closure.edges =
        .error (.invalidShape edge reason)) ↔
      ∃ object target, expansion.RefersAcross roots config object target := by
  obtain ⟨last, final, finishes⟩ := finishes_of_run done
  rw [DependencyGraph.build_eq_invalidShape]
  constructor
  · rintro ⟨edge, kept, outside, dependency, package, counted, isMember, otherPackage⟩
    exact ⟨edge.object, finishes.refersAcross_of_rejected fresh kept outside counted isMember
      otherPackage⟩
  · rintro ⟨object, target, refers⟩
    exact finishes.rejected_of_refersAcross fresh refers

/-- The rows of two packages, one of them with a function. -/
def crossingSnapshot : Snapshot :=
  Snapshot.ofRows [.new "A" .package "" "SALE", .new "A" .package "" "BILL",
    .new "A" .function "BILL" "SEND"]

/-- The expansion of the package that calls the function of the other one. -/
def crossingExpansion : Expansion where
  catalog := crossingSnapshot.catalog
  sources := (SourceShelf.ofEntries [.new "A" "" "SALE" "X := BILL.SEND(1);",
    .new "A" "" "BILL" "NULL;", .new "A" "BILL" "SEND" "NULL;"]).store
  config := {}

/-- The calling package. -/
def crossingRoot : ObjectRef := ObjectRef.new (some "A") (.packageNode "SALE")

/-- The function that is called. -/
def crossedFunction : ObjectRef := ObjectRef.new (some "A") (.new .function "BILL" "SEND")

theorem build_crossingExpansion :
    (crossingExpansion.run EdgeList.sink [crossingRoot] []).1.toOption.map
      (fun closure => DependencyGraph.build {} closure.edges) =
      some (.error (DependencyGraph.foreignMember crossingRoot crossedFunction "BILL")) := by
  with_unfolding_all rfl

/-- The records are refused, so the package refers to a member of another one. -/
theorem crossingExpansion_refersAcross :
    ∃ closure after, crossingExpansion.run EdgeList.sink [crossingRoot] [] = (.ok closure, after) ∧
      ∃ object target, crossingExpansion.RefersAcross [crossingRoot] {} object target := by
  obtain ⟨closure, after, done, refused⟩ := Outcome.eq_ok_of_reading build_crossingExpansion
  exact ⟨closure, after, done, (invalidShape_iff_of_run rfl done {}).mp ⟨_, _, refused⟩⟩

/-- **The records of a closure can be refused for their shape**, also when the
roots are rows of a snapshot in which tables, views and sequences are outside all
packages. -/
theorem not_forall_shape :
    ¬ ∀ (snapshot : Snapshot) (expansion : Expansion) (roots : List ObjectRef)
        (closure : Closure) (after : List Edge) (config : GraphConfig),
      expansion.catalog = snapshot.catalog → snapshot.Regular →
      (∀ root ∈ roots, ∃ row ∈ snapshot.rows, row.toRef = root) → expansion.prior = [] →
      expansion.run EdgeList.sink roots [] = (.ok closure, after) →
      ∀ edge reason, DependencyGraph.build config closure.edges ≠
        .error (.invalidShape edge reason) := by
  intro always
  obtain ⟨closure, after, done, refused⟩ := Outcome.eq_ok_of_reading build_crossingExpansion
  have regular : crossingSnapshot.Regular :=
    ⟨by with_unfolding_all decide, by with_unfolding_all decide⟩
  have rooted : ∀ root ∈ [crossingRoot], ∃ row ∈ crossingSnapshot.rows.toList,
      row.toRef = root := by
    with_unfolding_all decide
  exact always crossingSnapshot crossingExpansion [crossingRoot] closure after {} rfl regular
    rooted rfl done _ _ refused

end Expansion

end SchemaPlan
