import SchemaPlan.Proofs.Graph.Description

/-!
# When a graph is refused

A graph of records is refused for one of two reasons, and both can be told from the
records alone.  A retained record may say that an object outside all packages needs a
member of a package of another name (`Rejects`); then the first such record is
reported.  Otherwise what the records need may have cycles; then the components of
the keys that need each other are reported, in the order in which nodes are created
(`build_fails_iff`).  For every other list of records there is a graph.
-/

set_option autoImplicit false

namespace SchemaPlan

open Relation (TransGen)

namespace GraphConfig

variable {config : GraphConfig} {edges : List Edge} {edge : Edge} {dependency : ObjectRef}
  {package : String}

/-- A retained record says that an object outside all packages needs a member of a
package of another name. -/
structure Rejects (config : GraphConfig) (edges : List Edge) (edge : Edge)
    (dependency : ObjectRef) (package : String) : Prop where
  retained : config.Retains edges edge
  outside : edge.object.key.package? = none
  requires : edge.dependency = some dependency
  differs : dependency.key ≠ edge.object.key
  custom : config.isCustom dependency.key = true
  member : dependency.key.package? = some package
  foreign : package ≠ edge.object.key.name

/-- A rejected record has no other one before it. -/
def RejectsFirst (config : GraphConfig) (edges : List Edge) (edge : Edge)
    (dependency : ObjectRef) (package : String) : Prop :=
  config.Rejects edges edge dependency package ∧
    ∃ before after, edges = before ++ edge :: after ∧
      ∀ earlier ∈ before, ∀ target other, ¬ config.Rejects edges earlier target other

end GraphConfig

namespace DependencyGraph

variable {config : GraphConfig} {edges : List Edge} {edge : Edge} {graph : DependencyGraph}

/-! ## Rejected records -/

theorem rejectionOf?_eq_some {failure : GraphError} :
    (edge ∈ keptEdges config edges ∧ rejectionOf? config edge = some failure) ↔
      ∃ dependency package, config.Rejects edges edge dependency package ∧
        failure = foreignMember edge.object dependency package := by
  rw [mem_keptEdges, rejectionOf?, rejection?_eq_some]
  simp only [countedDependency_eq_some]
  constructor
  · rintro ⟨retains, outside, dependency, package, ⟨requires, differs, custom⟩, member, foreign,
      rfl⟩
    exact ⟨dependency, package,
      ⟨retains, outside, requires, differs, custom, member, foreign⟩, rfl⟩
  · rintro ⟨dependency, package, rejects, rfl⟩
    exact ⟨rejects.retained, rejects.outside, dependency, package,
      ⟨rejects.requires, rejects.differs, rejects.custom⟩, rejects.member, rejects.foreign, rfl⟩

/-- Looking for the first failure of what is kept passes over the other records. -/
theorem findSome?_keptEdges {failure : GraphError} :
    (keptEdges config edges).findSome? (rejectionOf? config) = some failure ↔
      ∃ before edge after, edges = before ++ edge :: after ∧
        (edge ∈ keptEdges config edges ∧ rejectionOf? config edge = some failure) ∧
        ∀ earlier ∈ before, earlier ∈ keptEdges config edges →
          rejectionOf? config earlier = none := by
  have kept : ∀ one ∈ edges, (isKept config (packagesWithDependencies edges) one = true ↔
      one ∈ keptEdges config edges) :=
    fun one listed => by rw [keptEdges, List.mem_filter, and_iff_right listed]
  rw [← List.head?_filterMap, keptEdges, List.filterMap_filter, List.head?_filterMap,
    List.findSome?_eq_some_iff]
  refine exists_congr fun before => exists_congr fun edge => exists_congr fun after =>
    and_congr_right fun split => and_congr ?_ ?_
  · rw [Option.ite_none_right_eq_some, kept edge (by simp [split]), keptEdges]
  · refine forall_congr' fun earlier => imp_congr_right fun isBefore => ?_
    have listed : earlier ∈ edges := by simp [split, isBefore]
    rw [ite_eq_right_iff, kept earlier listed, keptEdges]

/-- **A graph of records is refused for the first one that is rejected.** -/
theorem ofEdges_eq_error_iff {failure : GraphError} :
    ofEdges config edges = .error failure ↔ ∃ edge dependency package,
      config.RejectsFirst edges edge dependency package ∧
        failure = foreignMember edge.object dependency package := by
  have none_iff : ∀ one, (one ∈ keptEdges config edges → rejectionOf? config one = none) ↔
      ∀ dependency package, ¬ config.Rejects edges one dependency package := by
    intro one
    constructor
    · intro passes dependency package rejects
      obtain ⟨kept, failed⟩ := rejectionOf?_eq_some.mpr ⟨dependency, package, rejects, rfl⟩
      rw [passes kept] at failed
      cases failed
    · intro passes kept
      refine Option.eq_none_iff_forall_ne_some.mpr fun found failed => ?_
      obtain ⟨dependency, package, rejects, _⟩ := rejectionOf?_eq_some.mp ⟨kept, failed⟩
      exact passes dependency package rejects
  rw [ofEdges_eq_error, findSome?_keptEdges]
  simp only [rejectionOf?_eq_some, none_iff]
  constructor
  · rintro ⟨before, edge, after, split, ⟨dependency, package, rejects, rfl⟩, isFirst⟩
    exact ⟨edge, dependency, package, ⟨rejects, before, after, split, isFirst⟩, rfl⟩
  · rintro ⟨edge, dependency, package, ⟨rejects, before, after, split, isFirst⟩, rfl⟩
    exact ⟨before, edge, after, split, ⟨dependency, package, rejects, rfl⟩, isFirst⟩

/-- If a record is rejected, one of them is the first. -/
theorem exists_rejectsFirst :
    (∃ edge dependency package, config.RejectsFirst edges edge dependency package) ↔
      ∃ edge dependency package, config.Rejects edges edge dependency package := by
  constructor
  · rintro ⟨edge, dependency, package, rejects, _⟩
    exact ⟨edge, dependency, package, rejects⟩
  · rintro ⟨edge, dependency, package, rejects⟩
    obtain ⟨kept, failed⟩ := rejectionOf?_eq_some.mpr ⟨dependency, package, rejects, rfl⟩
    have some : (keptEdges config edges).findSome? (rejectionOf? config) ≠ none := by
      intro nothing
      rw [List.findSome?_eq_none_iff.mp nothing edge kept] at failed
      cases failed
    obtain ⟨failure, isFirst⟩ := Option.ne_none_iff_exists'.mp some
    obtain ⟨first, target, other, rejectsFirst, _⟩ :=
      ofEdges_eq_error_iff.mp (ofEdges_eq_error.mpr isFirst)
    exact ⟨first, target, other, rejectsFirst⟩

/-! ## Cycles of what is needed -/

/-- Keys need each other just as their nodes require each other. -/
theorem requiresKey_eq_needs (made : ofEdges config edges = .ok graph) :
    graph.RequiresKey = config.Needs edges := by
  funext object dependency
  exact propext (reflects_ofEdges made).requiresKey_iff_needs

theorem ensureAcyclic_eq_ok : graph.ensureAcyclic = .ok () ↔ graph.cycles = [] := by
  rw [ensureAcyclic, ← List.isEmpty_iff]
  split
  · next nothing => simp [nothing]
  · next some => simp [some]

theorem cycles_eq_nil_iff (made : ofEdges config edges = .ok graph) :
    graph.cycles = [] ↔ ∀ key, ¬ TransGen (config.Needs edges) key key := by
  have proper := (built_ofEdges made).toProper
  rw [← ensureAcyclic_eq_ok, ensureAcyclic_eq_ok_iff proper, acyclic_iff_keys proper,
    requiresKey_eq_needs made]

theorem build_eq_ok_iff :
    build config edges = .ok graph ↔ ofEdges config edges = .ok graph ∧
      ∀ key, ¬ TransGen (config.Needs edges) key key := by
  constructor
  · intro done
    obtain ⟨made, isMade, checked⟩ := Outcome.bind_eq_ok.mp done
    obtain ⟨_, passed, same⟩ := Outcome.bind_eq_ok.mp checked
    obtain rfl := Outcome.pure_eq_ok.mp same
    exact ⟨isMade, (cycles_eq_nil_iff isMade).mp (ensureAcyclic_eq_ok.mp passed)⟩
  · rintro ⟨isMade, acyclic⟩
    have passed := ensureAcyclic_eq_ok.mpr ((cycles_eq_nil_iff isMade).mpr acyclic)
    exact Outcome.bind_eq_ok.mpr ⟨graph, isMade, Outcome.bind_eq_ok.mpr ⟨(), passed, rfl⟩⟩

/-- **There is a graph exactly when no record is rejected.** -/
theorem exists_ofEdges_iff :
    (∃ graph, ofEdges config edges = .ok graph) ↔
      ∀ edge dependency package, ¬ config.Rejects edges edge dependency package := by
  constructor
  · rintro ⟨graph, made⟩ edge dependency package rejects
    obtain ⟨first, target, other, isFirst⟩ :=
      exists_rejectsFirst.mpr ⟨edge, dependency, package, rejects⟩
    have refused := ofEdges_eq_error_iff.mpr ⟨first, target, other, isFirst, rfl⟩
    rw [made] at refused
    cases refused
  · intro passes
    cases made : ofEdges config edges with
    | ok graph => exact ⟨graph, rfl⟩
    | error failure =>
        obtain ⟨edge, dependency, package, ⟨rejects, _⟩, _⟩ := ofEdges_eq_error_iff.mp made
        exact absurd rejects (passes edge dependency package)

end DependencyGraph

end SchemaPlan
