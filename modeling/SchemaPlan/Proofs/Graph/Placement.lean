import SchemaPlan.Graph.Build
import SchemaPlan.Proofs.Graph.Naming

/-!
# Placing records

Placing a record takes up its object and then its dependency, if it has one, and
joins the two.  The cases that placing distinguishes differ only in how the
containers of the two are found, so a record that can be placed is placed in one
way (`places_of_place`), and all that is said of graphs made of records follows
from that.

In such a graph both ends of a requirement are objects that records name, so
neither of them is a placeholder (`built_ofEdges`).

Whether a record is rejected does not depend on those placed before it: it is when its
object is outside all packages and its dependency is a member of a package of another
name.  So a graph is refused for the first such record that is kept
(`ofEdges_eq_error`).
-/

set_option autoImplicit false

namespace SchemaPlan.DependencyGraph

variable {graph before after : DependencyGraph} {key : ObjectKey} {loose : List Nat}

/-! ## Records -/

/-- What it means to place a record: its object is taken up, and with a dependency
this is taken up as well and the two are joined. -/
inductive Places (before : DependencyGraph) (object : ObjectRef) :
    Option ObjectRef → DependencyGraph → Prop where
  | alone {after : DependencyGraph} {id : Nat} (settles : Settles before after object.key id) :
      Places before object none after
  | joined {middle last : DependencyGraph} {id target : Nat} {dependency : ObjectRef}
      (settles : Settles before middle object.key id)
      (further : Settles middle last dependency.key target) :
      Places before object (some dependency) (last.addRequires id target)

theorem settles_placeForRoot {id : Nat} {object dependency : ObjectRef}
    (placed : graph.placeForRoot id object dependency = .ok after) :
    ∃ last target, Settles graph last dependency.key target ∧
      after = last.addRequires id target := by
  rcases adding : graph.addObject dependency.key dependency.owner with ⟨added, target⟩
  simp only [placeForRoot, adding] at placed
  split at placed
  · next outside =>
    exact ⟨_, target, settles_outside adding outside, (Except.ok.inj placed).symm⟩
  · next package inside =>
    split at placed
    · rcases containing : added.addContainer package dependency.owner with ⟨contained, outer⟩
      rw [containing] at placed
      exact ⟨_, target, settles_within adding inside containing (puts_ensureContainer _),
        (Except.ok.inj placed).symm⟩
    · cases placed

theorem settles_placeForMember {outer : Nat} {package : String} {dependency : ObjectRef}
    (isPackage : graph.key? outer = some (.packageNode package)) (id : Nat) :
    ∃ last target, Settles graph last dependency.key target ∧
      graph.placeForMember id outer package dependency = last.addRequires id target := by
  rcases adding : graph.addObject dependency.key dependency.owner with ⟨added, target⟩
  simp only [placeForMember, adding]
  split
  · next outside => exact ⟨_, target, settles_outside adding outside, rfl⟩
  · next other inside =>
    split
    · next same => exact ⟨_, target, settles_beside adding (same ▸ inside) isPackage, rfl⟩
    · rcases containing : added.addContainer other dependency.owner with ⟨contained, outer⟩
      exact ⟨_, target, settles_within adding inside containing (puts_setContainer _), rfl⟩

/-- **A record that can be placed is placed in one way.** -/
theorem places_of_place {object : ObjectRef} {dependency : Option ObjectRef}
    (placed : graph.place object dependency = .ok after) :
    Places graph object dependency after := by
  rcases adding : graph.addObject object.key object.owner with ⟨added, id⟩
  simp only [place, adding] at placed
  split at placed
  · next outside =>
    have settles := settles_outside adding outside
    cases dependency with
    | none =>
        obtain rfl := Except.ok.inj placed
        exact .alone settles
    | some dependency =>
        obtain ⟨last, target, further, rfl⟩ := settles_placeForRoot placed
        exact .joined settles further
  · next package inside =>
    rcases containing : added.addContainer package object.owner with ⟨contained, outer⟩
    rw [containing] at placed
    have settles := settles_within adding inside containing (puts_setContainer (.package outer))
    cases dependency with
    | none =>
        obtain rfl := Except.ok.inj placed
        exact .alone settles
    | some dependency =>
        have keeps := (keeps_ensureContainer contained outer .root).trans
          (keeps_setContainer _ id (.package outer))
        have isPackage := keeps.key? ((takesUp_addObject adding).addContainer containing).2
        obtain ⟨last, target, further, same⟩ :=
          @settles_placeForMember _ outer package dependency isPackage id
        obtain rfl := same.symm.trans (Except.ok.inj placed)
        exact .joined settles further

/-! ## What placing a record does -/

theorem nodes_addRequires (graph : DependencyGraph) (object dependency : Nat) :
    (graph.addRequires object dependency).nodes = graph.nodes := by
  rw [addRequires]
  split <;> rfl

theorem keys_addRequires (graph : DependencyGraph) (object dependency : Nat) :
    (graph.addRequires object dependency).keys = graph.keys := by
  rw [DependencyGraph.keys, nodes_addRequires, DependencyGraph.keys]

theorem key?_addRequires (object dependency id : Nat) :
    (graph.addRequires object dependency).key? id = graph.key? id := by
  rw [← getElem?_keys, ← getElem?_keys, keys_addRequires]

theorem node?_addRequires (object dependency id : Nat) :
    (graph.addRequires object dependency).node? id = graph.node? id := by
  rw [node?, node?, nodes_addRequires]

theorem schedulesKey_addRequires {object dependency : Nat} :
    (graph.addRequires object dependency).SchedulesKey key ↔ graph.SchedulesKey key := by
  simp only [SchedulesKey, key?_addRequires, isScheduled, node?_addRequires]

theorem Arranged.addRequires (arranged : graph.Arranged loose) (object dependency : Nat) :
    (graph.addRequires object dependency).Arranged loose := by
  intro id node found
  rw [node?_addRequires] at found
  obtain ⟨isSkip, held⟩ := arranged id node found
  refine ⟨isSkip, held.imp_left fun ⟨container, isHeld, fits⟩ => ⟨container, isHeld, ?_⟩⟩
  cases container with
  | root => exact fits
  | package outer => simpa only [Suits, key?_addRequires] using fits

/-- Two different nodes are joined, and nothing else is. -/
theorem requires_addRequires {object dependency first second : Nat} (differ : object ≠ dependency)
    (objectInside : object < graph.nodes.length)
    (dependencyInside : dependency < graph.nodes.length) :
    (graph.addRequires object dependency).Requires first second ↔
      graph.Requires first second ∨ first = object ∧ second = dependency := by
  rw [Requires, Requires, DependencyGraph.addRequires]
  split
  · next refused =>
    rcases refused with same | present | objectOutside | dependencyOutside
    · exact absurd same differ
    · refine (or_iff_left_of_imp ?_).symm
      rintro ⟨rfl, rfl⟩
      exact present
    · omega
    · omega
  · simp

section

variable {object : ObjectRef} {dependency : Option ObjectRef}

/-- The keys that are named for a record, in their order. -/
def namesOf (object : ObjectRef) (dependency : Option ObjectRef) : List ObjectKey :=
  object.key.withPackage ++ dependency.toList.flatMap fun target => target.key.withPackage

/-- A record leaves both ends of the requirement that it stands for among the objects
that take part in delivery. -/
theorem Places.built (places : Places before object dependency after) (built : before.Built) :
    after.Built := by
  cases places with
  | alone settles => exact settles.keeps.built built
  | joined settles further =>
      exact built_addRequires ((settles.keeps.trans further.keeps).built built)
        (further.keeps.scheduled _ settles.scheduled) further.scheduled

theorem Places.keys (places : Places before object dependency after) {named : List ObjectKey}
    (isNamed : before.keys = named.eraseDups) :
    after.keys = (named ++ namesOf object dependency).eraseDups := by
  cases places with
  | alone settles =>
      rw [settles.keys named isNamed, namesOf, Option.toList_none, List.flatMap_nil,
        List.append_nil]
  | joined settles further =>
      rw [keys_addRequires, further.keys _ (settles.keys named isNamed), namesOf,
        Option.toList_some, List.flatMap_singleton, List.append_assoc]

theorem Places.arranged (places : Places before object dependency after)
    (arranged : before.Arranged []) : after.Arranged [] := by
  cases places with
  | alone settles => exact settles.arranged arranged
  | joined settles further => exact (further.arranged (settles.arranged arranged)).addRequires _ _

theorem Places.schedulesKey (places : Places before object dependency after) :
    after.SchedulesKey key ↔ before.SchedulesKey key ∨ key = object.key ∨
      ∃ target, dependency = some target ∧ key = target.key := by
  cases places with
  | alone settles => simp [settles.schedulesKey]
  | joined settles further =>
      rw [schedulesKey_addRequires, further.schedulesKey, settles.schedulesKey, or_assoc]
      simp

/-- **A record stands for one requirement**, if it has a dependency. -/
theorem Places.requiresKey (places : Places before object dependency after)
    (proper : before.Proper) (differs : ∀ target, dependency = some target →
      target.key ≠ object.key) {first second : ObjectKey} :
    after.RequiresKey first second ↔ before.RequiresKey first second ∨
      ∃ target, dependency = some target ∧ first = object.key ∧ second = target.key := by
  cases places with
  | alone settles => simp [settles.keeps.requiresKey_iff proper]
  | @joined _ last id target dependency settles further =>
      have keeps := settles.keeps.trans further.keeps
      have isObject := further.keeps.key? settles.found
      have isTarget := further.found
      have apart : id ≠ target := by
        rintro rfl
        rw [isObject, Option.some.injEq] at isTarget
        exact differs dependency rfl isTarget.symm
      rw [← keeps.requiresKey_iff proper]
      simp only [RequiresKey, key?_addRequires, requires_addRequires apart
        (List.mem_range.mp (mem_ids_of_key? isObject))
        (List.mem_range.mp (mem_ids_of_key? isTarget))]
      constructor
      · rintro ⟨one, other, old | ⟨rfl, rfl⟩, isFirst, isSecond⟩
        · exact .inl ⟨one, other, old, isFirst, isSecond⟩
        · rw [isObject, Option.some.injEq] at isFirst
          rw [isTarget, Option.some.injEq] at isSecond
          exact .inr ⟨dependency, rfl, isFirst.symm, isSecond.symm⟩
      · rintro (⟨one, other, old, isFirst, isSecond⟩ | ⟨_, same, rfl, rfl⟩)
        · exact ⟨one, other, .inl old, isFirst, isSecond⟩
        · obtain rfl := Option.some.inj same
          exact ⟨id, target, .inr ⟨rfl, rfl⟩, isObject, isTarget⟩

end

/-! ## Graphs made of records -/

/-- **No placeholder requires or is required** in a graph made of records. -/
theorem built_ofEdges {config : GraphConfig} {edges : List Edge} {graph : DependencyGraph}
    (made : ofEdges config edges = .ok graph) : graph.Built :=
  Outcome.foldlM_induction built_empty
    (fun _ _ _ _ built placed => (places_of_place placed).built built) made

theorem built_build {config : GraphConfig} {edges : List Edge} {graph : DependencyGraph}
    (made : build config edges = .ok graph) : graph.Built := by
  obtain ⟨made, whole, checked⟩ := Outcome.bind_eq_ok.mp made
  obtain ⟨_, _, same⟩ := Outcome.bind_eq_ok.mp checked
  exact Outcome.pure_eq_ok.mp same ▸ built_ofEdges whole

/-! ## Records that no graph can hold -/

/-- The failure of an object that is outside all packages and requires a member
of a package of another name. -/
def rejection? (object : ObjectRef) (dependency : Option ObjectRef) : Option GraphError :=
  match object.key.package? with
  | some _ => none
  | none => dependency.bind fun other => other.key.package?.bind fun package =>
    if package = object.key.name then none else some (foreignMember object other package)

/-- What is kept of the records. -/
def keptEdges (config : GraphConfig) (edges : List Edge) : List Edge :=
  edges.filter (isKept config (packagesWithDependencies edges))

/-- The failure of a record. -/
def rejectionOf? (config : GraphConfig) (edge : Edge) : Option GraphError :=
  rejection? edge.object (countedDependency config edge)

theorem rejection?_eq_some {object : ObjectRef} {dependency : Option ObjectRef}
    {failure : GraphError} :
    rejection? object dependency = some failure ↔ object.key.package? = none ∧
      ∃ other package, dependency = some other ∧ other.key.package? = some package ∧
        package ≠ object.key.name ∧ failure = foreignMember object other package := by
  rw [rejection?]
  cases object.key.package? with
  | some package => simp
  | none =>
      simp only [Option.bind_eq_some_iff, true_and]
      constructor
      · rintro ⟨other, required, package, isMember, rejected⟩
        split at rejected
        · cases rejected
        · next differs =>
          exact ⟨other, package, required, isMember, differs, (Option.some.inj rejected).symm⟩
      · rintro ⟨other, package, required, isMember, differs, rfl⟩
        exact ⟨other, required, package, isMember, if_neg differs⟩

theorem placeForRoot_eq_error {graph : DependencyGraph} {id : Nat}
    {object dependency : ObjectRef} {failure : GraphError} :
    graph.placeForRoot id object dependency = .error failure ↔
      (dependency.key.package?.bind fun package => if package = object.key.name then none
        else some (foreignMember object dependency package)) = some failure := by
  rw [placeForRoot]
  cases dependency.key.package? with
  | none => simp
  | some package =>
      by_cases same : package = object.key.name
      · simp [same]
      · simp [same]

/-- **A record is rejected by itself**, whatever has been placed before it. -/
theorem place_eq_error (graph : DependencyGraph) (object : ObjectRef)
    (dependency : Option ObjectRef) (failure : GraphError) :
    graph.place object dependency = .error failure ↔
      rejection? object dependency = some failure := by
  simp only [place, rejection?]
  cases object.key.package? with
  | some package => cases dependency <;> simp
  | none =>
      cases dependency with
      | none => simp
      | some dependency => exact placeForRoot_eq_error

/-- **A graph is refused for the first record that is rejected.** -/
theorem ofEdges_eq_error {config : GraphConfig} {edges : List Edge} {failure : GraphError} :
    ofEdges config edges = .error failure ↔
      (keptEdges config edges).findSome? (rejectionOf? config) = some failure :=
  Outcome.foldlM_eq_error fun graph edge failure =>
    place_eq_error graph edge.object (countedDependency config edge) failure

theorem ensureAcyclic_ne_invalidShape {graph : DependencyGraph} {edge reason : String} :
    graph.ensureAcyclic ≠ .error (.invalidShape edge reason) := by
  rw [ensureAcyclic]
  intro refused
  split at refused <;> cases refused

/-- **The shape of records is invalid** exactly when one of those that are kept is
rejected. -/
theorem build_eq_invalidShape {config : GraphConfig} {edges : List Edge} :
    (∃ edge reason, build config edges = .error (.invalidShape edge reason)) ↔
      ∃ edge ∈ keptEdges config edges, edge.object.key.package? = none ∧
        ∃ dependency package, countedDependency config edge = some dependency ∧
          dependency.key.package? = some package ∧ package ≠ edge.object.key.name := by
  constructor
  · rintro ⟨place, reason, refused⟩
    rcases Outcome.bind_eq_error.mp refused with made | ⟨graph, _, cyclic⟩
    · obtain ⟨edge, kept, rejected⟩ :=
        List.exists_of_findSome?_eq_some (ofEdges_eq_error.mp made)
      obtain ⟨outside, dependency, package, counted, isMember, other, _⟩ :=
        rejection?_eq_some.mp rejected
      exact ⟨edge, kept, outside, dependency, package, counted, isMember, other⟩
    · rcases Outcome.bind_eq_error.mp cyclic with shape | ⟨_, _, done⟩
      · exact absurd shape ensureAcyclic_ne_invalidShape
      · cases done
  · rintro ⟨edge, kept, outside, dependency, package, counted, isMember, other⟩
    have rejected : rejectionOf? config edge ≠ none := by
      intro nothing
      have here := rejection?_eq_some.mpr
        ⟨outside, dependency, package, counted, isMember, other, rfl⟩
      rw [rejectionOf?] at nothing
      rw [nothing] at here
      cases here
    have refused : (keptEdges config edges).findSome? (rejectionOf? config) ≠ none := by
      intro nothing
      exact rejected (List.findSome?_eq_none_iff.mp nothing edge kept)
    obtain ⟨failure, isFirst⟩ := Option.ne_none_iff_exists'.mp refused
    obtain ⟨first, _, firstRejected⟩ := List.exists_of_findSome?_eq_some isFirst
    obtain ⟨_, _, _, _, _, _, rfl⟩ := rejection?_eq_some.mp firstRejected
    exact ⟨_, _, Outcome.bind_eq_error.mpr (.inl (ofEdges_eq_error.mpr isFirst))⟩

end SchemaPlan.DependencyGraph
