import SchemaPlan.Proofs.Closure.Absence

/-!
# What a closure means

What a closure has to say is told by the catalog and the sources alone: which
objects can be reached from the roots (`Reaches`), what the catalog answers to
their references (`Calls`), and which records follow (`Tells`).  No run occurs
in this.

A run answers many references from what it knows and not by the catalog, so in
general its closure depends on the order in which objects are found.  It does
not when names are unambiguous (`Unambiguous`).
-/

set_option autoImplicit false

namespace SchemaPlan.Expansion

/-- The same expansion without an earlier run, never cancelled. -/
def afresh (expansion : Expansion) : Expansion :=
  { expansion with isCancelled := fun _ => false, prior := [] }

/-! ## Meaning -/

/-- The objects that can be reached from the roots: with an object its package,
and what the catalog finds for its references. -/
inductive Reaches (expansion : Expansion) (roots : List ObjectRef) : ObjectRef → Prop
  | root {object : ObjectRef} (isRoot : object ∈ roots) : Reaches expansion roots object
  | container {object package : ObjectRef} (reaches : Reaches expansion roots object)
      (contained : containerOf? object = some package) : Reaches expansion roots package
  | found {object : ObjectRef} {reference : Reference} {row : CatalogRow}
      (reaches : Reaches expansion roots object)
      (mentions : expansion.Mentions object reference)
      (resolved : reference.resolve object.owner expansion.catalog = .ok (some row)) :
      Reaches expansion roots row.toRef

/-- An object that can be reached contains a reference, and the catalog gives this
answer to it. -/
structure Calls (expansion : Expansion) (roots : List ObjectRef) (object : ObjectRef)
    (reference : Reference) (answer : Option CatalogRow) : Prop where
  reaches : expansion.Reaches roots object
  mentions : expansion.Mentions object reference
  resolved : reference.resolve object.owner expansion.catalog = .ok answer

/-- The object that a reference stands for, by the answer of the catalog. -/
def meaning (reference : Reference) (answer : Option CatalogRow) : ObjectRef :=
  (answer.map CatalogRow.toRef).getD reference.placeholder

/-- The records that a closure has to hold, before owners are filled in. -/
inductive Tells (expansion : Expansion) (roots : List ObjectRef) : Edge → Prop
  | leaf {object : ObjectRef} (reaches : expansion.Reaches roots object)
      (own : ∀ reference answer, expansion.Calls roots object reference answer →
        isOwnDeliveryUnit object (meaning reference answer) = true) :
      Tells expansion roots (Edge.leaf object)
  | requires {object : ObjectRef} {reference : Reference} {answer : Option CatalogRow}
      (calls : expansion.Calls roots object reference answer)
      (other : isOwnDeliveryUnit object (meaning reference answer) = false) :
      Tells expansion roots (Edge.requires object (deliveryUnit object (meaning reference answer)))
  | sourceless {object : ObjectRef} (reaches : expansion.Reaches roots object)
      (lacks : expansion.LacksSource object) : Tells expansion roots (Edge.missing object)
  | unresolved {object : ObjectRef} {reference : Reference}
      (calls : expansion.Calls roots object reference none) :
      Tells expansion roots (Edge.missing reference.placeholder)

/-- A known object may be taken for what the reference stands for. -/
structure Fits (reference : Reference) (object : ObjectRef) : Prop where
  package : object.key.package ∈ ClosureState.searchedPackages reference
  name : object.key.name = reference.name
  type : reference.kind.accepts object.key.objectType = true
  owner : ClosureState.ownerAgrees reference object = true

/-- Names are unambiguous: the objects that can be reached have distinct keys, a
reference stands for one thing wherever it occurs, no other object fits it, and
the key of its placeholder is missing for its own sake only.  The owner of an
object without source is told by the references to it, or by the name of what they
require. -/
structure Unambiguous (expansion : Expansion) (roots : List ObjectRef) : Prop where
  oneObject : ∀ first second, expansion.Reaches roots first → expansion.Reaches roots second →
    first.key = second.key → first = second
  oneAnswer : ∀ first second reference answer other, expansion.Calls roots first reference answer →
    expansion.Calls roots second reference other → answer = other
  noHomonym : ∀ caller reference answer object, expansion.Calls roots caller reference answer →
    expansion.Reaches roots object → Fits reference object →
    ∃ row, answer = some row ∧ row.toRef = object
  onePlaceholder : ∀ first second reference other answer,
    expansion.Calls roots first reference none → expansion.Calls roots second other answer →
    other.placeholder.key = reference.placeholder.key →
    answer = none ∧ other.placeholder = reference.placeholder
  sourceless : ∀ caller reference answer object, expansion.Calls roots caller reference answer →
    expansion.Reaches roots object → expansion.LacksSource object →
    reference.placeholder.key = object.key → Fits reference object
  oneOwner : ∀ caller reference row, expansion.Calls roots caller reference (some row) →
    expansion.LacksSource row.toRef → reference.placeholder.owner = row.toRef.owner ∨
      reference.placeholder.owner = none ∧ ∀ other, expansion.Reaches roots other →
        other.key.name = (deliveryUnit caller row.toRef).key.name →
        other.owner = row.toRef.owner

/-- The records that a closure may hold, before owners are filled in: those that it
has to hold, and those that require an object without source by a placeholder. -/
inductive Allows (expansion : Expansion) (roots : List ObjectRef) : Edge → Prop
  | told {edge : Edge} (tells : expansion.Tells roots edge) : Allows expansion roots edge
  | unowned {caller : ObjectRef} {reference : Reference} {row : CatalogRow}
      (calls : expansion.Calls roots caller reference (some row))
      (lacks : expansion.LacksSource row.toRef)
      (sameKey : reference.placeholder.key = row.toRef.key)
      (other : isOwnDeliveryUnit caller row.toRef = false) :
      Allows expansion roots (Edge.requires caller (deliveryUnit caller reference.placeholder))

variable {expansion : Expansion} {roots : List ObjectRef}

/-- The references in the source of an object. -/
def mentionsOf (expansion : Expansion) (object : ObjectRef) : List Reference :=
  match expansion.catalog.owners, expansion.referencesOf object with
  | .ok owners, .ok (some references) =>
      (ClosureState.externalReferences references).map fun mention =>
        Reference.qualify mention.1 mention.2 owners object
  | _, _ => []

theorem Mentions.mem_mentionsOf {object : ObjectRef} {reference : Reference}
    (mentions : expansion.Mentions object reference) : reference ∈ expansion.mentionsOf object := by
  obtain ⟨owners, references, mention, isOwners, source, listed, external, rfl⟩ := mentions
  rw [mentionsOf, isOwners, source]
  refine List.mem_map.mpr ⟨mention, ?_, rfl⟩
  exact List.mem_filter.mpr ⟨listed, decide_eq_true external⟩

/-- What is closed under reaching holds every object that can be reached. -/
theorem Reaches.mem_of_closed {objects : List ObjectRef} (rooted : ∀ root ∈ roots, root ∈ objects)
    (housed : ∀ object ∈ objects, ∀ package, containerOf? object = some package →
      package ∈ objects)
    (answered : ∀ object ∈ objects, ∀ reference row, expansion.Mentions object reference →
      reference.resolve object.owner expansion.catalog = .ok (some row) → row.toRef ∈ objects)
    {object : ObjectRef} (reaches : expansion.Reaches roots object) : object ∈ objects := by
  induction reaches with
  | root isRoot => exact rooted _ isRoot
  | container _ contained ih => exact housed _ ih _ contained
  | found _ mentions resolved ih => exact answered _ ih _ _ mentions resolved

/-- What has to be required for the sake of an object can be reached with it. -/
theorem Reaches.deliveryUnit {object : ObjectRef} (reaches : expansion.Reaches roots object)
    (caller : ObjectRef) : expansion.Reaches roots (deliveryUnit caller object) := by
  by_cases direct : caller.key.isStandalone = true → object.key.package? = none
  · rw [deliveryUnit_eq_self direct]
    exact reaches
  · rw [Classical.not_imp, ← ne_eq, Option.ne_none_iff_exists'] at direct
    obtain ⟨standalone, package, isMember⟩ := direct
    rw [deliveryUnit_of_member standalone isMember]
    refine reaches.container ?_
    rw [containerOf?, isMember, Option.map_some]

/-- The object of a confirmed record can be reached. -/
theorem Tells.reaches {edge : Edge} (tells : expansion.Tells roots edge)
    (ok : edge.status = .ok) : expansion.Reaches roots edge.object := by
  cases tells with
  | leaf reaches _ => exact reaches
  | requires calls _ => exact calls.reaches
  | sourceless _ _ => cases ok
  | unresolved _ => cases ok

theorem Allows.reaches {edge : Edge} (allows : expansion.Allows roots edge)
    (ok : edge.status = .ok) : expansion.Reaches roots edge.object := by
  cases allows with
  | told tells => exact tells.reaches ok
  | unowned calls _ _ _ => exact calls.reaches

/-- A record that an object is missing is told. -/
theorem Allows.tells {edge : Edge} (allows : expansion.Allows roots edge)
    (missing : edge.status = .missing) : expansion.Tells roots edge := by
  cases allows with
  | told tells => exact tells
  | unowned _ _ _ _ => cases missing

/-- A placeholder that is missing is not an object without source that can be
reached. -/
theorem Unambiguous.not_lacksSource_placeholder (unambiguous : expansion.Unambiguous roots)
    {caller : ObjectRef} {reference : Reference}
    (calls : expansion.Calls roots caller reference none)
    (reaches : expansion.Reaches roots reference.placeholder) :
    ¬ expansion.LacksSource reference.placeholder := by
  intro lacks
  have fits := unambiguous.sourceless caller reference none _ calls reaches lacks rfl
  obtain ⟨row, isRow, _⟩ := unambiguous.noHomonym caller reference none _ calls reaches fits
  cases isRow

end SchemaPlan.Expansion
