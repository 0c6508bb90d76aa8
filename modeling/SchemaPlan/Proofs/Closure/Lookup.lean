import SchemaPlan.Proofs.Closure.State
import SchemaPlan.Proofs.Collection
import SchemaPlan.Proofs.Object

/-!
# What a state answers

A state answers a reference with an object: with a known one, or with the
placeholder when it holds that nothing satisfies the reference.  The records of
a known object and the references that it leaves open are read off the answers
to its references.

Whether an answer counts as the object itself does not depend on the delivery
unit: what is required through a package is never the object's own.
-/

set_option autoImplicit false

namespace SchemaPlan

/-! ## Own references -/

/-- Whether an object belongs to no package and is no package. -/
def ObjectKey.isStandalone (key : ObjectKey) : Bool :=
  key.isRootLevel && decide (key.objectType ≠ .package)

/-- A standalone object requires the package of a member. -/
theorem deliveryUnit_of_member {object target : ObjectRef} {package : String}
    (standalone : object.key.isStandalone = true) (isMember : target.key.package? = some package) :
    deliveryUnit object target = ObjectRef.new target.owner (ObjectKey.packageNode package) := by
  rw [ObjectKey.isStandalone] at standalone
  rw [deliveryUnit, if_pos standalone, isMember]

/-- Every other dependency is required by itself. -/
theorem deliveryUnit_eq_self {object target : ObjectRef}
    (direct : object.key.isStandalone = true → target.key.package? = none) :
    deliveryUnit object target = target := by
  rw [deliveryUnit]
  split
  · next standalone => rw [direct standalone]
  · rfl

/-- A standalone object is delivered by itself. -/
theorem deliveryPackage?_of_standalone {key : ObjectKey} (standalone : key.isStandalone = true) :
    key.deliveryPackage? = none := by
  rw [ObjectKey.isStandalone, Bool.and_eq_true, decide_eq_true_eq] at standalone
  exact deliveryPackage?_eq_none standalone.1 standalone.2

/-- A delivery unit has no owner when the object has none. -/
theorem owner_deliveryUnit_eq_none {object target : ObjectRef} (unowned : target.owner = none) :
    (deliveryUnit object target).owner = none := by
  rw [deliveryUnit]
  split
  · split
    · rw [unowned]
      rfl
    · exact unowned
  · exact unowned

/-- What is delivered with a package requires every dependency by itself. -/
theorem deliveryUnit_of_delivered {object : ObjectRef} {package : String}
    (delivered : object.key.deliveryPackage? = some package) (target : ObjectRef) :
    deliveryUnit object target = target := by
  refine deliveryUnit_eq_self fun standalone => ?_
  rw [deliveryPackage?_of_standalone standalone] at delivered
  cases delivered

/-- Neither a member of a package nor a package is a standalone object's own. -/
theorem isOwnDeliveryUnit_standalone {object target : ObjectRef}
    (standalone : object.key.isStandalone = true) (other : target.key.isStandalone = false) :
    isOwnDeliveryUnit object target = false := by
  have otherKey : target.key ≠ object.key := by
    intro same
    rw [same, standalone] at other
    cases other
  simp [isOwnDeliveryUnit, deliveryPackage?_of_standalone standalone, otherKey]

/-- An object is never the package that it requires for the sake of a member. -/
theorem isOwnDeliveryUnit_deliveryUnit (object target : ObjectRef) :
    isOwnDeliveryUnit object (deliveryUnit object target) = isOwnDeliveryUnit object target := by
  by_cases direct : object.key.isStandalone = true → target.key.package? = none
  · rw [deliveryUnit_eq_self direct]
  · rw [Classical.not_imp, ← ne_eq, Option.ne_none_iff_exists'] at direct
    obtain ⟨standalone, package, isMember⟩ := direct
    rw [deliveryUnit_of_member standalone isMember, isOwnDeliveryUnit_standalone standalone,
      isOwnDeliveryUnit_standalone standalone]
    · rw [ObjectKey.isStandalone, (ObjectKey.isRootLevel_of_package?_eq_some isMember).1,
        Bool.false_and]
    · exact Bool.and_false _

/-- What is own is told by the key alone. -/
theorem isOwnDeliveryUnit_congr {object first second : ObjectRef}
    (same : first.key = second.key) :
    isOwnDeliveryUnit object first = isOwnDeliveryUnit object second := by
  rw [isOwnDeliveryUnit, isOwnDeliveryUnit, same]

/-- What is no package is own only as the object itself. -/
theorem isOwnDeliveryUnit_of_ne_package {object target : ObjectRef}
    (notPackage : target.key.objectType ≠ .package) :
    isOwnDeliveryUnit object target = decide (target.key = object.key) := by
  rw [isOwnDeliveryUnit, decide_eq_false notPackage, Bool.false_and, Bool.or_false]

/-- The key of a delivery unit is told by the key alone. -/
theorem key_deliveryUnit_congr {object first second : ObjectRef}
    (same : first.key = second.key) :
    (deliveryUnit object first).key = (deliveryUnit object second).key := by
  rw [deliveryUnit, deliveryUnit, same]
  split
  · split <;> first | rfl | exact same
  · exact same

namespace ClosureState

variable {state : ClosureState}

/-! ## Answers -/

/-- The object that answers a reference, if the state can answer it. -/
def target? (state : ClosureState) (reference : Reference) : Option ObjectRef :=
  match state.lookup reference with
  | .present object => some object
  | .absent => some reference.placeholder
  | .unasked => none

/-- The references to other objects that a known object makes. -/
def referencesFrom (state : ClosureState) (member : KnownObject) : List Reference :=
  match member.references with
  | some references => (externalReferences references).map fun mention =>
      Reference.qualify mention.1 mention.2 state.owners member.object
  | none => []

theorem mem_referencesFrom {member : KnownObject} {reference : Reference} :
    reference ∈ state.referencesFrom member ↔
      ∃ references, member.references = some references ∧ ∃ mention ∈ references.toList,
        mention.1 ≠ .localFunction ∧
        Reference.qualify mention.1 mention.2 state.owners member.object = reference := by
  rw [referencesFrom]
  cases member.references with
  | none => simp
  | some references => simp [externalReferences, and_assoc]

/-- What a reference of an object comes to. -/
def sightOf (state : ClosureState) (object : ObjectRef) (reference : Reference) : Sighting :=
  match state.target? reference with
  | some target => Sighting.ofTarget object target
  | none => .pending reference

theorem sightings_eq (state : ClosureState) (member : KnownObject) :
    state.sightings member =
      (state.referencesFrom member).map (state.sightOf member.object) := by
  rw [sightings, referencesFrom]
  cases member.references with
  | none => rfl
  | some references =>
      simp only [List.map_map]
      refine List.map_congr_left fun mention _ => ?_
      simp only [sight, Function.comp_apply, sightOf, target?]
      cases state.lookup (Reference.qualify mention.1 mention.2 state.owners member.object) <;> rfl

theorem sightOf_eq_own {object : ObjectRef} {reference : Reference} :
    state.sightOf object reference = .own ↔ ∃ target, state.target? reference = some target ∧
      isOwnDeliveryUnit object target = true := by
  rw [sightOf]
  cases state.target? reference with
  | none => simp
  | some target =>
      simp only [Sighting.ofTarget, isOwnDeliveryUnit_deliveryUnit]
      split
      · next own => simp [own]
      · next other => simp [other]

theorem sightOf_eq_requires {object dependency : ObjectRef} {reference : Reference} :
    state.sightOf object reference = .requires dependency ↔
      ∃ target, state.target? reference = some target ∧
        isOwnDeliveryUnit object target = false ∧ deliveryUnit object target = dependency := by
  rw [sightOf]
  cases state.target? reference with
  | none => simp
  | some target =>
      simp only [Sighting.ofTarget, isOwnDeliveryUnit_deliveryUnit]
      split
      · next own => simp [own]
      · next other => simp [other]

theorem pending?_sightOf {object : ObjectRef} {reference other : Reference} :
    (state.sightOf object reference).pending? = some other ↔
      state.target? reference = none ∧ reference = other := by
  rw [sightOf]
  cases state.target? reference with
  | none => simp [Sighting.pending?]
  | some target =>
      simp only [Sighting.ofTarget]
      split <;> simp [Sighting.pending?]

theorem record?_sightOf {object : ObjectRef} {reference : Reference} {edge : Edge} :
    (state.sightOf object reference).record? object = some edge ↔
      ∃ target, state.target? reference = some target ∧ isOwnDeliveryUnit object target = false ∧
        edge = Edge.requires object (deliveryUnit object target) := by
  constructor
  · intro recorded
    cases sighted : state.sightOf object reference with
    | own => simp [sighted, Sighting.record?] at recorded
    | pending _ => simp [sighted, Sighting.record?] at recorded
    | requires dependency =>
        obtain ⟨target, answered, other, rfl⟩ := sightOf_eq_requires.mp sighted
        simp only [sighted, Sighting.record?, Option.some.injEq] at recorded
        exact ⟨target, answered, other, recorded.symm⟩
  · rintro ⟨target, answered, other, rfl⟩
    rw [sightOf_eq_requires.mpr ⟨target, answered, other, rfl⟩]
    rfl

/-! ## Records and open references -/

/-- **The records of a known object**: a leaf record when all its references
mean the object itself, and one for every other object that answers one. -/
theorem mem_recordsOf {member : KnownObject} {edge : Edge} :
    edge ∈ state.recordsOf member ↔
      (edge = Edge.leaf member.object ∧ ∀ reference ∈ state.referencesFrom member,
        ∃ target, state.target? reference = some target ∧
          isOwnDeliveryUnit member.object target = true) ∨
      ∃ reference ∈ state.referencesFrom member, ∃ target,
        state.target? reference = some target ∧
        isOwnDeliveryUnit member.object target = false ∧
        edge = Edge.requires member.object (deliveryUnit member.object target) := by
  simp only [recordsOf, sightings_eq, List.all_map, List.all_eq_true, Function.comp_apply,
    decide_eq_true_eq, sightOf_eq_own]
  split
  · next allOwn =>
    rw [List.mem_singleton]
    constructor
    · exact fun same => .inl ⟨same, allOwn⟩
    · rintro (⟨same, _⟩ | ⟨reference, mentioned, target, answered, other, _⟩)
      · exact same
      · obtain ⟨again, alsoAnswered, own⟩ := allOwn reference mentioned
        rw [answered, Option.some.injEq] at alsoAnswered
        rw [alsoAnswered, own] at other
        cases other
  · next notAll =>
    simp only [List.filterMap_map, List.mem_filterMap, Function.comp_apply, record?_sightOf]
    exact (or_iff_right fun leaf => notAll leaf.2).symm

/-- A record that is read off a known object is a confirmed one of the object. -/
theorem confirmed_of_mem_recordsOf {member : KnownObject} {edge : Edge}
    (recorded : edge ∈ state.recordsOf member) :
    edge.status = .ok ∧ edge.object = member.object := by
  rcases mem_recordsOf.mp recorded with ⟨rfl, _⟩ | ⟨_, _, _, _, _, rfl⟩ <;> exact ⟨rfl, rfl⟩

theorem mem_openOf {member : KnownObject} {reference : Reference} {referrer : ObjectRef} :
    (reference, referrer) ∈ state.openOf member ↔
      reference ∈ state.referencesFrom member ∧ state.target? reference = none ∧
        referrer = member.object := by
  simp only [openOf, sightings_eq, List.filterMap_map, List.mem_filterMap, Function.comp_apply,
    Option.map_eq_some_iff, pending?_sightOf, Prod.mk.injEq]
  constructor
  · rintro ⟨_, mentioned, _, ⟨unanswered, rfl⟩, rfl, same⟩
    exact ⟨mentioned, unanswered, same.symm⟩
  · rintro ⟨mentioned, unanswered, same⟩
    exact ⟨reference, mentioned, reference, ⟨unanswered, rfl⟩, rfl, same.symm⟩

theorem mem_ordered {entries : List (Reference × ObjectRef)} {entry : Reference × ObjectRef}
    (member : entry ∈ ordered entries) : entry ∈ entries := by
  obtain ⟨reference, _, found⟩ := List.mem_filterMap.mp member
  exact List.mem_of_find?_eq_some found

/-- An open reference is one of a known object that the state cannot answer. -/
theorem mem_pending {reference : Reference} {referrer : ObjectRef}
    (member : (reference, referrer) ∈ state.pending) :
    ∃ known ∈ state.known, known.object = referrer ∧ reference ∈ state.referencesFrom known ∧
      state.target? reference = none := by
  obtain ⟨known, inKnown, isOpen⟩ := List.mem_flatMap.mp (mem_ordered member)
  obtain ⟨mentioned, unanswered, same⟩ := mem_openOf.mp isOpen
  exact ⟨known, Sorting.mem_sortOn.mp inKnown, same.symm, mentioned, unanswered⟩

theorem eq_of_find? {entries : List (Reference × ObjectRef)} {reference : Reference}
    {entry : Reference × ObjectRef}
    (found : entries.find? (fun entry => decide (entry.1 = reference)) = some entry) :
    entry.1 = reference := by
  simpa using List.find?_some found

/-- A reference of a known object that the state cannot answer is open. -/
theorem mem_map_pending {known : KnownObject} (inKnown : known ∈ state.known)
    {reference : Reference} (mentioned : reference ∈ state.referencesFrom known)
    (unanswered : state.target? reference = none) : reference ∈ state.pending.map (·.1) := by
  let entries := state.sortedKnown.flatMap state.openOf
  have isOpen : (reference, known.object) ∈ entries :=
    List.mem_flatMap.mpr ⟨known, Sorting.mem_sortOn.mpr inKnown,
      mem_openOf.mpr ⟨mentioned, unanswered, rfl⟩⟩
  have listed : reference ∈ (OrderedSet.ofList (entries.map (·.1))).toList :=
    OrderedSet.mem_ofList.mpr (List.mem_map.mpr ⟨_, isOpen, rfl⟩)
  have found : (entries.find? fun entry => decide (entry.1 = reference)).isSome = true :=
    List.find?_isSome.mpr ⟨_, isOpen, decide_eq_true rfl⟩
  obtain ⟨entry, isEntry⟩ := Option.isSome_iff_exists.mp found
  exact List.mem_map.mpr ⟨entry, List.mem_filterMap.mpr ⟨reference, listed, isEntry⟩,
    eq_of_find? isEntry⟩

/-- With nothing pending every reference of a known object is answered. -/
theorem target?_of_pending_eq_nil (nothing : state.pending = []) {known : KnownObject}
    (inKnown : known ∈ state.known) {reference : Reference}
    (mentioned : reference ∈ state.referencesFrom known) :
    ∃ target, state.target? reference = some target := by
  rw [← Option.isSome_iff_exists, ← Option.ne_none_iff_isSome]
  intro unanswered
  have member := mem_map_pending inKnown mentioned unanswered
  rw [nothing] at member
  exact List.not_mem_nil member

/-- No reference is open twice. -/
theorem nodup_map_pending (state : ClosureState) : (state.pending.map (·.1)).Nodup := by
  rw [pending, ordered, List.map_filterMap]
  refine (OrderedSet.nodup_toList _).filterMap fun first second reference inFirst inSecond => ?_
  obtain ⟨entry, found, rfl⟩ := Option.map_eq_some_iff.mp (Option.mem_def.mp inFirst)
  obtain ⟨other, alsoFound, same⟩ := Option.map_eq_some_iff.mp (Option.mem_def.mp inSecond)
  exact (eq_of_find? found).symm.trans (same.symm.trans (eq_of_find? alsoFound))

end ClosureState

end SchemaPlan
