import SchemaPlan.Proofs.Reference.Resolution
import SchemaPlan.Proofs.Closure.Run

/-!
# The records of a closure

Without an earlier run, the confirmed records of a closure are read off the
states that have been scanned.  An object has a leaf record when at some time
all its references meant itself, and a record for a dependency when at some time
a reference meant another object with that delivery unit.  Since nothing is
pending at the end, the last scan alone gives every known object a record, and a
record for every reference that means another object.

At the end of a run every dependency without an owner is given that of a known
object with its name, if there is one.  The names are worked through one after
the other, but they do not interfere: each record of the closure is a record of
the last scan with the owner filled in once (`Finishes.mem_edges`).
-/

set_option autoImplicit false

namespace SchemaPlan

namespace Closure

/-- A confirmed record of an object: a leaf record, or one for a dependency. -/
def Records (closure : Closure) (object : ObjectRef) (dependency : Option ObjectKey) : Prop :=
  ∃ edge ∈ closure.okEdges, edge.object = object ∧ edge.dependency.map (·.key) = dependency

/-- An object that a reference may stand for: a known one with its name and an
accepted type, or its placeholder when that is missing. -/
def Offers (closure : Closure) (reference : Reference) (target : ObjectRef) : Prop :=
  (target ∈ closure.objects ∧ target.key.name = reference.name ∧
    reference.kind.accepts target.key.objectType = true) ∨
  target = reference.placeholder ∧ target.key ∈ closure.missing

/-- A dependency is accounted for: it is the object itself or its own package, or
there is a record for it. -/
def Covers (closure : Closure) (object dependency : ObjectRef) : Prop :=
  isOwnDeliveryUnit object dependency = true ∨ closure.Records object (some dependency.key)

instance (closure : Closure) (object : ObjectRef) (dependency : Option ObjectKey) :
    Decidable (closure.Records object dependency) :=
  inferInstanceAs (Decidable (∃ edge ∈ closure.okEdges, _ ∧ _))

instance (closure : Closure) (object dependency : ObjectRef) :
    Decidable (closure.Covers object dependency) :=
  inferInstanceAs (Decidable (_ ∨ _))

/-- Objects with one key are accounted for alike. -/
theorem covers_congr {closure : Closure} {object first second : ObjectRef}
    (same : first.key = second.key) :
    closure.Covers object (deliveryUnit object first) ↔
      closure.Covers object (deliveryUnit object second) := by
  have sameUnit := @key_deliveryUnit_congr object _ _ same
  rw [Covers, Covers, isOwnDeliveryUnit_congr sameUnit, sameUnit]

end Closure

/-- What answers a reference is a known object with its name and an accepted
type, or its placeholder, which is missing. -/
theorem Expansion.Sound.origin {expansion : Expansion} {state : ClosureState}
    (sound : expansion.Sound state) (settled : Expansion.Settled state) {reference : Reference}
    {found : ObjectRef} (answered : state.target? reference = some found) :
    ((∃ member ∈ state.known, member.object.key = found.key) ∧
      found.key.name = reference.name ∧ reference.kind.accepts found.key.objectType = true) ∨
    state.lookup reference = .absent ∧ found = reference.placeholder ∧
      found.key ∈ state.missing := by
  rw [ClosureState.target?] at answered
  cases standing : state.lookup reference with
  | unasked =>
      rw [standing] at answered
      cases answered
  | absent =>
      rw [standing] at answered
      obtain rfl := Option.some.inj answered
      refine .inr ⟨rfl, rfl, ?_⟩
      exact (ClosureState.lookup_eq_absent standing).elim (sound.absent reference) id
  | present object =>
      rw [standing] at answered
      obtain rfl := Option.some.inj answered
      rcases ClosureState.lookup_eq_present standing with noted | ⟨package, _, isCandidate⟩
      · obtain ⟨answer, ⟨_, _, _, resolved⟩, isRow⟩ := sound.resolved _ noted
        obtain ⟨row, rfl, rfl⟩ := Option.map_eq_some_iff.mp isRow.symm
        exact .inl ⟨ClosureState.knows_iff.mp (settled.found reference row.toRef noted),
          Reference.isSatisfiedBy_iff.mp (Reference.isSatisfiedBy_of_resolve resolved)⟩
      · obtain ⟨member, known, rfl, _, name, type, _⟩ :=
          ClosureState.candidate?_eq_some isCandidate
        exact .inl ⟨⟨member, known, rfl⟩, name, type⟩

namespace Expansion.Finishes

variable {expansion : Expansion} {roots : List ObjectRef} {last : Nat} {final : ClosureState}
  {closure : Closure}

/-! ## Records -/

/-- The records of a closure are those of its scanned states. -/
theorem records_iff (finishes : Finishes expansion roots last final closure)
    (fresh : expansion.prior = []) {object : ObjectRef} {dependency : Option ObjectKey} :
    closure.Records object dependency ↔ ∃ iteration state, Scans expansion roots iteration state ∧
      ∃ member ∈ state.known, ∃ edge ∈ state.recordsOf member, edge.status = .ok ∧
        edge.object = object ∧ edge.dependency.map (·.key) = dependency := by
  have confirmed : closure.Records object dependency ↔ ∃ edge ∈ closure.edges,
      edge.status = .ok ∧ edge.object = object ∧ edge.dependency.map (·.key) = dependency := by
    simp [Closure.Records, Closure.okEdges, and_assoc]
  rw [confirmed, finishes.mem_records, fresh]
  constructor
  · rintro ⟨edge, inPrior | ⟨iteration, state, scans, member, known, recorded⟩, said⟩
    · exact absurd inPrior List.not_mem_nil
    · exact ⟨iteration, state, scans, member, known, edge, recorded, said⟩
  · rintro ⟨iteration, state, scans, member, known, edge, recorded, said⟩
    exact ⟨edge, .inr ⟨iteration, state, scans, member, known, recorded⟩, said⟩

/-- **An object has a leaf record** when in some scan all its references meant
itself. -/
theorem records_leaf (finishes : Finishes expansion roots last final closure)
    (fresh : expansion.prior = []) {object : ObjectRef} :
    closure.Records object none ↔ ∃ iteration state, Scans expansion roots iteration state ∧
      ∃ member ∈ state.known, member.object = object ∧
        ∀ reference ∈ state.referencesFrom member, ∃ target,
          state.target? reference = some target ∧
          isOwnDeliveryUnit member.object target = true := by
  rw [finishes.records_iff fresh]
  constructor
  · rintro ⟨iteration, state, scans, member, known, edge, recorded, _, same, isLeaf⟩
    rcases ClosureState.mem_recordsOf.mp recorded with ⟨rfl, allOwn⟩ | ⟨_, _, _, _, _, rfl⟩
    · exact ⟨iteration, state, scans, member, known, same, allOwn⟩
    · cases isLeaf
  · rintro ⟨iteration, state, scans, member, known, same, allOwn⟩
    exact ⟨iteration, state, scans, member, known, Edge.leaf member.object,
      ClosureState.mem_recordsOf.mpr (.inl ⟨rfl, allOwn⟩), rfl, same, rfl⟩

/-- **An object has a record for a dependency** when in some scan a reference
meant another object that is delivered as the dependency. -/
theorem records_requires (finishes : Finishes expansion roots last final closure)
    (fresh : expansion.prior = []) {object : ObjectRef} {dependency : ObjectKey} :
    closure.Records object (some dependency) ↔
      ∃ iteration state, Scans expansion roots iteration state ∧
        ∃ member ∈ state.known, member.object = object ∧
          ∃ reference ∈ state.referencesFrom member, ∃ target,
            state.target? reference = some target ∧
            isOwnDeliveryUnit member.object target = false ∧
            (deliveryUnit member.object target).key = dependency := by
  rw [finishes.records_iff fresh]
  constructor
  · rintro ⟨iteration, state, scans, member, known, edge, recorded, _, same, requires⟩
    rcases ClosureState.mem_recordsOf.mp recorded with
      ⟨rfl, _⟩ | ⟨reference, mentioned, target, answered, other, rfl⟩
    · cases requires
    · exact ⟨iteration, state, scans, member, known, same, reference, mentioned, target, answered,
        other, Option.some.inj requires⟩
  · rintro ⟨iteration, state, scans, member, known, same, reference, mentioned, target, answered,
      other, rfl⟩
    exact ⟨iteration, state, scans, member, known,
      Edge.requires member.object (deliveryUnit member.object target),
      ClosureState.mem_recordsOf.mpr (.inr ⟨reference, mentioned, target, answered, other, rfl⟩),
      rfl, same, rfl⟩

/-! ## The last scan -/

/-- Every reference of a known object is answered in the end. -/
theorem answered (finishes : Finishes expansion roots last final closure)
    {member : KnownObject} (known : member ∈ final.known) {reference : Reference}
    (mentioned : reference ∈ final.referencesFrom member) :
    ∃ target, final.target? reference = some target :=
  ClosureState.target?_of_pending_eq_nil finishes.nothing known mentioned

/-- The answer that a reference has in the end is accounted for. -/
theorem covers_answer (finishes : Finishes expansion roots last final closure)
    (fresh : expansion.prior = []) {member : KnownObject} (known : member ∈ final.known)
    {reference : Reference} (mentioned : reference ∈ final.referencesFrom member)
    {target : ObjectRef} (answered : final.target? reference = some target) :
    closure.Covers member.object (deliveryUnit member.object target) := by
  rw [Closure.Covers, isOwnDeliveryUnit_deliveryUnit]
  cases own : isOwnDeliveryUnit member.object target with
  | true => exact .inl rfl
  | false =>
      exact .inr ((finishes.records_requires fresh).mpr ⟨last, final, finishes.scans, member, known,
        rfl, reference, mentioned, target, answered, own, rfl⟩)

/-- **Every known object has a record.** -/
theorem exists_record (finishes : Finishes expansion roots last final closure)
    (fresh : expansion.prior = []) {member : KnownObject} (known : member ∈ final.known) :
    ∃ dependency, closure.Records member.object dependency := by
  by_cases allOwn : ∀ reference ∈ final.referencesFrom member, ∃ target,
      final.target? reference = some target ∧ isOwnDeliveryUnit member.object target = true
  · exact ⟨none, (finishes.records_leaf fresh).mpr
      ⟨last, final, finishes.scans, member, known, rfl, allOwn⟩⟩
  · push Not at allOwn
    obtain ⟨reference, mentioned, notOwn⟩ := allOwn
    obtain ⟨target, answered⟩ := finishes.answered known mentioned
    rcases finishes.covers_answer fresh known mentioned answered with own | recorded
    · rw [isOwnDeliveryUnit_deliveryUnit] at own
      exact absurd own (notOwn target answered)
    · exact ⟨_, recorded⟩

/-- What answers a reference in the end is, up to the owner, one of the objects
that it may stand for. -/
theorem offers_answer (finishes : Finishes expansion roots last final closure)
    {reference : Reference} {found : ObjectRef} (answered : final.target? reference = some found) :
    ∃ target, closure.Offers reference target ∧ target.key = found.key := by
  obtain ⟨sound, settled⟩ := finishes.scans.sound
  rcases sound.origin settled answered with
    ⟨⟨member, known, sameKey⟩, name, type⟩ | ⟨_, rfl, isMissing⟩
  · refine ⟨member.object, .inl ⟨finishes.mem_objects.mpr ⟨member, known, rfl⟩, ?_⟩, sameKey⟩
    rw [sameKey]
    exact ⟨name, type⟩
  · exact ⟨_, .inr ⟨rfl, finishes.missing_eq ▸ isMissing⟩, rfl⟩

end Expansion.Finishes

/-! ## Owners that are filled in -/

namespace ClosureState

variable {state : ClosureState}

theorem mem_repairs {name owner : String} :
    (name, owner) ∈ state.repairs ↔ (∃ edge ∈ state.edges, ∃ dependency,
      edge.dependency = some dependency ∧ dependency.owner = none ∧ dependency.key.name = name) ∧
      state.ownerOfName? name = some owner := by
  simp only [repairs, List.mem_filterMap, Option.map_eq_some_iff, Prod.mk.injEq]
  constructor
  · rintro ⟨_, listed, _, given, rfl, rfl⟩
    obtain ⟨edge, recorded, asks⟩ := List.mem_filterMap.mp (OrderedSet.mem_ofList.mp listed)
    obtain ⟨dependency, isDependency, named⟩ := Option.bind_eq_some_iff.mp asks
    split at named
    · next unowned =>
      exact ⟨⟨edge, recorded, dependency, isDependency, Option.isNone_iff_eq_none.mp unowned,
        Option.some.inj named⟩, given⟩
    · cases named
  · rintro ⟨⟨edge, recorded, dependency, isDependency, unowned, rfl⟩, given⟩
    refine ⟨_, OrderedSet.mem_ofList.mpr (List.mem_filterMap.mpr ⟨edge, recorded, ?_⟩), owner,
      given, rfl, rfl⟩
    simp [isDependency, unowned]

/-- Repairs, in whatever order, give a recorded dependency the owner of its name. -/
theorem fill_lookup {order : List (String × String)}
    (same : ∀ repair, repair ∈ order ↔ repair ∈ state.repairs) {old : Edge}
    (recorded : old ∈ state.edges) :
    EdgeList.fill (fun name => order.lookup name) old =
      EdgeList.fill state.ownerOfName? old := by
  refine EdgeList.fill_congr fun dependency isDependency unowned => ?_
  cases given : order.lookup dependency.key.name with
  | some owner =>
      obtain ⟨before, after, split, _⟩ := List.lookup_eq_some_iff.mp given
      have listed : (dependency.key.name, owner) ∈ order := by
        rw [split]
        exact List.mem_append_right _ List.mem_cons_self
      exact (mem_repairs.mp ((same _).mp listed)).2.symm
  | none =>
      cases owned : state.ownerOfName? dependency.key.name with
      | none => rfl
      | some owner =>
          have listed := mem_repairs.mpr
            ⟨⟨old, recorded, dependency, isDependency, unowned, rfl⟩, owned⟩
          have different := List.lookup_eq_none_iff.mp given _ ((same _).mpr listed)
          simp at different

/-- A record that is repaired is filled in with the owner of its name. -/
theorem mem_repairedEdges {edge : Edge} :
    edge ∈ state.repairedEdges ↔
      ∃ old ∈ state.edges, EdgeList.fill state.ownerOfName? old = edge := by
  refine EdgeList.mem_backfillAll.trans (exists_congr fun old => and_congr_right fun recorded => ?_)
  rw [fill_lookup (fun _ => Iff.rfl) recorded]

/-- When the known objects of a name have one owner, it is filled in for the name. -/
theorem ownerOfName?_eq {member : KnownObject} (known : member ∈ state.known) {owner : String}
    (alike : ∀ other ∈ state.known, other.object.key.name = member.object.key.name →
      other.object.owner = some owner) :
    state.ownerOfName? member.object.key.name = some owner := by
  cases given : state.ownerOfName? member.object.key.name with
  | none =>
      have here := List.findSome?_eq_none_iff.mp given member (Sorting.mem_sortOn.mpr known)
      rw [if_pos (beq_self_eq_true _), alike member known rfl] at here
      cases here
  | some other =>
      obtain ⟨found, listed, owned⟩ := List.exists_of_findSome?_eq_some given
      split at owned
      · next named =>
        rw [alike found (Sorting.mem_sortOn.mp listed) (beq_iff_eq.mp named)] at owned
        exact owned.symm
      · cases owned

/-- A scan makes no owner known. -/
theorem ownerOfName?_scanned (state : ClosureState) :
    state.scanned.written.grown.ownerOfName? = state.ownerOfName? := by
  have known : state.scanned.written.grown.known = state.known :=
    (fields_of_bare (bare_scanned state)).2.1
  funext name
  simp only [ownerOfName?, sortedKnown, known]

end ClosureState

namespace Expansion

variable {expansion : Expansion} {roots : List ObjectRef} {last : Nat} {final : ClosureState}
  {closure : Closure}

/-- **The records of a closure** are those of the last scan, with owners filled
in. -/
theorem Finishes.mem_edges (finishes : Finishes expansion roots last final closure) {edge : Edge} :
    edge ∈ closure.edges ↔
      ∃ old ∈ final.scanned.edges, EdgeList.fill final.ownerOfName? old = edge := by
  rw [finishes.closure_eq]
  refine ClosureState.mem_repairedEdges.trans ?_
  rw [ClosureState.ownerOfName?_scanned]
  exact Iff.rfl

end Expansion

end SchemaPlan
