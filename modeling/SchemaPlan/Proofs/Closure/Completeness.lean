import SchemaPlan.Proofs.Closure.Records
import SchemaPlan.Proofs.Closure.Stability

/-!
# No reference is lost, and what is not held

A finished closure has a record for every known object.  The record is a leaf
record exactly when the object requires nothing, and every reference of its
source leads to the object itself, to its own package or to a record.

Records are made in every scan, and what a reference means may change between
two scans.  That an object has not both kinds of records follows from the fact
that references that mean the object itself never come to mean another one.

A closure is closed when the dependency of every confirmed record is an object
of the closure or missing.  Objects that are found satisfy this, since an object
is taken up together with its package.  A reference that nothing satisfies makes
its placeholder missing, but the record of an object outside all packages names
the package of the placeholder, and nothing makes that package missing.  So a
closure is closed exactly when at the end no package is stranded: referred to
through such a reference, but neither found nor missing itself.
-/

set_option autoImplicit false

namespace SchemaPlan.Expansion

variable {expansion : Expansion} {roots : List ObjectRef}

namespace Finishes

variable {last : Nat} {final : ClosureState} {closure : Closure}

/-- Whether a reference meant the object itself in some scan is told by the
answer that it has in the end. -/
theorem own_iff (finishes : Finishes expansion roots last final closure)
    (lawful : expansion.catalog.Lawful) (fresh : expansion.prior = []) {iteration : Nat}
    {state : ClosureState} (scans : Scans expansion roots iteration state) {member : KnownObject}
    (known : member ∈ state.known) {reference : Reference}
    (mentioned : reference ∈ state.referencesFrom member) {target : ObjectRef}
    (answered : state.target? reference = some target) :
    ∃ later, final.target? reference = some later ∧
      isOwnDeliveryUnit member.object later = isOwnDeliveryUnit member.object target := by
  obtain ⟨sound, settled⟩ := scans.sound
  exact own_stable lawful fresh sound settled finishes.scans.sound.1 (finishes.extends scans) known
    mentioned answered

/-- **An object with a leaf record requires nothing.** -/
theorem leaf_excludes (finishes : Finishes expansion roots last final closure)
    (lawful : expansion.catalog.Lawful) (fresh : expansion.prior = []) {object : ObjectRef}
    {dependency : ObjectKey} (isLeaf : closure.Records object none)
    (requires : closure.Records object (some dependency)) : False := by
  obtain ⟨_, before, scansBefore, leaf, leafKnown, rfl, allOwn⟩ :=
    (finishes.records_leaf fresh).mp isLeaf
  obtain ⟨_, state, scans, member, known, same, reference, mentioned, target, answered, other, _⟩ :=
    (finishes.records_requires fresh).mp requires
  have extension := finishes.extends scans
  have extensionBefore := finishes.extends scansBefore
  obtain rfl : member = leaf := ClosureState.eq_of_key_eq finishes.scans.sound.1.keysDistinct
    (extension.known.subset known) (extensionBefore.known.subset leafKnown) (congrArg _ same)
  have mentionedBefore : reference ∈ before.referencesFrom member := by
    rw [ClosureState.referencesFrom, ← extensionBefore.owners, extension.owners]
    exact mentioned
  obtain ⟨ownTarget, answeredBefore, own⟩ := allOwn reference mentionedBefore
  obtain ⟨later, inEnd, sameOwn⟩ := finishes.own_iff lawful fresh scans known mentioned answered
  obtain ⟨again, alsoInEnd, stillOwn⟩ :=
    finishes.own_iff lawful fresh scansBefore leafKnown mentionedBefore answeredBefore
  rw [inEnd, Option.some.injEq] at alsoInEnd
  rw [← alsoInEnd, sameOwn, own, other] at stillOwn
  cases stillOwn

/-- **A reference leads to an object that it may stand for** and that is
accounted for. -/
theorem reference_covered (finishes : Finishes expansion roots last final closure)
    (fresh : expansion.prior = []) {member : KnownObject} (known : member ∈ final.known)
    {reference : Reference} (mentioned : reference ∈ final.referencesFrom member) :
    ∃ target, closure.Offers reference target ∧
      closure.Covers member.object (deliveryUnit member.object target) := by
  obtain ⟨found, answered⟩ := finishes.answered known mentioned
  obtain ⟨target, offered, sameKey⟩ := finishes.offers_answer answered
  exact ⟨target, offered, (Closure.covers_congr sameKey).mpr
    (finishes.covers_answer fresh known mentioned answered)⟩

end Finishes

/-! ## Runs -/

variable {Log : Type} {sink : EdgeSink Log}

/-- **No reference found in source text is lost.**  When a run without earlier
records succeeds, every object of the closure has a record, it has a leaf record
exactly when it has no record for a dependency, and every reference of its source
leads to an object that it may stand for and that is accounted for. -/
theorem no_reference_lost (lawful : expansion.catalog.Lawful) (fresh : expansion.prior = [])
    {log after : Log} {closure : Closure}
    (done : expansion.run sink roots log = (.ok closure, after)) :
    (∀ object ∈ closure.objects,
      (∃ dependency, closure.Records object dependency) ∧
      (closure.Records object none ↔ ¬ ∃ dependency, closure.Records object (some dependency))) ∧
    ∃ owners, expansion.catalog.owners = .ok owners ∧
      ∀ object ∈ closure.objects, ∃ source, expansion.referencesOf object = .ok source ∧
        ∀ references, source = some references →
          ∀ mention ∈ references.toList, mention.1 ≠ .localFunction → ∃ target,
            closure.Offers (Reference.qualify mention.1 mention.2 owners object) target ∧
            closure.Covers object (deliveryUnit object target) := by
  obtain ⟨last, final, finishes⟩ := finishes_of_run done
  have sound := finishes.scans.sound.1
  refine ⟨fun object inClosure => ?_, final.owners, sound.owners, fun object inClosure => ?_⟩
  · obtain ⟨member, known, rfl⟩ := finishes.mem_objects.mp inClosure
    have recorded := finishes.exists_record fresh known
    refine ⟨recorded, fun isLeaf ⟨dependency, requires⟩ => ?_, fun requiresNothing => ?_⟩
    · exact finishes.leaf_excludes lawful fresh isLeaf requires
    · obtain ⟨_ | dependency, record⟩ := recorded
      · exact record
      · exact absurd ⟨dependency, record⟩ requiresNothing
  · obtain ⟨member, known, rfl⟩ := finishes.mem_objects.mp inClosure
    refine ⟨member.references, sound.references member known, ?_⟩
    intro references source mention listed external
    exact finishes.reference_covered fresh known
      (ClosureState.mem_referencesFrom.mpr ⟨references, source, mention, listed, external, rfl⟩)

/-- The expansion of a procedure that calls another one and one that does not
exist. -/
def callingExpansion : Expansion where
  catalog :=
    (Snapshot.ofRows [.new "A" .procedure "" "MAIN", .new "A" .procedure "" "HELP"]).catalog
  sources :=
    (SourceShelf.ofEntries [.new "A" "" "MAIN" "HELP;LOST;", .new "A" "" "HELP" "NULL;"]).store
  config := {}

theorem callingExpansion_loses_nothing :
    ∃ closure after, callingExpansion.run EdgeList.sink
        [ObjectRef.new (some "A") (.rootLevel .procedure "MAIN")] [] = (.ok closure, after) ∧
      closure.objects.map (·.key.name) = ["HELP", "MAIN"] ∧
      ∀ object ∈ closure.objects, ∃ dependency, closure.Records object dependency := by
  have succeeds : (callingExpansion.run EdgeList.sink
        [ObjectRef.new (some "A") (.rootLevel .procedure "MAIN")] []).1.toOption.map
        (fun closure => closure.objects.map (·.key.name)) = some ["HELP", "MAIN"] := by
    with_unfolding_all rfl
  obtain ⟨closure, after, done, names⟩ := Outcome.eq_ok_of_reading succeeds
  obtain ⟨recorded, _⟩ := no_reference_lost (Snapshot.lawful _) rfl done
  exact ⟨closure, after, done, names, fun object inClosure => (recorded object inClosure).1⟩

end SchemaPlan.Expansion

/-! ## Closures that are closed -/

namespace SchemaPlan

namespace Closure

/-- A key is that of an object of the closure, or it is missing. -/
def Holds (closure : Closure) (key : ObjectKey) : Prop :=
  (∃ object ∈ closure.objects, object.key = key) ∨ key ∈ closure.missing

/-- The dependency of every confirmed record is an object of the closure or
missing. -/
def IsClosed (closure : Closure) : Prop :=
  ∀ edge ∈ closure.okEdges, ∀ dependency, edge.dependency = some dependency →
    closure.Holds dependency.key

instance (closure : Closure) (key : ObjectKey) : Decidable (closure.Holds key) :=
  inferInstanceAs (Decidable (_ ∨ _))

instance (closure : Closure) : Decidable closure.IsClosed :=
  inferInstanceAs (Decidable (∀ edge ∈ closure.okEdges, ∀ dependency,
    edge.dependency = some dependency → closure.Holds dependency.key))

end Closure

/-- A standalone object refers to a member of a package that nothing satisfies. -/
def ClosureState.LeavesOpen (state : ClosureState) (package : String) : Prop :=
  ∃ member ∈ state.known, member.object.key.isStandalone = true ∧
    ∃ reference ∈ state.referencesFrom member, state.lookup reference = .absent ∧
      reference.placeholder.key.package? = some package

namespace Expansion

variable {expansion : Expansion} {roots : List ObjectRef}

/-- The package of a known object is known. -/
theorem Settled.knows_package {state : ClosureState} (settled : Settled state) {key : ObjectKey}
    {package : String} (known : state.knows key = true) (isMember : key.package? = some package) :
    state.knows (ObjectKey.packageNode package) = true := by
  obtain ⟨member, inKnown, rfl⟩ := ClosureState.knows_iff.mp known
  refine settled.housed member inKnown
    (ObjectRef.new member.object.owner (ObjectKey.packageNode package)) ?_
  rw [containerOf?, isMember, Option.map_some]

/-- A reference whose placeholder is a member of a package is looked up in that
package alone. -/
theorem searchedPackages_of_member {reference : Reference} {package : String}
    (isMember : reference.placeholder.key.package? = some package) :
    ∃ qualifier, ClosureState.searchedPackages reference = [qualifier] ∧ qualifier ≠ rootPackage ∧
      ObjectKey.packageNode qualifier = ObjectKey.packageNode package := by
  obtain ⟨notRoot, samePackage⟩ := ObjectKey.isRootLevel_of_package?_eq_some isMember
  rw [ObjectKey.isRootLevel, Reference.key_placeholder, beq_eq_false_iff_ne] at notRoot
  rw [Reference.key_placeholder] at samePackage
  dsimp only at notRoot samePackage
  cases qualified : reference.package with
  | none =>
      rw [qualified, Option.getD_none, normalizePackage_empty] at notRoot
      exact absurd rfl notRoot
  | some qualifier =>
      rw [qualified, Option.getD_some] at notRoot samePackage
      refine ⟨qualifier, by rw [ClosureState.searchedPackages, qualified], ?_, ?_⟩
      · rintro rfl
        exact notRoot normalizePackage_rootPackage
      · rw [normalizePackage] at notRoot samePackage
        split at samePackage
        · next blank =>
          rw [if_pos blank] at notRoot
          exact absurd rfl notRoot
        · rw [← samePackage, packageNode_canonical]

namespace Finishes

variable {last : Nat} {final : ClosureState} {closure : Closure}

theorem holds_of_knows (finishes : Finishes expansion roots last final closure) {key : ObjectKey}
    (known : final.knows key = true) : closure.Holds key := by
  obtain ⟨member, inKnown, rfl⟩ := ClosureState.knows_iff.mp known
  exact .inl ⟨member.object, finishes.mem_objects.mpr ⟨member, inKnown, rfl⟩, rfl⟩

/-- When the placeholder of a reference has once been taken for an answer, its
package is known in the end, or nothing satisfies the reference in the end. -/
theorem knows_package_or_absent (finishes : Finishes expansion roots last final closure)
    {iteration : Nat} {state : ClosureState} (scans : Scans expansion roots iteration state)
    {reference : Reference} (answered : state.target? reference = some reference.placeholder)
    {package : String} (isMember : reference.placeholder.key.package? = some package) :
    final.knows (ObjectKey.packageNode package) = true ∨ final.lookup reference = .absent := by
  obtain ⟨sound, settled⟩ := finishes.scans.sound
  obtain ⟨later, nowAnswered, replaced⟩ := (finishes.extends scans).target? answered
  rcases sound.origin settled nowAnswered with ⟨known, _⟩ | ⟨absent, _⟩
  · left
    have known := ClosureState.knows_iff.mpr known
    rcases replaced with rfl | ⟨other, searched, _, isNow, _⟩
    · exact settled.knows_package known isMember
    · obtain ⟨qualifier, only, notRoot, sameNode⟩ := searchedPackages_of_member isMember
      rw [only, List.mem_singleton] at searched
      obtain ⟨_, _, _, inPackage, _⟩ := ClosureState.candidate?_eq_some isNow
      rw [← sameNode]
      refine settled.knows_package known ?_
      rw [ObjectKey.package?, ObjectKey.isRootLevel, inPackage, searched,
        if_neg (by simpa using notRoot)]
  · exact .inr absent

/-- **A dependency is held by the closure**, or it is a package that is left
open in the end. -/
theorem holds_or_open (finishes : Finishes expansion roots last final closure)
    (fresh : expansion.prior = []) {object : ObjectRef} {dependency : ObjectKey}
    (requires : closure.Records object (some dependency)) :
    closure.Holds dependency ∨
      ∃ package, dependency = ObjectKey.packageNode package ∧ final.LeavesOpen package := by
  obtain ⟨_, state, scans, member, known, rfl, reference, mentioned, target, answered, _, rfl⟩ :=
    (finishes.records_requires fresh).mp requires
  obtain ⟨sound, settled⟩ := scans.sound
  have extension := finishes.extends scans
  by_cases direct : member.object.key.isStandalone = true → target.key.package? = none
  · rw [deliveryUnit_eq_self direct]
    rcases sound.origin settled answered with ⟨isKnown, _⟩ | ⟨_, _, isMissing⟩
    · exact .inl (finishes.holds_of_knows (extension.knows (ClosureState.knows_iff.mpr isKnown)))
    · exact .inl (.inr (finishes.missing_eq ▸ extension.missing _ isMissing))
  · rw [Classical.not_imp, ← ne_eq, Option.ne_none_iff_exists'] at direct
    obtain ⟨standalone, package, isMember⟩ := direct
    rw [deliveryUnit_of_member standalone isMember]
    change closure.Holds (ObjectKey.packageNode package) ∨ _
    rcases sound.origin settled answered with ⟨isKnown, _⟩ | ⟨_, rfl, _⟩
    · have isKnown := settled.knows_package (ClosureState.knows_iff.mpr isKnown) isMember
      exact .inl (finishes.holds_of_knows (extension.knows isKnown))
    · rcases finishes.knows_package_or_absent scans answered isMember with isKnown | absent
      · exact .inl (finishes.holds_of_knows isKnown)
      · have stillMentioned : reference ∈ final.referencesFrom member := by
          rw [ClosureState.referencesFrom, extension.owners]
          exact mentioned
        exact .inr ⟨package, rfl, member, extension.known.subset known, standalone, reference,
          stillMentioned, absent, isMember⟩

/-- A package that is left open is required. -/
theorem requires_of_open (finishes : Finishes expansion roots last final closure)
    (fresh : expansion.prior = []) {package : String} (isOpen : final.LeavesOpen package) :
    ∃ object, closure.Records object (some (ObjectKey.packageNode package)) := by
  obtain ⟨member, known, standalone, reference, mentioned, absent, isMember⟩ := isOpen
  have answered : final.target? reference = some reference.placeholder := by
    rw [ClosureState.target?, absent]
  have notStandalone : reference.placeholder.key.isStandalone = false := by
    rw [ObjectKey.isStandalone, (ObjectKey.isRootLevel_of_package?_eq_some isMember).1,
      Bool.false_and]
  refine ⟨member.object, (finishes.records_requires fresh).mpr ⟨last, final, finishes.scans, member,
    known, rfl, reference, mentioned, reference.placeholder, answered, ?_, ?_⟩⟩
  · exact isOwnDeliveryUnit_standalone standalone notStandalone
  · rw [deliveryUnit_of_member standalone isMember]
    rfl

end Finishes

/-! ## Runs -/

variable {Log : Type} {sink : EdgeSink Log}

/-- **A closure is closed exactly when no package is stranded**: the run ends in a
state in which every package with a member that a standalone object refers to and
that nothing satisfies is found or missing itself. -/
theorem closed_iff_none_stranded (fresh : expansion.prior = []) {log after : Log}
    {closure : Closure} (done : expansion.run sink roots log = (.ok closure, after)) :
    ∃ last final, Finishes expansion roots last final closure ∧
      (closure.IsClosed ↔
        ∀ package, final.LeavesOpen package → closure.Holds (ObjectKey.packageNode package)) := by
  obtain ⟨last, final, finishes⟩ := finishes_of_run done
  refine ⟨last, final, finishes, fun closed package isOpen => ?_, fun held => ?_⟩
  · obtain ⟨object, edge, listed, _, requires⟩ := finishes.requires_of_open fresh isOpen
    obtain ⟨dependency, isDependency, isPackage⟩ := Option.map_eq_some_iff.mp requires
    exact isPackage ▸ closed edge listed dependency isDependency
  · intro edge listed dependency requires
    have recorded : closure.Records edge.object (some dependency.key) :=
      ⟨edge, listed, rfl, by rw [requires, Option.map_some]⟩
    rcases finishes.holds_or_open fresh recorded with holds | ⟨package, isPackage, isOpen⟩
    · exact holds
    · exact isPackage ▸ held package isOpen

/-- The expansion of a procedure that calls a routine of a package, when there is
no such package. -/
def strandingExpansion : Expansion where
  catalog := (Snapshot.ofRows [.new "XX" .procedure "" "XX_RUN"]).catalog
  sources := (SourceShelf.ofEntries [.new "XX" "" "XX_RUN" "XX_LOST_PKG.XX_LOAD;"]).store
  config := {}

/-- The procedure that calls the routine. -/
def strandingRoot : ObjectRef := ObjectRef.new (some "XX") (.rootLevel .procedure "XX_RUN")

theorem isClosed_strandingExpansion :
    (strandingExpansion.run EdgeList.sink [strandingRoot] []).1.toOption.map
      (fun closure => decide closure.IsClosed) = some false := by
  with_unfolding_all rfl

/-- The package that the procedure requires is neither found nor missing. -/
theorem strandingExpansion_leaves_open :
    ∃ closure after last final package,
      strandingExpansion.run EdgeList.sink [strandingRoot] [] = (.ok closure, after) ∧
      Finishes strandingExpansion [strandingRoot] last final closure ∧
      final.LeavesOpen package ∧ ¬ closure.Holds (ObjectKey.packageNode package) := by
  obtain ⟨closure, after, done, notClosed⟩ := Outcome.eq_ok_of_reading isClosed_strandingExpansion
  obtain ⟨last, final, finishes, closed⟩ := closed_iff_none_stranded rfl done
  rw [decide_eq_false_iff_not, closed] at notClosed
  push Not at notClosed
  obtain ⟨package, isOpen, notHeld⟩ := notClosed
  exact ⟨closure, after, last, final, package, done, finishes, isOpen, notHeld⟩

/-- **Closures are not closed in general.** -/
theorem not_forall_isClosed :
    ¬ ∀ (expansion : Expansion) (roots : List ObjectRef) (closure : Closure) (after : List Edge),
      expansion.prior = [] → expansion.run EdgeList.sink roots [] = (.ok closure, after) →
      closure.IsClosed := by
  intro always
  obtain ⟨closure, after, done, notClosed⟩ := Outcome.eq_ok_of_reading isClosed_strandingExpansion
  rw [decide_eq_false_iff_not] at notClosed
  exact notClosed (always strandingExpansion [strandingRoot] closure after rfl done)

end Expansion

end SchemaPlan
