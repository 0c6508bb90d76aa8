import SchemaPlan.Proofs.Closure.Run
import SchemaPlan.Proofs.Reference.Qualification
import SchemaPlan.Proofs.Reference.Resolution

/-!
# What is own stays own

What answers a reference can change in the course of a run, but whether it is
the referring object itself, or its package, does not.  An object that takes the
place of another answer was not known before, so it is not the referrer.  The
answer that it replaces is not the referrer either: in most cases it has the
same key, an object outside all packages is no member, and the placeholder of a
table is not replaced by a view, because the catalog had no table and no view
to offer when the placeholder was made.
-/

set_option autoImplicit false

namespace SchemaPlan

namespace ReferenceKind

theorem accepts_iff {kind : ReferenceKind} {objectType : ObjectType} :
    kind.accepts objectType = true ↔
      objectType = kind.defaultType ∨ kind = .table ∧ objectType = .view := by
  simp [accepts]

theorem eq_package_of_accepts {kind : ReferenceKind} (accepted : kind.accepts .package = true) :
    kind = .package := by
  revert accepted
  cases kind <;> decide

theorem ne_package_of_accepts {kind : ReferenceKind} {objectType : ObjectType}
    (notPackage : kind ≠ .package) (accepted : kind.accepts objectType = true) :
    objectType ≠ .package := by
  rintro rfl
  exact notPackage (eq_package_of_accepts accepted)

theorem eq_table_of_defaultType {kind : ReferenceKind} (isTable : kind.defaultType = .table) :
    kind = .table := by
  revert isTable
  cases kind <;> decide

theorem eq_package_of_defaultType {kind : ReferenceKind} (isPackage : kind.defaultType = .package) :
    kind = .package := by
  revert isPackage
  cases kind <;> decide

theorem eq_defaultType_of_accepts {kind : ReferenceKind} (isRoutine : kind.isRoutine = true)
    {objectType : ObjectType} (accepted : kind.accepts objectType = true) :
    objectType = kind.defaultType := by
  refine (accepts_iff.mp accepted).resolve_right fun ⟨isTable, _⟩ => ?_
  rw [isTable] at isRoutine
  cases isRoutine

theorem eq_of_defaultType {first second : ReferenceKind}
    (same : first.defaultType = second.defaultType) : first = second := by
  revert same
  cases first <;> cases second <;> decide

end ReferenceKind

namespace Reference

theorem key_placeholder (reference : Reference) :
    reference.placeholder.key = ⟨reference.kind.defaultType,
      normalizePackage (reference.package.getD ""), Text.canonical reference.name⟩ := rfl

theorem placeholder_ne_package {reference : Reference} (notPackage : reference.kind ≠ .package) :
    reference.placeholder.key.objectType ≠ .package := by
  rw [key_placeholder]
  exact fun isPackage => notPackage (ReferenceKind.eq_package_of_defaultType isPackage)

/-- A reference to a package is told by its name. -/
theorem Plain.eq_of_name {first second : Reference} (plain : first.Plain) (alsoPlain : second.Plain)
    (isPackage : first.kind = .package) (alsoPackage : second.kind = .package)
    (name : first.name = second.name) : first = second := by
  obtain ⟨owner, package, scope⟩ := plain.bare isPackage
  obtain ⟨otherOwner, otherPackage, otherScope⟩ := alsoPlain.bare alsoPackage
  cases first
  cases second
  simp_all only

/-- The placeholder of a package is the node of the package. -/
theorem Plain.key_placeholder {reference : Reference} (plain : reference.Plain)
    (isPackage : reference.kind = .package) :
    reference.placeholder.key = ObjectKey.packageNode reference.name := by
  obtain ⟨_, noPackage, _⟩ := plain.bare isPackage
  rw [Reference.key_placeholder, packageNode_eq, isPackage, noPackage, Option.getD_none,
    normalizePackage_empty]
  rfl

end Reference

namespace Expansion

open ClosureState (Extends)

variable {expansion : Expansion} {before after : ClosureState}

theorem referencesOf_eq_some {object : ObjectRef} {references : References}
    (read : expansion.referencesOf object = .ok (some references)) :
    ∃ lines, expansion.sources.fetch object = .ok (some lines) ∧
      expansion.config.extractor.extractLines expansion.catalog lines = .ok references := by
  obtain ⟨source, fetched, rest⟩ := Outcome.bind_eq_ok.mp read
  cases source with
  | none => cases Outcome.pure_eq_ok.mp rest
  | some lines =>
      obtain ⟨found, extracted, same⟩ := Outcome.bind_eq_ok.mp rest
      obtain rfl := Option.some.inj (Outcome.pure_eq_ok.mp same)
      exact ⟨lines, Outcome.mapError_eq_ok.mp fetched, Outcome.mapError_eq_ok.mp extracted⟩

theorem Sound.plain {state : ClosureState} (lawful : expansion.catalog.Lawful)
    (sound : Sound expansion state) {member : KnownObject} (known : member ∈ state.known)
    {reference : Reference} (mentioned : reference ∈ state.referencesFrom member) :
    reference.Plain := by
  obtain ⟨references, read, mention, listed, _, rfl⟩ :=
    ClosureState.mem_referencesFrom.mp mentioned
  have source := sound.references member known
  rw [read] at source
  obtain ⟨lines, _, extracted⟩ := referencesOf_eq_some source
  exact Reference.plain_qualify lawful extracted listed state.owners member.object

theorem Asked.plain {state : ClosureState} (lawful : expansion.catalog.Lawful)
    (sound : Sound expansion state) {reference : Reference} {answer : Option CatalogRow}
    (asked : expansion.Asked state reference answer) : reference.Plain := by
  obtain ⟨member, known, mentioned, _⟩ := asked
  exact sound.plain lawful known mentioned

/-- The candidate of a package that had none before was not known before. -/
theorem new_candidate (sound : Sound expansion after) (extension : Extends before after)
    {reference : Reference} {package : String} {object : ObjectRef}
    (was : before.candidate? reference package = none)
    (isNow : after.candidate? reference package = some object) :
    ∀ member ∈ before.known, member.object.key ≠ object.key := by
  intro member known same
  obtain ⟨found, inAfter, rfl, inPackage, name, type, owner⟩ :=
    ClosureState.candidate?_eq_some isNow
  obtain rfl : member = found := ClosureState.eq_of_key_eq sound.keysDistinct
    (extension.known.subset known) inAfter same
  exact ClosureState.candidate?_ne_none known name type owner (inPackage ▸ was)

/-- An object that became known is a package or has been found for a reference
that it satisfies. -/
theorem origin_of_new (settled : Settled before) (sound : Sound expansion after)
    (extension : Extends before after) {member : KnownObject} (known : member ∈ after.known)
    (new : ∀ other ∈ before.known, other.object.key ≠ member.object.key) :
    (∃ package, member.object.key = ObjectKey.packageNode package) ∨
      ∃ reference row, expansion.Asked after reference (some row) ∧
        row.key = member.object.key ∧ before.target? reference = none := by
  rcases extension.fresh member known with old | isPackage | ⟨reference, noted⟩
  · exact absurd rfl (new member old)
  · exact .inl isPackage
  · obtain ⟨answer, asked, same⟩ := sound.resolved _ noted
    obtain ⟨row, rfl, isRow⟩ := Option.map_eq_some_iff.mp same.symm
    refine .inr ⟨reference, row, asked, congrArg ObjectRef.key isRow, ?_⟩
    refine (extension.asked _ noted).resolve_left fun old => ?_
    obtain ⟨other, inBefore, sameKey⟩ :=
      ClosureState.knows_iff.mp (settled.found reference member.object old)
    exact new other inBefore sameKey

/-- A view does not become known for a table whose placeholder is missing. -/
theorem no_new_view (lawful : expansion.catalog.Lawful) (fresh : expansion.prior = [])
    (sound : Sound expansion before) {key : ObjectKey} (isTable : key.objectType = .table)
    (isMissing : key ∈ before.missing) {reference : Reference} {row : CatalogRow}
    (asked : expansion.Asked after reference (some row)) (isView : row.key.objectType = .view)
    (sameName : row.key.name = key.name) : False := by
  obtain ⟨_, _, _, resolved⟩ := asked
  obtain ⟨rowName, accepted⟩ :=
    Reference.isSatisfiedBy_iff.mp (Reference.isSatisfiedBy_of_resolve resolved)
  rcases sound.missing key isMissing with ⟨edge, inPrior, _⟩ | ⟨_, _, _, _, isRoutine⟩ |
    ⟨unresolved, noted, samePlaceholder⟩
  · rw [fresh] at inPrior
    exact List.not_mem_nil inPrior
  · rw [isTable] at isRoutine
    cases isRoutine
  · obtain ⟨answer, wasAsked, same⟩ := sound.resolved _ noted
    obtain rfl : answer = none := Option.map_eq_none_iff.mp same.symm
    have plain := wasAsked.plain lawful sound
    obtain ⟨_, _, _, nothing⟩ := wasAsked
    have forTable : unresolved.kind = .table := by
      refine ReferenceKind.eq_table_of_defaultType ?_
      rw [← isTable, ← samePlaceholder]
      rfl
    have name : unresolved.name = reference.name := by
      rw [← rowName, sameName, ← samePlaceholder, ← plain.name (by rw [forTable]; nofun)]
      rfl
    obtain ⟨rows, answered, unsatisfied⟩ := Reference.findByOwner_of_resolve_eq_none nothing
    rw [name] at answered
    have listed : row ∈ rows := by
      rcases Reference.mem_of_resolve_eq_some resolved with
        ⟨owner, package, found, _, inPackage, isFound⟩ | ⟨owner, found, byOwner, isFound⟩
      · have isRoutine := lawful.routines owner package _ found inPackage row isFound
        rw [isView] at isRoutine
        cases isRoutine
      · cases owner with
        | none => exact Except.ok.inj (byOwner.symm.trans answered) ▸ isFound
        | some owner => exact lawful.owned owner _ found rows byOwner answered row isFound
    have satisfied : unresolved.isSatisfiedBy row = true := by
      refine Reference.isSatisfiedBy_iff.mpr ⟨rowName.trans name.symm, ?_⟩
      rw [forTable, isView]
      rfl
    rw [unsatisfied row listed] at satisfied
    cases satisfied

/-- A package that becomes known for a reference that nothing satisfied has the
key of the placeholder.  It is the package of a member, since no other reference
asks for it. -/
theorem key_eq_placeholder_of_package (lawful : expansion.catalog.Lawful)
    (settled : Settled before) (soundLater : Sound expansion after)
    (extension : Extends before after) {reference : Reference} (plain : reference.Plain)
    (isPackage : reference.kind = .package) {target : ObjectRef}
    (answered : before.target? reference = some target) {found : KnownObject}
    (known : found ∈ after.known)
    (new : ∀ member ∈ before.known, member.object.key ≠ found.object.key)
    (name : found.object.key.name = reference.name)
    (type : reference.kind.accepts found.object.key.objectType = true) :
    found.object.key = reference.placeholder.key := by
  have ofPackage : found.object.key.objectType = .package := by
    rw [isPackage, ReferenceKind.accepts_iff] at type
    exact type.resolve_right fun isTable => nomatch isTable.1
  rcases origin_of_new settled soundLater extension known new with
    ⟨container, isContainer⟩ | ⟨other, row, asked, sameKey, unanswered⟩
  · rw [isContainer, packageNode_eq] at name
    rw [plain.key_placeholder isPackage, ← name, isContainer, packageNode_canonical]
  · exfalso
    have otherPlain := asked.plain lawful soundLater
    obtain ⟨_, _, _, resolved⟩ := asked
    obtain ⟨rowName, accepted⟩ :=
      Reference.isSatisfiedBy_iff.mp (Reference.isSatisfiedBy_of_resolve resolved)
    rw [sameKey, ofPackage] at accepted
    have otherKind := ReferenceKind.eq_package_of_accepts accepted
    have sameName : other.name = reference.name := by rw [← rowName, sameKey, name]
    rw [otherPlain.eq_of_name plain otherKind isPackage sameName, answered] at unanswered
    cases unanswered

/-- When the placeholder of a reference would be the referrer itself, only its
package is searched. -/
theorem package_eq_of_own {state : ClosureState} {member : KnownObject} {reference : Reference}
    (plain : reference.Plain) (mentioned : reference ∈ state.referencesFrom member)
    (notPackage : reference.kind ≠ .package) {package : String}
    (searched : package ∈ ClosureState.searchedPackages reference)
    (own : reference.placeholder.key = member.object.key) :
    package = reference.placeholder.key.package := by
  rw [Reference.key_placeholder]
  rw [ClosureState.searchedPackages] at searched
  cases qualified : reference.package with
  | some qualifier =>
      rw [qualified, List.mem_singleton] at searched
      rw [Option.getD_some, plain.package qualifier qualified]
      exact searched
  | none =>
      cases hasScope : reference.scope with
      | none =>
          rw [qualified, hasScope, List.mem_singleton] at searched
          rw [searched, Option.getD_none, normalizePackage_empty]
      | some scope =>
          exfalso
          obtain ⟨_, _, mention, _, _, rfl⟩ := ClosureState.mem_referencesFrom.mp mentioned
          obtain ⟨_, delivered⟩ := Reference.scope_qualify hasScope
          rw [← own, deliveryPackage?_eq_none] at delivered
          · cases delivered
          · rw [Reference.key_placeholder, qualified, Option.getD_none, normalizePackage_empty,
              ObjectKey.isRootLevel, beq_self_eq_true]
          · exact Reference.placeholder_ne_package notPackage

/-- A new candidate takes the place of a placeholder without changing what is
own: it has the key of the placeholder, or neither is the referrer. -/
theorem own_of_placeholder (lawful : expansion.catalog.Lawful) (fresh : expansion.prior = [])
    (sound : Sound expansion before) (settled : Settled before) (soundLater : Sound expansion after)
    (extension : Extends before after) {member : KnownObject} (known : member ∈ before.known)
    {reference : Reference} (mentioned : reference ∈ before.referencesFrom member)
    (answered : before.target? reference = some reference.placeholder)
    (isMissing : reference.placeholder.key ∈ before.missing) {package : String}
    (searched : package ∈ ClosureState.searchedPackages reference) {later : ObjectRef}
    (was : before.candidate? reference package = none)
    (isNow : after.candidate? reference package = some later) :
    isOwnDeliveryUnit member.object later =
      isOwnDeliveryUnit member.object reference.placeholder := by
  have plain := sound.plain lawful known mentioned
  have new := new_candidate soundLater extension was isNow
  obtain ⟨found, inAfter, rfl, inPackage, name, type, _⟩ := ClosureState.candidate?_eq_some isNow
  by_cases isPackage : reference.kind = .package
  · exact isOwnDeliveryUnit_congr (key_eq_placeholder_of_package lawful settled soundLater extension
      plain isPackage answered inAfter new name type)
  · rw [isOwnDeliveryUnit_of_ne_package (ReferenceKind.ne_package_of_accepts isPackage type),
      isOwnDeliveryUnit_of_ne_package (Reference.placeholder_ne_package isPackage),
      decide_eq_false (new member known).symm, eq_comm, decide_eq_false_iff_not]
    intro own
    have samePackage := inPackage.trans (package_eq_of_own plain mentioned isPackage searched own)
    have sameName : found.object.key.name = reference.placeholder.key.name := by
      rw [Reference.key_placeholder, plain.name isPackage]
      exact name
    rcases ReferenceKind.accepts_iff.mp type with sameType | ⟨forTable, isView⟩
    · refine new member known (own.symm.trans ?_)
      exact (ObjectKey.eq_of_fields sameType samePackage sameName).symm
    · rcases origin_of_new settled soundLater extension inAfter new with
        ⟨container, isContainer⟩ | ⟨other, row, asked, sameKey, _⟩
      · rw [isContainer, packageNode_eq] at isView
        cases isView
      · have isTable : reference.placeholder.key.objectType = .table := by
          rw [Reference.key_placeholder, forTable]
          rfl
        exact no_new_view lawful fresh sound isTable isMissing asked (sameKey ▸ isView)
          (sameKey ▸ sameName)

/-- An object of the package of a referrer takes the place of one outside all
packages, and neither is the referrer. -/
theorem own_of_root_candidate {member : KnownObject} (soundLater : Sound expansion after)
    (extension : Extends before after) (known : member ∈ before.known) {reference : Reference}
    (mentioned : reference ∈ before.referencesFrom member) {scope : Scope}
    (isScope : reference.scope = some scope) {target later : ObjectRef}
    (atRoot : before.candidate? reference rootPackage = some target)
    (was : before.candidate? reference scope.package = none)
    (isNow : after.candidate? reference scope.package = some later) :
    isOwnDeliveryUnit member.object later = isOwnDeliveryUnit member.object target := by
  have new := new_candidate soundLater extension was isNow member known
  obtain ⟨_, _, _, _, _, type, _⟩ := ClosureState.candidate?_eq_some isNow
  obtain ⟨_, _, _, inRoot, _, oldType, _⟩ := ClosureState.candidate?_eq_some atRoot
  obtain ⟨_, _, mention, _, _, rfl⟩ := ClosureState.mem_referencesFrom.mp mentioned
  obtain ⟨⟨isRoutine, _⟩, delivered⟩ := Reference.scope_qualify isScope
  have notPackage : mention.1 ≠ .package := by
    intro isPackage
    rw [isPackage] at isRoutine
    cases isRoutine
  have oldNotPackage := ReferenceKind.ne_package_of_accepts notPackage oldType
  rw [isOwnDeliveryUnit_of_ne_package (ReferenceKind.ne_package_of_accepts notPackage type),
    isOwnDeliveryUnit_of_ne_package oldNotPackage, decide_eq_false new.symm, eq_comm,
    decide_eq_false_iff_not]
  intro own
  rw [← own, deliveryPackage?_eq_none (beq_iff_eq.mpr inRoot) oldNotPackage] at delivered
  cases delivered

/-- **Whether the answer to a reference is own never changes.** -/
theorem own_stable (lawful : expansion.catalog.Lawful) (fresh : expansion.prior = [])
    (sound : Sound expansion before) (settled : Settled before) (soundLater : Sound expansion after)
    (extension : Extends before after) {member : KnownObject} (known : member ∈ before.known)
    {reference : Reference} (mentioned : reference ∈ before.referencesFrom member)
    {target : ObjectRef} (answered : before.target? reference = some target) :
    ∃ later, after.target? reference = some later ∧
      isOwnDeliveryUnit member.object later = isOwnDeliveryUnit member.object target := by
  obtain ⟨later, nowAnswered, same | ⟨package, searched, was, isNow, ⟨rfl, isMissing⟩ |
    ⟨⟨scope, isScope, rfl⟩, atRoot⟩⟩⟩ := extension.target? answered
  · exact ⟨later, nowAnswered, by rw [same]⟩
  · exact ⟨later, nowAnswered, own_of_placeholder lawful fresh sound settled soundLater extension
      known mentioned answered isMissing searched was isNow⟩
  · exact ⟨later, nowAnswered, own_of_root_candidate soundLater extension known mentioned isScope
      atRoot was isNow⟩

end Expansion

end SchemaPlan
