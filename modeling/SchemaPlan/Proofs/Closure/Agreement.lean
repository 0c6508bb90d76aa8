import SchemaPlan.Proofs.Closure.Completeness

/-!
# Known objects and the catalog

A reference is looked up among the known objects and the missing keys before the
catalog is asked.  So what a reference of an object is taken for can differ from
what the catalog would find for it: a homonym outside the package of the object
may be known, or missing, before the routine of the package is.

The records of an object are exactly what its references have been taken for in
some scan.  Hence an object has a record for what the catalog finds exactly when
one of its references has been taken for something with that delivery unit.
Where the catalog offers nothing else and no homonym is missing, it has.
-/

set_option autoImplicit false

namespace SchemaPlan.Expansion

variable {expansion : Expansion} {roots : List ObjectRef}

/-! ## Answers given in a run -/

/-- In some scan a reference of an object is taken for the target. -/
def Answers (expansion : Expansion) (roots : List ObjectRef) (object target : ObjectRef) : Prop :=
  ∃ iteration state, Scans expansion roots iteration state ∧
    ∃ member ∈ state.known, member.object = object ∧
      ∃ reference ∈ state.referencesFrom member, state.target? reference = some target

/-- The source of an object contains the reference. -/
def Mentions (expansion : Expansion) (object : ObjectRef) (reference : Reference) : Prop :=
  ∃ owners references mention, expansion.catalog.owners = .ok owners ∧
    expansion.referencesOf object = .ok (some references) ∧
    mention ∈ references.toList ∧ mention.1 ≠ .localFunction ∧
    Reference.qualify mention.1 mention.2 owners object = reference

/-- The catalog finds a row for a reference in the source of an object of the
closure. -/
def Finds (expansion : Expansion) (closure : Closure) (object : ObjectRef) (reference : Reference)
    (row : CatalogRow) : Prop :=
  object ∈ closure.objects ∧ (∃ owners references mention,
    expansion.catalog.owners = .ok owners ∧
    expansion.referencesOf object = .ok (some references) ∧
    mention ∈ references.toList ∧ mention.1 ≠ .localFunction ∧
    Reference.qualify mention.1 mention.2 owners object = reference) ∧
  reference.resolve object.owner expansion.catalog = .ok (some row)

/-- What the catalog finds for the references of an object is accounted for. -/
def Agrees (expansion : Expansion) (closure : Closure) : Prop :=
  ∀ object reference row, expansion.Finds closure object reference row →
    closure.Covers object (deliveryUnit object row.toRef)

/-- The references of a known object are those that its source contains. -/
theorem Sound.mem_referencesFrom {state : ClosureState} (sound : Sound expansion state)
    {member : KnownObject} (known : member ∈ state.known) {reference : Reference} :
    reference ∈ state.referencesFrom member ↔ expansion.Mentions member.object reference := by
  rw [ClosureState.mem_referencesFrom]
  have read := sound.references member known
  constructor
  · rintro ⟨references, source, mention, listed, external, qualified⟩
    exact ⟨state.owners, references, mention, sound.owners, source ▸ read, listed, external,
      qualified⟩
  · rintro ⟨owners, references, mention, isOwners, source, listed, external, qualified⟩
    obtain rfl := Except.ok.inj (isOwners.symm.trans sound.owners)
    have same := Except.ok.inj (read.symm.trans source)
    exact ⟨references, same, mention, listed, external, qualified⟩

namespace Finishes

variable {last : Nat} {final : ClosureState} {closure : Closure}

/-- **A dependency is accounted for exactly when it is own or an answer is
delivered as it is.** -/
theorem covers_iff (finishes : Finishes expansion roots last final closure)
    (fresh : expansion.prior = []) {object dependency : ObjectRef} :
    closure.Covers object (deliveryUnit object dependency) ↔
      isOwnDeliveryUnit object dependency = true ∨
      ∃ target, expansion.Answers roots object target ∧
        (deliveryUnit object target).key = (deliveryUnit object dependency).key := by
  rw [Closure.Covers, isOwnDeliveryUnit_deliveryUnit, finishes.records_requires fresh]
  constructor
  · rintro (own | ⟨iteration, state, scans, member, known, rfl, reference, mentioned, target,
      answered, _, sameUnit⟩)
    · exact .inl own
    · exact .inr ⟨target, ⟨iteration, state, scans, member, known, rfl, reference, mentioned,
        answered⟩, sameUnit⟩
  · rintro (own | ⟨target, ⟨iteration, state, scans, member, known, rfl, reference, mentioned,
      answered⟩, sameUnit⟩)
    · exact .inl own
    · have sameOwn := @isOwnDeliveryUnit_congr member.object _ _ sameUnit
      rw [isOwnDeliveryUnit_deliveryUnit, isOwnDeliveryUnit_deliveryUnit] at sameOwn
      cases own : isOwnDeliveryUnit member.object dependency with
      | true => exact .inl rfl
      | false =>
          exact .inr ⟨iteration, state, scans, member, known, rfl, reference, mentioned, target,
            answered, sameOwn.trans own, sameUnit⟩

/-- A reference in the source of an object of the closure is one of a known
object. -/
theorem known_of_finds (finishes : Finishes expansion roots last final closure)
    {object : ObjectRef} {reference : Reference} {row : CatalogRow}
    (finds : expansion.Finds closure object reference row) :
    ∃ member ∈ final.known, member.object = object ∧ reference ∈ final.referencesFrom member := by
  obtain ⟨inClosure, mentions, _⟩ := finds
  obtain ⟨member, known, rfl⟩ := finishes.mem_objects.mp inClosure
  exact ⟨member, known, rfl, (finishes.scans.sound.1.mem_referencesFrom known).mpr mentions⟩

end Finishes

/-! ## Where known objects come from -/

/-- An object that a run begins with is a root or a package. -/
theorem origin_start (fresh : expansion.prior = []) {state : ClosureState}
    (started : expansion.start roots = .ok state) :
    ∀ member ∈ state.known, member.object ∈ roots ∨
      ∃ package, member.object.key = ObjectKey.packageNode package := by
  obtain ⟨owners, taken⟩ := start_eq_ok_of_fresh fresh started
  let origin (state : ClosureState) : Prop := ∀ member ∈ state.known, member.object ∈ roots ∨
    ∃ package, member.object.key = ObjectKey.packageNode package
  refine @Outcome.foldlM_induction _ _ _ _ origin _ _ _
    (fun member known => absurd known List.not_mem_nil) ?_ taken
  intro before root isRoot after holds one
  refine @takeUp_induction expansion before after origin root holds ?_ one
  intro state other references holds _ _ which member known
  rcases ClosureState.mem_known_enter.mp known with old | rfl
  · exact holds member old
  · rcases which with same | contained
    · exact .inl (same ▸ isRoot)
    · obtain ⟨⟨package, _, isPackage⟩, _⟩ := containerOf?_eq_some contained
      exact .inr ⟨package, isPackage⟩

/-- A known object is a root, a package, or has been found for a reference. -/
theorem Scans.origin (fresh : expansion.prior = []) {iteration : Nat} {state : ClosureState}
    (scans : Scans expansion roots iteration state) :
    ∀ member ∈ state.known, member.object ∈ roots ∨
      (∃ package, member.object.key = ObjectKey.packageNode package) ∨
      ∃ reference, (reference, some member.object) ∈ state.resolved := by
  obtain ⟨first, started⟩ : ∃ first, expansion.start roots = .ok first := by
    induction scans with
    | first started => exact ⟨_, started⟩
    | next _ _ _ ih => exact ih
  intro member known
  rcases ((Scans.first started).extends scans scans.pos).fresh member known with old | found
  · exact (origin_start fresh started member old).imp_right .inl
  · exact .inr found

/-! ## Calls within a package -/

variable {snapshot : Snapshot} {last : Nat} {final : ClosureState} {closure : Closure}

theorem mem_rows_of_resolve (isSnapshot : expansion.catalog = snapshot.catalog)
    {reference : Reference} {owner : Option String} {row : CatalogRow}
    (found : reference.resolve owner expansion.catalog = .ok (some row)) :
    row ∈ snapshot.rows ∧ (row.key.isRootLevel = true ∨
      row.key.objectType.isRoutine = true ∧ ∃ package,
        (reference.package = some package ∨
          ∃ scope, reference.scope = some scope ∧ scope.package = package) ∧
        Text.canonical row.key.package = Text.canonical package) := by
  exact Reference.mem_rows_of_resolve (isSnapshot ▸ found)

/-- Objects that satisfy a reference to a routine and belong to the same package
have the same key. -/
theorem eq_of_satisfies_routine {reference : Reference}
    (isRoutine : reference.kind.isRoutine = true) {first second : ObjectKey}
    (name : first.name = reference.name)
    (otherName : second.name = reference.name)
    (accepted : reference.kind.accepts first.objectType = true)
    (otherAccepted : reference.kind.accepts second.objectType = true)
    (samePackage : first.package = second.package) : first = second := by
  have type := ReferenceKind.eq_defaultType_of_accepts isRoutine accepted
  have otherType := ReferenceKind.eq_defaultType_of_accepts isRoutine otherAccepted
  exact ObjectKey.eq_of_fields (type.trans otherType.symm) samePackage (name.trans otherName.symm)

/-- What a reference to a routine finds has one key for all referrers. -/
theorem key_of_routine {reference : Reference} (isRoutine : reference.kind.isRoutine = true)
    {owner other : Option String} {row again : CatalogRow}
    (found : reference.resolve owner snapshot.catalog = .ok (some row))
    (alsoFound : reference.resolve other snapshot.catalog = .ok (some again)) :
    again.key = row.key := by
  obtain ⟨answer, resolved, either⟩ := Reference.exists_resolve_other found other
  obtain rfl := Option.some.inj (Except.ok.inj (resolved.symm.trans alsoFound))
  rcases either with rfl | ⟨_, rootLevel, alsoRootLevel⟩
  · rfl
  · obtain ⟨name, type⟩ := Reference.isSatisfiedBy_iff.mp (Reference.isSatisfiedBy_of_resolve found)
    obtain ⟨otherName, otherType⟩ :=
      Reference.isSatisfiedBy_iff.mp (Reference.isSatisfiedBy_of_resolve resolved)
    exact eq_of_satisfies_routine isRoutine otherName name otherType type
      ((beq_iff_eq.mp alsoRootLevel).trans (beq_iff_eq.mp rootLevel).symm)

/-- An answer of the catalog to a reference to a routine has the key that the catalog
finds for any referrer. -/
theorem Sound.key_of_noted (isSnapshot : expansion.catalog = snapshot.catalog)
    {state : ClosureState} (sound : Sound expansion state) {reference : Reference}
    (isRoutine : reference.kind.isRoutine = true) {owner : Option String} {row : CatalogRow}
    (found : reference.resolve owner expansion.catalog = .ok (some row)) {answer : Option ObjectRef}
    (noted : (reference, answer) ∈ state.resolved) :
    ∃ object, answer = some object ∧ object.key = row.key := by
  obtain ⟨given, ⟨member, _, _, resolved⟩, isAnswer⟩ := sound.resolved _ noted
  dsimp only at isAnswer resolved
  rw [isSnapshot] at found resolved
  obtain ⟨again, alsoFound, _⟩ := Reference.exists_resolve_other found member.object.owner
  obtain rfl : given = some again := Except.ok.inj (resolved.symm.trans alsoFound)
  exact ⟨again.toRef, isAnswer, key_of_routine isRoutine found alsoFound⟩

/-- When the routine that the catalog finds in the package of the referrer is
known, it is what the reference is taken for. -/
theorem Sound.key_own_call (isSnapshot : expansion.catalog = snapshot.catalog)
    {state : ClosureState} (sound : Sound expansion state) {reference : Reference} {scope : Scope}
    (isRoutine : reference.kind.isRoutine = true) (unqualified : reference.package = none)
    (isScope : reference.scope = some scope) (noOwner : reference.owner = none)
    {owner : Option String} {row : CatalogRow}
    (found : reference.resolve owner expansion.catalog = .ok (some row))
    (inPackage : row.key.package = scope.package) {member : KnownObject}
    (known : member ∈ state.known) (sameKey : member.object.key = row.key) {target : ObjectRef}
    (answered : state.target? reference = some target) : target.key = row.key := by
  obtain ⟨name, accepted⟩ :=
    Reference.isSatisfiedBy_iff.mp (Reference.isSatisfiedBy_of_resolve found)
  rw [ClosureState.target?_eq] at answered
  cases asked : state.answered? reference with
  | some answer =>
      obtain ⟨object, rfl, isRow⟩ := sound.key_of_noted isSnapshot isRoutine found
        (ClosureState.mem_resolved_of_answered? asked)
      rw [asked] at answered
      obtain rfl := Option.some.inj answered
      exact isRow
  | none =>
      have inScope : state.candidate? reference scope.package ≠ none := by
        rw [← inPackage, ← sameKey]
        refine ClosureState.candidate?_ne_none known ?_ ?_ ?_
        · rw [sameKey, name]
        · rw [sameKey, accepted]
        · rw [ClosureState.ownerAgrees, noOwner]
      obtain ⟨object, isCandidate⟩ := Option.ne_none_iff_exists'.mp inScope
      have present : state.knownTarget? reference = some object := by
        rw [ClosureState.knownTarget?, ClosureState.searchedPackages, unqualified, isScope]
        simp only [List.findSome?_cons, isCandidate]
      rw [asked, present] at answered
      obtain rfl := Option.some.inj answered
      obtain ⟨_, _, _, candidatePackage, candidateName, candidateType, _⟩ :=
        ClosureState.candidate?_eq_some isCandidate
      exact eq_of_satisfies_routine isRoutine candidateName name candidateType accepted
        (candidatePackage.trans inPackage.symm)

/-- **A call within a package is recorded exactly when the routine has become an
object of the closure.** -/
theorem Finishes.covers_own_call (isSnapshot : expansion.catalog = snapshot.catalog)
    (fresh : expansion.prior = []) (finishes : Finishes expansion roots last final closure)
    {object : ObjectRef} {reference : Reference} {row : CatalogRow} {scope : Scope}
    (finds : expansion.Finds closure object reference row) (isScope : reference.scope = some scope)
    (noOwner : reference.owner = none) (inPackage : row.key.package = scope.package)
    (present : row.key ∉ closure.missing) :
    closure.Covers object (deliveryUnit object row.toRef) ↔
      isOwnDeliveryUnit object row.toRef = true ∨
        ∃ known ∈ closure.objects, known.key = row.key := by
  obtain ⟨member, known, rfl, mentioned⟩ := finishes.known_of_finds finds
  obtain ⟨_, _, mention, _, _, isReference⟩ := ClosureState.mem_referencesFrom.mp mentioned
  obtain ⟨⟨isRoutine, unqualified⟩, delivered⟩ : (reference.kind.isRoutine = true ∧
      reference.package = none) ∧ member.object.key.deliveryPackage? = some scope.package := by
    subst isReference
    exact Reference.scope_qualify isScope
  constructor
  · intro covered
    refine ((finishes.covers_iff fresh).mp covered).imp_right ?_
    rintro ⟨target, ⟨_, state, scans, other, _, _, asked, _, answered⟩, sameUnit⟩
    rw [deliveryUnit_of_delivered delivered, deliveryUnit_of_delivered delivered] at sameUnit
    change target.key = row.key at sameUnit
    have extension := finishes.extends scans
    obtain ⟨sound, settled⟩ := scans.sound
    rcases sound.origin settled answered with ⟨⟨found, isKnown, sameKey⟩, _⟩ | ⟨_, _, isMissing⟩
    · exact ⟨found.object, finishes.mem_objects.mpr ⟨found, extension.known.subset isKnown, rfl⟩,
        sameKey.trans sameUnit⟩
    · refine absurd ?_ present
      rw [← sameUnit, finishes.missing_eq]
      exact extension.missing _ isMissing
  · rintro (own | ⟨_, inClosure, sameKey⟩)
    · left
      rw [isOwnDeliveryUnit_deliveryUnit, own]
    · obtain ⟨found, isKnown, rfl⟩ := finishes.mem_objects.mp inClosure
      obtain ⟨target, answered⟩ := finishes.answered known mentioned
      refine (Closure.covers_congr ?_).mp (finishes.covers_answer fresh known mentioned answered)
      exact finishes.scans.sound.1.key_own_call isSnapshot isRoutine unqualified isScope noOwner
        finds.2.2 inPackage isKnown sameKey answered

/-! ## Runs -/

variable {Log : Type} {sink : EdgeSink Log}

/-- **When the known objects agree with the catalog**: exactly when everything that
the catalog finds for a reference of an object is own, or in some scan a reference
of the object has been taken for something that is delivered alike.  Where this is
not so, the reference stands for another object with its name, or for its
placeholder, and that is accounted for in place of what the catalog finds.  What
the catalog finds for a call within a package is accounted for exactly when it has
become an object of the closure, unless it is missing. -/
theorem agrees_iff (isSnapshot : expansion.catalog = snapshot.catalog)
    (fresh : expansion.prior = []) {log after : Log}
    (done : expansion.run sink roots log = (.ok closure, after)) :
    (expansion.Agrees closure ↔
      ∀ object reference row, expansion.Finds closure object reference row →
        isOwnDeliveryUnit object row.toRef = true ∨
        ∃ target, expansion.Answers roots object target ∧
          (deliveryUnit object target).key = (deliveryUnit object row.toRef).key) ∧
    ∀ object reference row, expansion.Finds closure object reference row →
      (¬ closure.Covers object (deliveryUnit object row.toRef) →
        ∃ target, closure.Offers reference target ∧ target.key ≠ row.key ∧
          closure.Covers object (deliveryUnit object target)) ∧
      ∀ scope, reference.scope = some scope → reference.owner = none →
        row.key.package = scope.package → row.key ∉ closure.missing →
        (closure.Covers object (deliveryUnit object row.toRef) ↔
          isOwnDeliveryUnit object row.toRef = true ∨
          ∃ known ∈ closure.objects, known.key = row.key) := by
  obtain ⟨last, final, finishes⟩ := finishes_of_run done
  refine ⟨?_, fun object reference row finds => ⟨fun uncovered => ?_, ?_⟩⟩
  · refine forall_congr' fun object => forall_congr' fun reference => forall_congr' fun row => ?_
    exact imp_congr_right fun _ => finishes.covers_iff fresh
  · obtain ⟨member, known, rfl, mentioned⟩ := finishes.known_of_finds finds
    obtain ⟨target, offered, covered⟩ := finishes.reference_covered fresh known mentioned
    exact ⟨target, offered, fun sameKey => uncovered ((Closure.covers_congr sameKey).mp covered),
      covered⟩
  · exact fun scope isScope noOwner inPackage present =>
      finishes.covers_own_call isSnapshot fresh finds isScope noOwner inPackage present

/-- The rows of a package with a procedure and a function, and of a function of
the same name outside the package. -/
def homonymSnapshot : Snapshot :=
  Snapshot.ofRows [.new "A" .package "" "P", .new "A" .procedure "P" "G",
    .new "A" .function "P" "F", .new "A" .function "" "F"]

/-- The procedure of the package, which calls the function. -/
def homonymCaller : ObjectRef := ObjectRef.new (some "A") (.new .procedure "P" "G")

/-- The two functions: that of the package, and the one outside it. -/
def homonymRows : CatalogRow × CatalogRow := (.new "A" .function "P" "F", .new "A" .function "" "F")

/-- The expansion of the procedure and the function outside the package. -/
def homonymExpansion : Expansion where
  catalog := homonymSnapshot.catalog
  sources := (SourceShelf.ofEntries [.new "A" "P" "G" "X := F(1);", .new "A" "P" "F" "NULL;",
    .new "A" "" "P" "NULL;", .new "A" "" "F" "NULL;"]).store
  config := {}

/-- What the procedure calls. -/
def homonymCall : Reference := Reference.qualify .function "F" ["A"] homonymCaller

theorem covers_homonymExpansion :
    (homonymExpansion.run EdgeList.sink [homonymRows.2.toRef, homonymCaller] []).1.toOption.map
      (fun closure => decide (homonymCaller ∈ closure.objects ∧
        ¬ closure.Covers homonymCaller (deliveryUnit homonymCaller homonymRows.1.toRef))) =
      some true := by
  with_unfolding_all rfl

theorem finds_homonymExpansion {closure : Closure} (inClosure : homonymCaller ∈ closure.objects) :
    homonymExpansion.Finds closure homonymCaller homonymCall homonymRows.1 := by
  have reads : (homonymExpansion.referencesOf homonymCaller, ()).1.toOption.map
      (fun source => decide (∃ references ∈ source, (.function, "F") ∈ references.toList)) =
      some true := by
    with_unfolding_all rfl
  obtain ⟨source, _, read, calls⟩ := Outcome.eq_ok_of_reading reads
  obtain ⟨references, isSource, listed⟩ := of_decide_eq_true calls
  refine ⟨inClosure, ⟨["A"], references, (.function, "F"), ?_, ?_, listed, by decide, rfl⟩, ?_⟩
  · with_unfolding_all decide
  · rw [(Prod.mk.inj read).1, Option.mem_def.mp isSource]
  · with_unfolding_all rfl

/-- The procedure is recorded to require the function outside its package. -/
theorem homonymExpansion_records_homonym :
    ∃ closure after, homonymExpansion.run EdgeList.sink [homonymRows.2.toRef, homonymCaller] [] =
        (.ok closure, after) ∧
      ∃ target, closure.Offers homonymCall target ∧ target.key ≠ homonymRows.1.key ∧
        closure.Covers homonymCaller (deliveryUnit homonymCaller target) := by
  obtain ⟨closure, after, done, outcome⟩ := Outcome.eq_ok_of_reading covers_homonymExpansion
  obtain ⟨inClosure, uncovered⟩ := of_decide_eq_true outcome
  obtain ⟨_, otherwise⟩ := @agrees_iff _ _ homonymSnapshot _ _ EdgeList.sink rfl rfl _ _ done
  exact ⟨closure, after, done,
    (otherwise _ _ _ (finds_homonymExpansion inClosure)).1 uncovered⟩

/-- **Known objects do not agree with the catalog in general**, not even when the
roots are rows of a snapshot. -/
theorem not_forall_agrees :
    ¬ ∀ (snapshot : Snapshot) (expansion : Expansion) (roots : List ObjectRef) (closure : Closure)
        (after : List Edge), expansion.catalog = snapshot.catalog → expansion.prior = [] →
      (∀ root ∈ roots, ∃ row ∈ snapshot.rows.toList, row.toRef = root) →
      expansion.run EdgeList.sink roots [] = (.ok closure, after) → expansion.Agrees closure := by
  intro always
  obtain ⟨closure, after, done, outcome⟩ := Outcome.eq_ok_of_reading covers_homonymExpansion
  obtain ⟨inClosure, uncovered⟩ := of_decide_eq_true outcome
  have rooted : ∀ root ∈ [homonymRows.2.toRef, homonymCaller],
      ∃ row ∈ homonymSnapshot.rows.toList, row.toRef = root := by
    with_unfolding_all decide
  exact uncovered (always homonymSnapshot homonymExpansion _ closure after rfl rfl rooted done
    homonymCaller homonymCall homonymRows.1 (finds_homonymExpansion inClosure))

/-! ## Unambiguous names -/

/-- A known object that is no package is a row of the snapshot, when the roots
are. -/
theorem Scans.toRef_of_known (isSnapshot : expansion.catalog = snapshot.catalog)
    (fresh : expansion.prior = [])
    (rooted : ∀ root ∈ roots, ∃ row ∈ snapshot.rows, row.toRef = root)
    {iteration : Nat} {state : ClosureState} (scans : Scans expansion roots iteration state)
    {member : KnownObject} (known : member ∈ state.known)
    (notPackage : member.object.key.objectType ≠ .package) :
    ∃ row ∈ snapshot.rows, row.toRef = member.object := by
  rcases scans.origin fresh member known with isRoot | ⟨package, isPackage⟩ | ⟨reference, noted⟩
  · exact rooted _ isRoot
  · rw [isPackage] at notPackage
    exact absurd rfl notPackage
  · obtain ⟨_, ⟨_, _, _, resolved⟩, isRow⟩ := scans.sound.1.resolved _ noted
    obtain ⟨row, rfl, isObject⟩ := Option.map_eq_some_iff.mp isRow.symm
    exact ⟨row, (mem_rows_of_resolve isSnapshot resolved).1, isObject⟩

/-- No row outside all packages satisfies a reference for which nothing is
found. -/
theorem isRootLevel_of_satisfied (isSnapshot : expansion.catalog = snapshot.catalog)
    {reference : Reference} {owner : Option String}
    (nothing : reference.resolve owner expansion.catalog = .ok none) {row : CatalogRow}
    (listed : row ∈ snapshot.rows) (satisfied : reference.isSatisfiedBy row = true) :
    row.key.isRootLevel = false := by
  rw [isSnapshot] at nothing
  by_contra rootLevel
  rw [Bool.not_eq_false] at rootLevel
  obtain ⟨name, kind⟩ := Reference.isSatisfiedBy_iff.mp satisfied
  exact Reference.resolve_eq_none_iff.mp nothing .anywhere row ⟨listed, name, kind, rootLevel⟩

/-- No row outside all packages satisfies a reference that shares its placeholder
with an unresolved one. -/
theorem not_isRootLevel_of_unresolved (isSnapshot : expansion.catalog = snapshot.catalog)
    {reference unresolved : Reference} {owner : Option String}
    (nothing : unresolved.resolve owner expansion.catalog = .ok none)
    (sameKey : unresolved.placeholder.key = reference.placeholder.key) (plain : reference.Plain)
    (alsoPlain : unresolved.Plain) (notPackage : reference.kind ≠ .package) {row : CatalogRow}
    (listed : row ∈ snapshot.rows) (satisfied : reference.isSatisfiedBy row = true) :
    row.key.isRootLevel = false := by
  rw [Reference.key_placeholder, Reference.key_placeholder, ObjectKey.mk.injEq] at sameKey
  obtain ⟨sameType, _, sameName⟩ := sameKey
  have sameKind := ReferenceKind.eq_of_defaultType sameType
  rw [plain.name notPackage, alsoPlain.name (sameKind ▸ notPackage)] at sameName
  obtain ⟨name, accepted⟩ := Reference.isSatisfiedBy_iff.mp satisfied
  refine isRootLevel_of_satisfied isSnapshot nothing listed ?_
  exact Reference.isSatisfiedBy_iff.mpr ⟨name.trans sameName.symm, sameKind ▸ accepted⟩

/-- When there are no homonyms, a placeholder that answers a reference has the
key that the catalog finds, unless it stands for a routine outside all packages
where the catalog finds one in the package of the referrer. -/
theorem Finishes.key_placeholder (isSnapshot : expansion.catalog = snapshot.catalog)
    (fresh : expansion.prior = [])
    (rooted : ∀ root ∈ roots, ∃ row ∈ snapshot.rows, row.toRef = root)
    (finishes : Finishes expansion roots last final closure) {member : KnownObject}
    (known : member ∈ final.known) {reference : Reference}
    (mentioned : reference ∈ final.referencesFrom member) (notPackage : reference.kind ≠ .package)
    {row : CatalogRow}
    (found : reference.resolve member.object.owner expansion.catalog = .ok (some row))
    (stored : Text.canonical row.key.package = row.key.package)
    (only : ∀ other ∈ snapshot.rows, reference.isSatisfiedBy other = true → other.key = row.key)
    (outside : row.key.isRootLevel = true ∨ reference.package ≠ none)
    (isMissing : reference.placeholder.key ∈ final.missing) :
    reference.placeholder.key = row.key := by
  have sound := finishes.scans.sound.1
  have lawful : expansion.catalog.Lawful := isSnapshot ▸ snapshot.lawful
  have plain := sound.plain lawful known mentioned
  obtain ⟨name, accepted⟩ :=
    Reference.isSatisfiedBy_iff.mp (Reference.isSatisfiedBy_of_resolve found)
  have sameName : reference.placeholder.key.name = reference.name := by
    rw [Reference.key_placeholder]
    exact plain.name notPackage
  rcases sound.missing _ isMissing with ⟨edge, inPrior, _⟩ | ⟨sourceless, isKnown, sameKey, _⟩ |
    ⟨unresolved, noted, sameKey⟩
  · rw [fresh] at inPrior
    exact absurd inPrior List.not_mem_nil
  · have ofType := Reference.placeholder_ne_package notPackage
    rw [← sameKey] at ofType
    obtain ⟨other, listed, isRow⟩ :=
      finishes.scans.toRef_of_known isSnapshot fresh rooted isKnown ofType
    have isOther := congrArg ObjectRef.key isRow
    change other.key = _ at isOther
    rw [← sameKey, ← isOther]
    refine only other listed (Reference.isSatisfiedBy_iff.mpr ?_)
    rw [isOther, sameKey]
    exact ⟨sameName, ReferenceKind.accepts_iff.mpr (.inl rfl)⟩
  · -- No row outside all packages satisfies the reference, so the row is in its package.
    obtain ⟨answer, wasAsked, same⟩ := sound.resolved _ noted
    obtain rfl : answer = none := Option.map_eq_none_iff.mp same.symm
    have otherPlain := wasAsked.plain lawful sound
    obtain ⟨_, _, _, nothing⟩ := wasAsked
    obtain ⟨listed, origin⟩ := mem_rows_of_resolve isSnapshot found
    have notRoot := not_isRootLevel_of_unresolved isSnapshot nothing sameKey plain otherPlain
      notPackage listed (Reference.isSatisfiedBy_of_resolve found)
    rw [notRoot] at outside origin
    obtain ⟨isRoutine, package, searched, samePackage⟩ := origin.resolve_left Bool.false_ne_true
    have qualified : reference.package = some package := by
      refine searched.resolve_right fun ⟨scope, isScope, _⟩ => ?_
      obtain ⟨_, _, mention, _, _, rfl⟩ := ClosureState.mem_referencesFrom.mp mentioned
      exact outside.resolve_left Bool.false_ne_true (Reference.scope_qualify isScope).1.2
    have plainPackage := plain.package package qualified
    rw [stored, canonical_of_normalizePackage plainPackage] at samePackage
    rw [Reference.key_placeholder, qualified, Option.getD_some, plainPackage]
    refine ObjectKey.eq_of_fields ?_ samePackage.symm ((plain.name notPackage).trans name.symm)
    refine ((ReferenceKind.accepts_iff.mp accepted).resolve_right fun isView => ?_).symm
    rw [isView.2] at isRoutine
    cases isRoutine

/-- **Without homonyms the known objects agree with the catalog.**  When the roots
are rows of a snapshot and one key satisfies a reference, what the catalog finds
is accounted for, unless it is a routine of a package and a routine of this name
outside all packages is missing. -/
theorem covers_of_unambiguous (isSnapshot : expansion.catalog = snapshot.catalog)
    (fresh : expansion.prior = [])
    (rooted : ∀ root ∈ roots, ∃ row ∈ snapshot.rows, row.toRef = root)
    {log after : Log} (done : expansion.run sink roots log = (.ok closure, after))
    {object : ObjectRef} {reference : Reference} {row : CatalogRow}
    (finds : expansion.Finds closure object reference row) (notPackage : reference.kind ≠ .package)
    (stored : Text.canonical row.key.package = row.key.package)
    (only : ∀ other ∈ snapshot.rows, reference.isSatisfiedBy other = true → other.key = row.key)
    (outside : (row.key.isRootLevel = true ∨ reference.package ≠ none) ∨
      reference.placeholder.key ∉ closure.missing) :
    closure.Covers object (deliveryUnit object row.toRef) := by
  obtain ⟨last, final, finishes⟩ := finishes_of_run done
  obtain ⟨sound, settled⟩ := finishes.scans.sound
  obtain ⟨member, known, rfl, mentioned⟩ := finishes.known_of_finds finds
  obtain ⟨target, answered⟩ := finishes.answered known mentioned
  refine (Closure.covers_congr ?_).mp (finishes.covers_answer fresh known mentioned answered)
  change target.key = row.key
  rcases sound.origin settled answered with
    ⟨⟨found, isKnown, sameKey⟩, name, type⟩ | ⟨_, rfl, isMissing⟩
  · have ofType := ReferenceKind.ne_package_of_accepts notPackage type
    rw [← sameKey] at ofType
    obtain ⟨other, listed, isRow⟩ :=
      finishes.scans.toRef_of_known isSnapshot fresh rooted isKnown ofType
    have isOther := congrArg ObjectRef.key isRow
    change other.key = _ at isOther
    rw [← sameKey, ← isOther]
    refine only other listed (Reference.isSatisfiedBy_iff.mpr ?_)
    rw [isOther, sameKey]
    exact ⟨name, type⟩
  · refine finishes.key_placeholder isSnapshot fresh rooted known mentioned notPackage finds.2.2
      stored only (outside.resolve_right fun notMissing => notMissing ?_) isMissing
    exact finishes.missing_eq ▸ isMissing

end SchemaPlan.Expansion
