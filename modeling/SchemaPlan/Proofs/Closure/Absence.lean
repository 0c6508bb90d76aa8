import SchemaPlan.Proofs.Closure.Agreement
import SchemaPlan.Proofs.Closure.Preservation

/-!
# Objects that are missing

A key becomes missing in two ways: a routine that is taken up has no source, or
the catalog finds nothing for a reference, whose placeholder is then missing.  A
key does not tell the owner, so the second way can make an object missing that
has been found together with its source.

This needs a reference that names a package and an owner who has no such routine
in it.  Without the owner the catalog would find the routine of any owner, and
outside all packages it looks for any owner in the end.  So over a snapshot an
object with a source is missing exactly when an object of the closure refers to
its routine under another owner (`missing_iff_of_run`).
-/

set_option autoImplicit false

namespace SchemaPlan

/-- Every row tells its owner in stored form, and only routines belong to
packages. -/
structure Snapshot.Regular (snapshot : Snapshot) : Prop where
  owned : ∀ row ∈ snapshot.rows, row.toRef.owner = some row.owner
  routines : ∀ row ∈ snapshot.rows, row.key.isRootLevel = false →
    row.key.objectType.isRoutine = true

namespace Reference

variable {reference : Reference} {owner : Option String}

/-- When nothing is found for a reference, no routine of its package satisfies it that has the
owner it asks for. -/
theorem unsatisfied_of_resolve_eq_none {snapshot : Snapshot} {row : CatalogRow}
    (nothing : reference.resolve owner snapshot.catalog = .ok none) (listed : row ∈ snapshot.rows)
    (isRoutine : row.key.objectType.isRoutine = true)
    (qualified : reference.package = some row.key.package)
    (owned : reference.owner = none ∨ reference.owner = some row.owner) :
    reference.isSatisfiedBy row = false := by
  by_contra satisfied
  rw [Bool.not_eq_false] at satisfied
  obtain ⟨name, kind⟩ := isSatisfiedBy_iff.mp satisfied
  refine resolve_eq_none_iff.mp nothing .named row ⟨listed, name, kind, _, qualified, isRoutine,
    beq_self_eq_true _, fun wanted asked => ?_⟩
  rcases owned with unnamed | named
  · cases unnamed.symm.trans asked
  · obtain rfl := Option.some.inj (named.symm.trans asked)
    exact beq_self_eq_true _

/-- Without an owner only routines are qualified by a package. -/
theorem isRoutine_of_qualify {kind : ReferenceKind} {raw : String} {owners : List String}
    {referrer : ObjectRef} (noOwner : (qualify kind raw owners referrer).owner = none)
    (qualified : (qualify kind raw owners referrer).package ≠ none) : kind.isRoutine = true := by
  have both : (parts kind raw owners).1 = none ∧ (parts kind raw owners).2.1 ≠ none :=
    ⟨noOwner, qualified⟩
  rw [parts] at both
  split at both
  · exact absurd rfl both.2
  · exact absurd rfl both.2
  · split at both
    · cases both.1
    · next condition =>
      simp only [Bool.or_eq_true, not_or, Bool.not_eq_true', Bool.not_eq_false] at condition
      exact condition.2
  · cases both.1

end Reference

namespace Expansion

variable {expansion : Expansion} {roots : List ObjectRef} {snapshot : Snapshot} {last : Nat}
  {final : ClosureState} {closure : Closure}

/-- A routine that has no source. -/
def LacksSource (expansion : Expansion) (object : ObjectRef) : Prop :=
  expansion.sources.fetch object = .ok none ∧ object.key.objectType.isRoutine = true

theorem referencesOf_eq_none {object : ObjectRef} :
    expansion.referencesOf object = .ok none ↔ expansion.sources.fetch object = .ok none := by
  rw [referencesOf]
  cases expansion.sources.fetch object with
  | error failure => simp [Except.mapError, bind, Except.bind]
  | ok source =>
      cases source with
      | none => simp [Except.mapError, bind, Except.bind, pure, Except.pure]
      | some lines =>
          cases extracted : expansion.config.extractor.extractLines expansion.catalog lines <;>
            simp [Except.mapError, bind, Except.bind, pure, Except.pure, extracted]

/-- **Which objects of a closure are missing**: routines without source, and
objects with the key of a placeholder. -/
theorem Finishes.missing_object_iff (finishes : Finishes expansion roots last final closure)
    (fresh : expansion.prior = []) {object : ObjectRef} (listed : object ∈ closure.objects) :
    object.key ∈ closure.missing ↔ expansion.LacksSource object ∨
      ∃ reference, (reference, none) ∈ final.resolved ∧
        reference.placeholder.key = object.key := by
  obtain ⟨member, known, rfl⟩ := finishes.mem_objects.mp listed
  have sound := finishes.scans.sound.1
  have read := sound.references member known
  rw [finishes.missing_eq]
  constructor
  · intro isMissing
    rcases sound.missing _ isMissing with
      ⟨edge, inPrior, _⟩ | ⟨other, alsoKnown, sameKey, sourceless, isRoutine⟩ | noted
    · rw [fresh] at inPrior
      exact absurd inPrior List.not_mem_nil
    · obtain rfl := ClosureState.eq_of_key_eq sound.keysDistinct alsoKnown known sameKey
      rw [sourceless] at read
      exact .inl ⟨referencesOf_eq_none.mp read, isRoutine⟩
    · exact .inr noted
  · rintro (⟨noSource, isRoutine⟩ | ⟨reference, noted, sameKey⟩)
    · have logged := finishes.scans.logged
      have sourceless := Except.ok.inj (read.symm.trans (referencesOf_eq_none.mpr noSource))
      exact (logged.missing _).mpr
        ⟨_, logged.sourceless member known sourceless isRoutine, rfl, rfl⟩
    · exact sameKey ▸ sound.absent reference noted

/-! ## References that nothing satisfies -/

theorem Mentions.plain {object : ObjectRef} {reference : Reference}
    (lawful : expansion.catalog.Lawful) (mentions : expansion.Mentions object reference) :
    reference.Plain := by
  obtain ⟨owners, references, mention, _, read, listed, _, rfl⟩ := mentions
  obtain ⟨lines, _, extracted⟩ := referencesOf_eq_some read
  exact Reference.plain_qualify lawful extracted listed owners object

/-- A package that a source refers to is a row of the snapshot. -/
theorem Mentions.row_of_package (isSnapshot : expansion.catalog = snapshot.catalog)
    {object : ObjectRef} {reference : Reference} (mentions : expansion.Mentions object reference)
    (isPackage : reference.kind = .package) :
    ∃ row ∈ snapshot.rows, row.key.isRootLevel = true ∧ reference.isSatisfiedBy row = true := by
  obtain ⟨owners, references, mention, _, read, listed, _, rfl⟩ := mentions
  obtain ⟨lines, _, extracted⟩ := referencesOf_eq_some read
  rcases Extractor.mem_extractLines extracted listed with
    ⟨notPackage, _⟩ | ⟨_, candidates, confirmed, answered, isConfirmed, noDots⟩
  · exact absurd isPackage notPackage
  · rw [isSnapshot] at answered
    obtain rfl := Except.ok.inj answered
    obtain ⟨row, found, sameName⟩ := List.mem_map.mp (OrderedSet.mem_ofList.mp isConfirmed)
    obtain ⟨inRows, wanted⟩ := List.mem_filter.mp found
    simp only [Bool.and_eq_true, decide_eq_true_eq] at wanted
    obtain ⟨candidate, asked, alike⟩ :=
      snapshot.lawful.packages candidates _ rfl mention.2 isConfirmed
    have noDot : '.' ∉ mention.2.toList := fun dot => noDots candidate asked
      (Text.dot_mem_canonical.mp (alike ▸ Text.dot_mem_canonical.mpr dot))
    refine ⟨row, inRows, wanted.1.2, Reference.isSatisfiedBy_iff.mpr ⟨?_, ?_⟩⟩
    · rw [Reference.qualify, Reference.parts_of_no_dot noDot]
      exact sameName
    · rw [isPackage, wanted.1.1]
      rfl

/-- A reference for which nothing is found is to no package. -/
theorem Mentions.kind_ne_package (isSnapshot : expansion.catalog = snapshot.catalog)
    {object : ObjectRef} {reference : Reference} (mentions : expansion.Mentions object reference)
    {owner : Option String} (nothing : reference.resolve owner expansion.catalog = .ok none) :
    reference.kind ≠ .package := by
  intro isPackage
  obtain ⟨row, listed, rootLevel, satisfied⟩ := mentions.row_of_package isSnapshot isPackage
  rw [isRootLevel_of_satisfied isSnapshot nothing listed satisfied] at rootLevel
  cases rootLevel

/-- An object with the key of the placeholder of a reference for which nothing is
found is a row of a package that satisfies the reference. -/
theorem Finishes.row_of_unresolved (finishes : Finishes expansion roots last final closure)
    (isSnapshot : expansion.catalog = snapshot.catalog) (fresh : expansion.prior = [])
    (rooted : ∀ root ∈ roots, ∃ row ∈ snapshot.rows, row.toRef = root)
    {member : KnownObject} (known : member ∈ final.known) {caller : ObjectRef}
    {reference : Reference} (mentions : expansion.Mentions caller reference)
    (nothing : reference.resolve caller.owner expansion.catalog = .ok none)
    (sameKey : reference.placeholder.key = member.object.key) :
    ∃ row ∈ snapshot.rows, row.key = member.object.key ∧ reference.isSatisfiedBy row = true ∧
      row.key.isRootLevel = false ∧ reference.package = some row.key.package := by
  have lawful : expansion.catalog.Lawful := isSnapshot ▸ snapshot.lawful
  have plain := mentions.plain lawful
  have notPackage := mentions.kind_ne_package isSnapshot nothing
  have objectType := Reference.placeholder_ne_package notPackage
  rw [sameKey] at objectType
  obtain ⟨row, listed, isRow⟩ :=
    finishes.scans.toRef_of_known isSnapshot fresh rooted known objectType
  have rowKey : row.key = member.object.key := congrArg ObjectRef.key isRow
  have placeholder : row.key = reference.placeholder.key := rowKey.trans sameKey.symm
  rw [Reference.key_placeholder] at placeholder
  have satisfied : reference.isSatisfiedBy row = true := by
    refine Reference.isSatisfiedBy_iff.mpr ⟨?_, ?_⟩
    · rw [placeholder]
      exact plain.name notPackage
    · rw [placeholder]
      exact ReferenceKind.accepts_iff.mpr (.inl rfl)
  have inPackage := isRootLevel_of_satisfied isSnapshot nothing listed satisfied
  refine ⟨row, listed, rowKey, satisfied, inPackage, ?_⟩
  cases qualified : reference.package with
  | none =>
      rw [placeholder, qualified, Option.getD_none, normalizePackage_empty] at inPackage
      cases inPackage
  | some package =>
      rw [placeholder, qualified, Option.getD_some, plain.package package qualified]

/-- Such a reference names an owner. -/
theorem Mentions.owner_ne_none (isSnapshot : expansion.catalog = snapshot.catalog)
    {caller : ObjectRef} {reference : Reference} (mentions : expansion.Mentions caller reference)
    (nothing : reference.resolve caller.owner expansion.catalog = .ok none) {row : CatalogRow}
    (listed : row ∈ snapshot.rows) (satisfied : reference.isSatisfiedBy row = true)
    (qualified : reference.package = some row.key.package) : reference.owner ≠ none := by
  intro noOwner
  have isRoutine : reference.kind.isRoutine = true := by
    have isMember : reference.package ≠ none := by
      rw [qualified]
      exact Option.some_ne_none _
    obtain ⟨_, _, mention, _, _, _, _, rfl⟩ := mentions
    exact @Reference.isRoutine_of_qualify mention.1 _ _ _ noOwner isMember
  obtain ⟨_, accepted⟩ := Reference.isSatisfiedBy_iff.mp satisfied
  have rowRoutine : row.key.objectType.isRoutine = true := by
    rw [ReferenceKind.eq_defaultType_of_accepts isRoutine accepted]
    revert isRoutine
    cases reference.kind <;> decide
  rw [isSnapshot] at nothing
  rw [Reference.unsatisfied_of_resolve_eq_none nothing listed rowRoutine qualified (.inl noOwner)]
    at satisfied
  cases satisfied

/-- No known object answers a reference to a routine of a package under an owner
who has no such routine. -/
theorem Finishes.candidate?_eq_none (finishes : Finishes expansion roots last final closure)
    (isSnapshot : expansion.catalog = snapshot.catalog) (fresh : expansion.prior = [])
    (regular : snapshot.Regular)
    (rooted : ∀ root ∈ roots, ∃ row ∈ snapshot.rows, row.toRef = root) {caller : ObjectRef}
    {reference : Reference} (mentions : expansion.Mentions caller reference)
    (named : reference.owner ≠ none) {package : String}
    (qualified : reference.package = some package) (inPackage : package ≠ rootPackage)
    (nothing : reference.resolve caller.owner expansion.catalog = .ok none) :
    final.candidate? reference package = none := by
  cases isFound : final.candidate? reference package with
  | none => rfl
  | some object =>
      exfalso
      obtain ⟨member, isKnown, rfl, memberPackage, name, accepted, agrees⟩ :=
        ClosureState.candidate?_eq_some isFound
      have notPackage := ReferenceKind.ne_package_of_accepts
        (mentions.kind_ne_package isSnapshot nothing) accepted
      obtain ⟨row, listed, isRow⟩ :=
        finishes.scans.toRef_of_known isSnapshot fresh rooted isKnown notPackage
      have rowKey : row.key = member.object.key := congrArg ObjectRef.key isRow
      have rowPackage : row.key.package = package := by rw [rowKey, memberPackage]
      have isMember : row.key.isRootLevel = false := by
        rw [ObjectKey.isRootLevel, rowPackage]
        exact beq_eq_false_iff_ne.mpr inPackage
      have sameOwner : reference.owner = some row.owner := by
        obtain ⟨wanted, isWanted⟩ := Option.ne_none_iff_exists'.mp named
        rw [ClosureState.ownerAgrees, isWanted, ← isRow, regular.owned row listed] at agrees
        rw [isWanted, beq_iff_eq.mp agrees]
      -- So the catalog would have found the row in the package.
      rw [isSnapshot] at nothing
      have unsatisfied := Reference.unsatisfied_of_resolve_eq_none nothing listed
        (regular.routines row listed isMember) (rowPackage ▸ qualified) (.inr sameOwner)
      rw [Reference.isSatisfiedBy_iff.mpr ⟨rowKey ▸ name, rowKey ▸ accepted⟩] at unsatisfied
      cases unsatisfied

/-- In the end, a reference to a routine of a package under an owner who has no
such routine has a placeholder that is missing. -/
theorem Finishes.missing_of_unresolved (finishes : Finishes expansion roots last final closure)
    (isSnapshot : expansion.catalog = snapshot.catalog) (fresh : expansion.prior = [])
    (regular : snapshot.Regular)
    (rooted : ∀ root ∈ roots, ∃ row ∈ snapshot.rows, row.toRef = root)
    {caller : KnownObject} (known : caller ∈ final.known) {reference : Reference}
    (mentions : expansion.Mentions caller.object reference) (named : reference.owner ≠ none)
    {package : String} (qualified : reference.package = some package)
    (inPackage : package ≠ rootPackage)
    (nothing : reference.resolve caller.object.owner expansion.catalog = .ok none) :
    reference.placeholder.key ∈ final.missing := by
  have sound := finishes.scans.sound.1
  have mentioned := (sound.mem_referencesFrom known).mpr mentions
  obtain ⟨target, answered⟩ := finishes.answered known mentioned
  rw [ClosureState.target?] at answered
  cases standing : final.lookup reference with
  | unasked =>
      rw [standing] at answered
      cases answered
  | absent => exact (ClosureState.lookup_eq_absent standing).elim (sound.absent reference) id
  | present object =>
      exfalso
      rcases ClosureState.lookup_eq_present standing with noted | ⟨searched, isSearched, isFound⟩
      · obtain ⟨answer, ⟨other, _, _, resolved⟩, isRow⟩ := sound.resolved _ noted
        obtain ⟨row, rfl, _⟩ := Option.map_eq_some_iff.mp isRow.symm
        rw [Reference.resolve_congr_of_owner named, nothing] at resolved
        cases resolved
      · rw [ClosureState.searchedPackages, qualified, List.mem_singleton] at isSearched
        rw [isSearched, finishes.candidate?_eq_none isSnapshot fresh regular rooted mentions named
          qualified inPackage nothing] at isFound
        cases isFound

/-! ## Runs -/

variable {Log : Type} {sink : EdgeSink Log}

/-- **Which objects are missing.**  They are the routines without source, and the
objects with the key of the placeholder of a reference for which the catalog has
found nothing.  Over a regular snapshot and roots that are its rows, the latter
are the objects whose routine an object of the closure calls by its package and
under an owner who has no such routine. -/
theorem missing_iff_of_run (fresh : expansion.prior = []) {log after : Log}
    (done : expansion.run sink roots log = (.ok closure, after)) :
    ∃ last final, Finishes expansion roots last final closure ∧
      (∀ object ∈ closure.objects, object.key ∈ closure.missing ↔
        expansion.LacksSource object ∨ ∃ reference, (reference, none) ∈ final.resolved ∧
          reference.placeholder.key = object.key) ∧
      ∀ snapshot : Snapshot, expansion.catalog = snapshot.catalog → snapshot.Regular →
        (∀ root ∈ roots, ∃ row ∈ snapshot.rows, row.toRef = root) →
        ∀ object ∈ closure.objects, object.key ∈ closure.missing ↔
          expansion.LacksSource object ∨ ∃ caller ∈ closure.objects, ∃ reference,
            expansion.Mentions caller reference ∧ reference.owner ≠ none ∧
            reference.package ≠ none ∧
            reference.resolve caller.owner expansion.catalog = .ok none ∧
            reference.placeholder.key = object.key := by
  obtain ⟨last, final, finishes⟩ := finishes_of_run done
  have sound := finishes.scans.sound.1
  refine ⟨last, final, finishes, fun object => finishes.missing_object_iff fresh, ?_⟩
  intro snapshot isSnapshot regular rooted object listed
  obtain ⟨member, known, rfl⟩ := finishes.mem_objects.mp listed
  constructor
  · intro isMissing
    refine ((finishes.missing_object_iff fresh listed).mp isMissing).imp_right ?_
    rintro ⟨reference, noted, sameKey⟩
    obtain ⟨answer, ⟨caller, inKnown, mentioned, resolved⟩, isNone⟩ := sound.resolved _ noted
    obtain rfl : answer = none := Option.map_eq_none_iff.mp isNone.symm
    have mentions := (sound.mem_referencesFrom inKnown).mp mentioned
    obtain ⟨row, inRows, _, satisfied, _, qualified⟩ :=
      finishes.row_of_unresolved isSnapshot fresh rooted known mentions resolved sameKey
    refine ⟨caller.object, finishes.mem_objects.mpr ⟨caller, inKnown, rfl⟩, reference, mentions,
      ?_, ?_, resolved, sameKey⟩
    · exact mentions.owner_ne_none isSnapshot resolved inRows satisfied qualified
    · rw [qualified]
      exact Option.some_ne_none _
  · rintro (lacks | ⟨object, isObject, reference, mentions, named, _, resolved, sameKey⟩)
    · exact (finishes.missing_object_iff fresh listed).mpr (.inl lacks)
    · obtain ⟨caller, inKnown, rfl⟩ := finishes.mem_objects.mp isObject
      obtain ⟨row, _, _, _, inPackage, isPackage⟩ :=
        finishes.row_of_unresolved isSnapshot fresh rooted known mentions resolved sameKey
      rw [← sameKey, finishes.missing_eq]
      exact finishes.missing_of_unresolved isSnapshot fresh regular rooted inKnown mentions named
        isPackage (beq_eq_false_iff_ne.mp inPackage) resolved

/-- The rows of a procedure and of a package with a function, all of one owner. -/
def borrowedSnapshot : Snapshot :=
  Snapshot.ofRows [.new "B" .package "" "P", .new "B" .function "P" "F",
    .new "B" .procedure "" "MAIN"]

/-- The function of the package. -/
def borrowedRow : CatalogRow := .new "B" .function "P" "F"

/-- The expansion of the procedure, which calls the function as it is and under
an owner who has no such package. -/
def borrowingExpansion : Expansion where
  catalog := borrowedSnapshot.catalog
  sources := (SourceShelf.ofEntries [.new "B" "" "MAIN" "X := P.F(1); Y := A.P.F(2);",
    .new "B" "P" "F" "NULL;", .new "B" "" "P" "NULL;"]).store
  config := {}

/-- The procedure. -/
def borrowingRoot : ObjectRef := ObjectRef.new (some "B") (.rootLevel .procedure "MAIN")

theorem missing_borrowingExpansion :
    (borrowingExpansion.run EdgeList.sink [borrowingRoot] []).1.toOption.map
      (fun closure => decide (borrowedRow.toRef ∈ closure.objects ∧
        borrowedRow.key ∈ closure.missing)) = some true := by
  with_unfolding_all rfl

theorem not_lacksSource_borrowedRow : ¬ borrowingExpansion.LacksSource borrowedRow.toRef := by
  rintro ⟨noSource, _⟩
  have hasSource : borrowingExpansion.sources.fetch borrowedRow.toRef ≠ .ok none := by
    with_unfolding_all decide
  exact hasSource noSource

/-- The function has been found together with its source, and it is missing for
the sake of the call under the other owner. -/
theorem borrowingExpansion_misses_function :
    ∃ closure after, borrowingExpansion.run EdgeList.sink [borrowingRoot] [] =
        (.ok closure, after) ∧ borrowedRow.key ∈ closure.missing ∧
      ∃ caller ∈ closure.objects, ∃ reference, borrowingExpansion.Mentions caller reference ∧
        reference.owner ≠ none ∧ reference.placeholder.key = borrowedRow.key := by
  obtain ⟨closure, after, done, outcome⟩ :=
    Outcome.eq_ok_of_reading missing_borrowingExpansion
  obtain ⟨listed, isMissing⟩ := of_decide_eq_true outcome
  have regular : borrowedSnapshot.Regular :=
    ⟨by with_unfolding_all decide, by with_unfolding_all decide⟩
  have rooted : ∀ root ∈ [borrowingRoot], ∃ row ∈ borrowedSnapshot.rows.toList,
      row.toRef = root := by
    with_unfolding_all decide
  obtain ⟨_, _, _, _, exactly⟩ := missing_iff_of_run rfl done
  rcases (exactly borrowedSnapshot rfl regular rooted _ listed).mp isMissing with
    lacks | ⟨caller, isObject, reference, mentions, named, _, _, sameKey⟩
  · exact absurd lacks not_lacksSource_borrowedRow
  · exact ⟨closure, after, done, isMissing, caller, isObject, reference, mentions, named, sameKey⟩

/-- **Objects that have a source can be missing.** -/
theorem not_forall_lacksSource :
    ¬ ∀ (expansion : Expansion) (roots : List ObjectRef) (closure : Closure) (after : List Edge),
      expansion.prior = [] → expansion.run EdgeList.sink roots [] = (.ok closure, after) →
      ∀ object ∈ closure.objects, object.key ∈ closure.missing →
        expansion.LacksSource object := by
  intro always
  obtain ⟨closure, after, done, outcome⟩ :=
    Outcome.eq_ok_of_reading missing_borrowingExpansion
  obtain ⟨listed, isMissing⟩ := of_decide_eq_true outcome
  exact not_lacksSource_borrowedRow (always borrowingExpansion [borrowingRoot] closure after rfl
    done _ listed isMissing)

end Expansion

end SchemaPlan
