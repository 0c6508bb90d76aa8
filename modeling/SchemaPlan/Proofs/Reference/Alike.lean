import SchemaPlan.Proofs.Database.EdgeRow
import SchemaPlan.Proofs.Reference.Qualification
import SchemaPlan.Proofs.Reference.Resolution

/-!
# Catalogs that answer alike

Two catalogs are alike when they know the same owners and answer every question about
trimmed names with the same rows, in whatever order and however often each row comes
(`Catalog.Alike`).  Names with blanks around them are left out, since one catalog may
strip the blanks where another one only looks past the case.

Nothing that is made of the answers depends on the order of the rows: of the rows that
satisfy a reference the least is taken, and packages are confirmed as a set.  The
references that are asked about are trimmed, as they are made of names in source text,
of packages that the catalog has confirmed and of referrers in stored form
(`Reference.isTrimmed_qualify`).  So alike catalogs resolve them alike.
-/

set_option autoImplicit false

namespace SchemaPlan

/-! ## Trimmed names -/

namespace Text

/-- A name without blanks at its ends. -/
def Trimmed (name : String) : Prop := trim name = name

theorem trimmed_trim (name : String) : Trimmed (trim name) := by
  rw [Trimmed, ← String.toList_inj, toList_trim, toList_trim, trimWhere_trimWhere]

/-- A name in stored form is trimmed. -/
theorem trimmed_canonical (name : String) : Trimmed (canonical name) := by
  rw [canonical_eq_trim_upper]
  exact trimmed_trim _

theorem trimmed_of_canonical {name : String} (stored : canonical name = name) : Trimmed name := by
  rw [← stored]
  exact trimmed_canonical name

theorem trimmed_of_isPlain {name : String} (plain : ∀ character ∈ name.toList, IsPlain character) :
    Trimmed name :=
  trim_eq_self fun character member => (plain character member).1

/-- **A trimmed name is that of something stored up to case** exactly when its stored
form is. -/
theorem sameIgnoringCase_iff {stored name : String} (isStored : canonical stored = stored)
    (trimmed : Trimmed name) : sameIgnoringCase stored name = true ↔ stored = canonical name := by
  have whole : trim stored = stored := trimmed_of_canonical isStored
  have capital : upper stored = stored := by rw [← congrArg upper whole, ← canonical, isStored]
  rw [sameIgnoringCase, beq_iff_eq, capital, canonical, trimmed]

end Text

open Text (Trimmed)

namespace ObjectRef.IsMade

variable {object : ObjectRef}

theorem trimmed_owner (made : object.IsMade) : ∀ owner ∈ object.owner, Trimmed owner := by
  obtain ⟨given, _, _, _, rfl⟩ := made
  intro owner isOwner
  obtain ⟨name, _, rfl, _⟩ := normalizeOwner_eq_some.mp (Option.mem_def.mp isOwner)
  exact Text.trimmed_canonical name

/-- The package that an object is delivered with has a trimmed name. -/
theorem trimmed_deliveryPackage (made : object.IsMade) :
    ∀ package ∈ object.key.deliveryPackage?, Trimmed package := by
  obtain ⟨_, objectType, given, name, rfl⟩ := made
  intro package delivered
  rw [Option.mem_def, ObjectKey.deliveryPackage?] at delivered
  split at delivered
  · exact Option.some.inj delivered ▸ Text.trimmed_canonical name
  · rw [ObjectKey.package?] at delivered
    split at delivered
    · cases delivered
    · obtain rfl := Option.some.inj delivered
      dsimp only [ObjectRef.new, ObjectKey.new]
      exact Text.trimmed_of_canonical
        (canonical_of_normalizePackage (normalizePackage_normalizePackage given))

end ObjectRef.IsMade

/-! ## Rows -/

/-- A row that has been made from an owner, a type, a package and a name. -/
def CatalogRow.IsMade (row : CatalogRow) : Prop :=
  ∃ owner objectType package name, row = CatalogRow.new owner objectType package name

namespace CatalogRow.IsMade

variable {row : CatalogRow}

theorem canonical_owner (made : row.IsMade) : Text.canonical row.owner = row.owner := by
  obtain ⟨owner, _, _, _, rfl⟩ := made
  exact Text.canonical_canonical owner

theorem canonical_package (made : row.IsMade) :
    Text.canonical row.key.package = row.key.package := by
  obtain ⟨_, _, package, _, rfl⟩ := made
  dsimp only [CatalogRow.new, ObjectKey.new]
  exact canonical_of_normalizePackage (normalizePackage_normalizePackage package)

theorem canonical_name (made : row.IsMade) : Text.canonical row.key.name = row.key.name := by
  obtain ⟨_, _, _, name, rfl⟩ := made
  exact Text.canonical_canonical name

theorem key (made : row.IsMade) : row.key.IsMade := by
  obtain ⟨_, objectType, package, name, rfl⟩ := made
  exact ObjectKey.isMade_new objectType package name

/-- The object of a made row is made. -/
theorem toRef (made : row.IsMade) : row.toRef.IsMade := by
  obtain ⟨owner, objectType, package, name, rfl⟩ := made
  exact ⟨some (Text.canonical owner), objectType, package, name, rfl⟩

end CatalogRow.IsMade

/-- A catalog that answers every question with made rows. -/
structure Catalog.AnswersMade (catalog : Catalog) : Prop where
  findInPackage : ∀ owner package names rows,
    catalog.findInPackage owner package names = .ok rows → ∀ row ∈ rows, row.IsMade
  findByOwner : ∀ owner names rows,
    catalog.findByOwner owner names = .ok rows → ∀ row ∈ rows, row.IsMade

/-- What is found for a reference is one of the answers. -/
theorem Catalog.AnswersMade.resolve {catalog : Catalog} (answers : catalog.AnswersMade)
    {reference : Reference} {owner : Option String} {row : CatalogRow}
    (found : reference.resolve owner catalog = .ok (some row)) : row.IsMade := by
  rcases Reference.mem_of_resolve_eq_some found with
    ⟨_, _, rows, _, answered, listed⟩ | ⟨_, rows, answered, listed⟩
  · exact answers.findInPackage _ _ _ rows answered row listed
  · exact answers.findByOwner _ _ rows answered row listed

/-- A snapshot of made rows answers with made rows. -/
theorem Snapshot.answersMade {snapshot : Snapshot} (stored : ∀ row ∈ snapshot.rows, row.IsMade) :
    snapshot.catalog.AnswersMade where
  findInPackage _ _ _ _ answered row listed := by
    obtain rfl := Except.ok.inj answered
    exact stored row (Snapshot.mem_findInPackage.mp listed).1
  findByOwner _ _ _ answered row listed := by
    obtain rfl := Except.ok.inj answered
    exact stored row (Snapshot.mem_findByOwner.mp listed).1

/-! ## Alike catalogs -/

/-- Two answers with the same rows, in whatever order and however often. -/
def SameRows (first second : Except CatalogError (List CatalogRow)) : Prop :=
  ∃ rows others, first = .ok rows ∧ second = .ok others ∧ ∀ row, row ∈ rows ↔ row ∈ others

/-- Two catalogs that know the same owners and answer every question about trimmed names
with the same rows. -/
structure Catalog.Alike (first second : Catalog) : Prop where
  owners : ∃ owners, first.owners = .ok owners ∧ second.owners = .ok owners
  findInPackage : ∀ owner package names, (∀ name ∈ owner, Trimmed name) → Trimmed package →
    (∀ name ∈ names, Trimmed name) →
    SameRows (first.findInPackage owner package names) (second.findInPackage owner package names)
  findByOwner : ∀ owner names, (∀ name ∈ owner, Trimmed name) → (∀ name ∈ names, Trimmed name) →
    SameRows (first.findByOwner owner names) (second.findByOwner owner names)
  existingPackages : ∀ names, (∀ name ∈ names, Trimmed name) →
    ∃ confirmed, first.existingPackages names = .ok confirmed ∧
      second.existingPackages names = .ok confirmed

/-- A reference whose names are all trimmed. -/
structure Reference.IsTrimmed (reference : Reference) : Prop where
  owner : ∀ owner ∈ reference.owner, Trimmed owner
  package : ∀ package ∈ reference.package, Trimmed package
  name : Trimmed reference.name
  scope : ∀ scope ∈ reference.scope, (∀ owner ∈ scope.owner, Trimmed owner) ∧ Trimmed scope.package

namespace Catalog.Alike

variable {first second : Catalog} {reference : Reference} {owner : Option String}

/-! ## Resolution -/

theorem pick_congr {rows others : List CatalogRow} (same : ∀ row, row ∈ rows ↔ row ∈ others) :
    reference.pick rows = reference.pick others :=
  CatalogRow.least?_congr fun row => by rw [List.mem_filter, List.mem_filter, same row]

theorem firstAnswer_congr
    {questions others : List (Unit → Except CatalogError (List CatalogRow))}
    (same : List.Forall₂ (fun question other => SameRows (question ()) (other ()))
      questions others) :
    reference.firstAnswer questions = reference.firstAnswer others := by
  induction same with
  | nil => rfl
  | cons here _ ih =>
      obtain ⟨rows, others, answered, alsoAnswered, same⟩ := here
      rw [Reference.firstAnswer, Reference.firstAnswer, answered, alsoAnswered]
      dsimp only
      rw [pick_congr same, ih]

/-- **Alike catalogs resolve a trimmed reference alike.** -/
theorem resolve (alike : first.Alike second) (trimmed : reference.IsTrimmed)
    (referrer : ∀ name ∈ owner, Trimmed name) :
    reference.resolve owner first = reference.resolve owner second := by
  have names : ∀ name ∈ [reference.name], Trimmed name :=
    fun name member => List.mem_singleton.mp member ▸ trimmed.name
  refine firstAnswer_congr (Reference.forall₂_questions ?_ ?_ ?_
    (alike.findByOwner _ _ nofun names))
  · exact fun package isPackage =>
      alike.findInPackage _ _ _ trimmed.owner (trimmed.package package isPackage) names
  · intro scope isScope
    obtain ⟨scopeOwner, scopePackage⟩ := trimmed.scope scope isScope
    exact alike.findInPackage _ _ _ scopeOwner scopePackage names
  · intro asked isAsked
    refine alike.findByOwner _ _ (fun name same => ?_) names
    obtain rfl := Option.some.inj same
    rcases Option.or_eq_some_iff.mp isAsked with own | ⟨_, fromReferrer⟩
    · exact trimmed.owner _ own
    · exact referrer _ fromReferrer

/-! ## Extraction -/

/-- **Alike catalogs lead to the same references of a text.**  They are asked only about
segments of names in the text. -/
theorem extractLines (alike : first.Alike second) (extractor : Extractor) (lines : List String) :
    extractor.extractLines first lines = extractor.extractLines second lines := by
  rw [Extractor.extractLines, Extractor.extractLines, Extractor.extract, Extractor.extract]
  split
  · rfl
  · obtain ⟨confirmed, answered, alsoAnswered⟩ := alike.existingPackages
      (extractor.scan (Source.cleanChars lines)).packageCandidates.toList
      fun candidate member => Text.trimmed_of_isPlain (Extractor.isPlain_packageCandidates member)
    rw [answered, alsoAnswered]

end Catalog.Alike

/-! ## References of source text -/

namespace Reference

theorem isTrimmed_scope {kind : ReferenceKind} {raw : String} {owners : List String}
    {referrer : ObjectRef} (made : referrer.IsMade) :
    ∀ scope ∈ (qualify kind raw owners referrer).scope,
      (∀ owner ∈ scope.owner, Trimmed owner) ∧ Trimmed scope.package := by
  intro scope isScope
  rw [qualify, Option.mem_def] at isScope
  dsimp only at isScope
  split at isScope
  · obtain ⟨package, delivered, rfl⟩ := Option.map_eq_some_iff.mp isScope
    exact ⟨made.trimmed_owner, made.trimmed_deliveryPackage package delivered⟩
  · cases isScope

/-- **References made from source text are trimmed**, when the rows of the catalog and
the referrer are in stored form. -/
theorem isTrimmed_qualify {snapshot : Snapshot} (stored : ∀ row ∈ snapshot.rows, row.IsMade)
    {extractor : Extractor} {lines : List String} {references : References}
    (extracted : extractor.extractLines snapshot.catalog lines = .ok references)
    {mention : ReferenceKind × String} (member : mention ∈ references.toList)
    (owners : List String) {referrer : ObjectRef} (made : referrer.IsMade) :
    (qualify mention.1 mention.2 owners referrer).IsTrimmed := by
  rcases Extractor.mem_extractLines extracted member with
    ⟨_, plain⟩ | ⟨_, candidates, confirmed, answered, isConfirmed, noDots⟩
  · obtain ⟨name, package⟩ := @isPlain_parts mention.1 mention.2 owners plain
    refine ⟨fun owner isOwner => ?_, fun other isPackage => ?_, ?_, isTrimmed_scope made⟩
    · exact Text.trimmed_of_isPlain (isPlain_owner_parts plain isOwner)
    · exact Text.trimmed_of_isPlain (package other isPackage).2
    · exact Text.trimmed_of_isPlain name
  · obtain ⟨candidate, asked, alike⟩ := snapshot.lawful.packages _ _ answered _ isConfirmed
    have noDot : '.' ∉ mention.2.toList := fun dot => noDots candidate asked
      (Text.dot_mem_canonical.mp (alike ▸ Text.dot_mem_canonical.mpr dot))
    have bare := @parts_of_no_dot mention.1 mention.2 owners noDot
    have trimmed : Trimmed mention.2 := by
      obtain rfl := Except.ok.inj answered
      obtain ⟨row, found, isName⟩ := List.mem_map.mp (OrderedSet.mem_ofList.mp isConfirmed)
      exact isName ▸ Text.trimmed_of_canonical
        (stored row (List.mem_filter.mp found).1).canonical_name
    refine ⟨fun owner isOwner => ?_, fun package isPackage => ?_, ?_, isTrimmed_scope made⟩
    · rw [qualify, bare] at isOwner
      cases isOwner
    · rw [qualify, bare] at isPackage
      cases isPackage
    · rw [qualify, bare]
      exact trimmed

end Reference

end SchemaPlan
