import SchemaPlan.Config.Basic
import SchemaPlan.Proofs.Reference.Confirmation

/-!
# Names that extraction leaves out

A configuration says which names are never references: a name counts only if its last
segment is not excluded and none of its segments is one of the vendor's (`Admits`).  Every
name reaches the references through this test, whichever clause or declaration it stands
in, and a package is confirmed only if it passed the test as a candidate.  The names of
nested routines are taken off the functions and procedures at the end, so that no clause
can bring them back.

What the catalog confirms (`Catalog.confirmed`) decides the packages and takes tables off;
all other references are those of the text.
-/

set_option autoImplicit false

namespace SchemaPlan

/-! ## Configurations -/

namespace ClosureConfig

/-- The name is never a reference: it is built in, or configured as such. -/
def Excludes (config : ClosureConfig) (name : String) : Prop :=
  name ∈ builtinExclusions ∨ name ∈ config.extraExclusions.map Text.canonical

/-- The segment belongs to the vendor: it is a name of the vendor, or begins as the names
of the vendor do. -/
def IsVendor (config : ClosureConfig) (segment : String) : Prop :=
  segment ∈ vendorNames ∨
    ∃ opening ∈ SchemaPlan.vendorOpenings ++ config.vendorOpenings.map Text.canonical,
      opening.toList <+: segment.toList

/-- The name may be a reference. -/
structure Admits (config : ClosureConfig) (name : String) : Prop where
  included : ¬ config.Excludes (Extractor.bareName name)
  foreign : ∀ segment ∈ Text.splitOn '.' name, ¬ config.IsVendor segment

variable {config : ClosureConfig}

theorem isExcluded_iff {name : List Char} :
    config.extractor.isExcluded name = true ↔ config.Excludes (String.ofList name) := by
  rw [Extractor.isExcluded, List.contains_iff_mem, extractor, Extractor.extended, List.mem_append]
  rfl

theorem isVendor_iff {segment : List Char} :
    config.extractor.isVendor segment = true ↔ config.IsVendor (String.ofList segment) := by
  simp only [Extractor.isVendor, Bool.or_eq_true, List.contains_iff_mem, List.any_eq_true,
    List.isPrefixOf_iff_prefix, IsVendor, String.toList_ofList]
  rfl

theorem accepts_iff {name : List Char} :
    config.extractor.accepts name = true ↔ config.Admits (String.ofList name) := by
  rw [Extractor.accepts, Bool.and_eq_true, Bool.not_eq_true', Bool.not_eq_true', ← Bool.not_eq_true,
    ← Bool.not_eq_true, isExcluded_iff, List.any_eq_true]
  simp only [isVendor_iff, not_exists, not_and]
  constructor
  · rintro ⟨included, foreign⟩
    refine ⟨by rwa [Extractor.bareName, String.toList_ofList], fun segment member => ?_⟩
    rw [Text.splitOn, String.toList_ofList] at member
    obtain ⟨piece, isPiece, rfl⟩ := List.mem_map.mp member
    exact foreign piece isPiece
  · rintro ⟨included, foreign⟩
    rw [Extractor.bareName, String.toList_ofList] at included
    refine ⟨included, fun piece isPiece => foreign _ ?_⟩
    rw [Text.splitOn, String.toList_ofList]
    exact List.mem_map_of_mem isPiece

/-- **References that keep to the configuration**: every name is one that may be a
reference, and no nested routine is among the functions and procedures as well. -/
structure Permits (config : ClosureConfig) (references : References) : Prop where
  admitted : ∀ kind, ∀ name ∈ references.namesOf kind, config.Admits name
  nested : ∀ name ∈ references.namesOf .localFunction,
    name ∉ references.namesOf .function ∧ name ∉ references.namesOf .procedure

end ClosureConfig

/-! ## Questions about packages -/

namespace Catalog

/-- The catalog confirms only names that it is asked about. -/
def ConfirmsOnly (catalog : Catalog) (candidates : OrderedSet String) : Prop :=
  ∀ confirmed, catalog.existingPackages candidates.toList = .ok confirmed →
    ∀ package ∈ confirmed, package ∈ candidates

/-- The packages that the catalog confirms; it is not asked about no names at all. -/
def confirmed (catalog : Catalog) (candidates : OrderedSet String) :
    Except CatalogError (OrderedSet String) :=
  if candidates.isEmpty then .ok ∅ else catalog.existingPackages candidates.toList

end Catalog

namespace Extractor

open References

/-! ## Nested routines -/

/-- Nested routines are taken off the functions and the procedures, and nothing else is. -/
theorem mem_toList_withoutNested_iff {nested : List String} {references : References}
    (ordered : references.Ordered) {mention : ReferenceKind × String} :
    mention ∈ (withoutNested nested references).toList ↔
      mention ∈ references.toList ∧
        ∀ name ∈ nested, mention ≠ (.function, name) ∧ mention ≠ (.procedure, name) := by
  induction nested generalizing references with
  | nil => simp [withoutNested]
  | cons first rest ih =>
      have step := @ih _ ((ordered.remove .function first).remove .procedure first)
      rw [(ordered.remove .function first).mem_toList_remove, ordered.mem_toList_remove,
        and_assoc, and_assoc] at step
      rw [List.forall_mem_cons, and_assoc]
      exact step

/-- A local function is mentioned where it is declared as a nested routine. -/
theorem mem_nestedNames {text name : List Char} (member : (.localFunction, name) ∈ mentions text) :
    String.ofList name ∈ nestedNames text := by
  simp only [mentions, List.mem_append, List.mem_map, Prod.mk.injEq, reduceCtorEq, false_and,
    and_false, exists_false, false_or] at member
  obtain ⟨declaration, declares, same⟩ := member
  rw [declared] at same
  split at same
  · have kinds := (Prod.mk.inj same).1
    split at kinds <;> cases kinds
  · next nested =>
    obtain ⟨_, rfl⟩ := Prod.mk.inj same
    exact List.mem_map_of_mem (List.mem_filter.mpr ⟨declares, by simpa using nested⟩)

/-! ## What a text refers to -/

variable {config : ClosureConfig} {text : List Char}

theorem mem_toList_scan_iff {extractor : Extractor} {mention : ReferenceKind × String} :
    mention ∈ (extractor.scan text).references.toList ↔
      (∃ raw ∈ mentions (text.map Char.toUpper), extractor.accepts raw.2 = true ∧
        (raw.1, String.ofList raw.2) = mention) ∧
      ∀ name ∈ nestedNames (text.map Char.toUpper),
        mention ≠ (.function, name) ∧ mention ≠ (.procedure, name) := by
  rw [scan, scanCapitals, mem_toList_withoutNested_iff (ordered_ofList _), mem_toList_ofList]
  simp only [List.mem_map, List.mem_filter, and_assoc]

/-- **What is found in a text keeps to the configuration.** -/
theorem permits_scan (config : ClosureConfig) (text : List Char) :
    config.Permits (config.extractor.scan text).references where
  admitted kind name member := by
    rw [(ordered_scan _ text).mem_namesOf, mem_toList_scan_iff] at member
    obtain ⟨⟨raw, _, accepted, same⟩, _⟩ := member
    obtain ⟨_, rfl⟩ := Prod.mk.inj same
    exact ClosureConfig.accepts_iff.mp accepted
  nested name member := by
    simp only [(ordered_scan _ text).mem_namesOf, mem_toList_scan_iff] at member ⊢
    obtain ⟨⟨⟨kind, raw⟩, mentioned, _, same⟩, _⟩ := member
    obtain ⟨rfl, rfl⟩ := Prod.mk.inj same
    have declared := mem_nestedNames mentioned
    exact ⟨fun called => (called.2 _ declared).1 rfl, fun called => (called.2 _ declared).2 rfl⟩

/-- A candidate for a package is a name that may be a reference. -/
theorem admits_packageCandidates {candidate : String}
    (member : candidate ∈ (config.extractor.scan text).packageCandidates) :
    config.Admits candidate := by
  have noDot := not_mem_packageCandidates member
  obtain ⟨segment, isCandidate, rfl⟩ := List.mem_map.mp (OrderedSet.mem_ofList.mp member)
  have passed := (List.mem_filter.mp isCandidate).2
  simp only [Bool.and_eq_true, Bool.not_eq_true', ← Bool.not_eq_true, ClosureConfig.isExcluded_iff,
    ClosureConfig.isVendor_iff] at passed
  refine ⟨by rw [bareName_of_no_dot noDot]; exact passed.1, fun other isSegment => ?_⟩
  rw [Text.splitOn, Text.splitWhere_eq_singleton, List.map_singleton, List.mem_singleton,
    String.ofList_toList] at isSegment
  · exact isSegment ▸ passed.2
  · exact fun character inside => beq_eq_false_iff_ne.mpr fun same => noDot (same ▸ inside)

/-! ## What the catalog decides -/

/-- The references of a text, told by what the catalog confirms. -/
theorem extract_eq (extractor : Extractor) (catalog : Catalog) (text : List Char) :
    extractor.extract catalog text =
      (catalog.confirmed (extractor.scan text).packageCandidates).map fun confirmed =>
        confirmed.toList.foldl confirmPackage (extractor.scan text).references := by
  rw [extract, Catalog.confirmed]
  split
  · rfl
  · cases catalog.existingPackages (extractor.scan text).packageCandidates.toList <;> rfl

theorem mem_confirmed {catalog : Catalog} {candidates confirmed : OrderedSet String}
    (faithful : catalog.ConfirmsOnly candidates)
    (answered : catalog.confirmed candidates = .ok confirmed) {package : String}
    (member : package ∈ confirmed) : package ∈ candidates := by
  rw [Catalog.confirmed] at answered
  split at answered
  · rw [← Except.ok.inj answered] at member
    exact absurd member OrderedSet.not_mem_empty
  · exact faithful confirmed answered package member

/-- Where packages have been confirmed, a name is one of them, or it is found in the text
and was not taken off the tables. -/
theorem mem_namesOf_confirmPackages {extractor : Extractor} {confirmed : OrderedSet String}
    {kind : ReferenceKind} {name : String} :
    name ∈ (confirmed.toList.foldl confirmPackage (extractor.scan text).references).namesOf kind ↔
      (kind = .package ∧ name ∈ confirmed) ∨
        (name ∈ (extractor.scan text).references.namesOf kind ∧
          ¬ (kind = .table ∧ name ∈ confirmed)) := by
  have scanned := ordered_scan extractor text
  rw [(ordered_confirmPackages scanned _).mem_namesOf, mem_toList_confirmPackages_iff scanned,
    scanned.mem_namesOf]
  rfl

/-- The findings in a text with the packages confirmed: the packages are the confirmed
candidates, which are no tables, and all else is as it was found. -/
structure Confirms (findings : Findings) (confirmed : OrderedSet String)
    (references : References) : Prop where
  packages : ∀ name, name ∈ references.namesOf .package ↔
    name ∈ findings.packageCandidates ∧ name ∈ confirmed
  tables : ∀ name, name ∈ references.namesOf .table ↔
    name ∈ findings.references.namesOf .table ∧ name ∉ confirmed
  others : ∀ kind, kind ≠ .package → kind ≠ .table →
    references.namesOf kind = findings.references.namesOf kind

theorem confirms_confirmPackages {extractor : Extractor} {confirmed : OrderedSet String}
    (asked : ∀ package ∈ confirmed, package ∈ (extractor.scan text).packageCandidates) :
    Confirms (extractor.scan text) confirmed
      (confirmed.toList.foldl confirmPackage (extractor.scan text).references) where
  packages name := by
    have notFound : name ∉ (extractor.scan text).references.namesOf .package := by
      rw [(ordered_scan _ text).mem_namesOf]
      exact fun member => (isPlain_scan member).1 rfl
    rw [mem_namesOf_confirmPackages, or_iff_left fun here => notFound here.1, and_iff_right rfl]
    exact ⟨fun isConfirmed => ⟨asked name isConfirmed, isConfirmed⟩, And.right⟩
  tables name := by simp [mem_namesOf_confirmPackages]
  others kind notPackage notTable := by
    refine OrderedSet.ext fun name => ?_
    simp [mem_namesOf_confirmPackages, notPackage, notTable]

theorem permits_of_confirms {confirmed : OrderedSet String} {references : References}
    (confirms : Confirms (config.extractor.scan text) confirmed references) :
    config.Permits references where
  admitted kind name member := by
    by_cases isPackage : kind = .package
    · subst isPackage
      exact admits_packageCandidates ((confirms.packages name).mp member).1
    by_cases isTable : kind = .table
    · subst isTable
      exact (permits_scan config text).admitted _ name ((confirms.tables name).mp member).1
    · rw [confirms.others kind isPackage isTable] at member
      exact (permits_scan config text).admitted kind name member
  nested name member := by
    rw [confirms.others _ (by decide) (by decide)] at member
    rw [confirms.others _ (by decide) (by decide), confirms.others _ (by decide) (by decide)]
    exact (permits_scan config text).nested name member

/-- **Extraction keeps to the configuration.**  Neither what is found in a text nor what is
extracted from it holds a name that the configuration leaves out, or a nested routine as a
function or a procedure.  Extraction fails as the catalog does; otherwise the packages
are the candidates that the catalog confirms, the tables are those of the text without
them, and nothing else changes. -/
theorem extract_permits (config : ClosureConfig) (catalog : Catalog) (text : List Char)
    (faithful : catalog.ConfirmsOnly (config.extractor.scan text).packageCandidates) :
    config.Permits (config.extractor.scan text).references ∧
    (∀ error, config.extractor.extract catalog text = .error error ↔
      catalog.confirmed (config.extractor.scan text).packageCandidates = .error error) ∧
    ∀ confirmed, catalog.confirmed (config.extractor.scan text).packageCandidates = .ok confirmed →
      ∃ references, config.extractor.extract catalog text = .ok references ∧
        config.Permits references ∧
        Confirms (config.extractor.scan text) confirmed references := by
  refine ⟨permits_scan config text, fun error => ?_, fun confirmed answered => ?_⟩
  · rw [extract_eq]
    cases catalog.confirmed (config.extractor.scan text).packageCandidates <;> simp [Except.map]
  · have confirms : Confirms (config.extractor.scan text) confirmed _ :=
      confirms_confirmPackages fun package => mem_confirmed faithful answered
    exact ⟨_, by rw [extract_eq, answered]; rfl, permits_of_confirms confirms, confirms⟩

/-- A configuration that leaves out one more name and one more vendor. -/
def strictConfig : ClosureConfig :=
  { extraExclusions := [" xx_old "], vendorOpenings := ["acme"] }

/-- A nested function and a call of it, an excluded table, a table of the vendor, and an
anchor to a variable of a package. -/
def mixedText : List Char :=
  "is function f; x := f(1); delete xx_old; delete acme.t; v xx_audit_pkg.g%type;".toList

theorem packageCandidates_mixedText :
    (strictConfig.extractor.scan mixedText).packageCandidates =
      OrderedSet.ofList ["XX_AUDIT_PKG"] := by
  with_unfolding_all rfl

/-- The variable's package is confirmed and no table, although the text anchors to it. -/
theorem extract_permits_mixedText :
    packageSnapshot.catalog.ConfirmsOnly
      (strictConfig.extractor.scan mixedText).packageCandidates ∧
    ∃ references,
      strictConfig.extractor.extract packageSnapshot.catalog mixedText = .ok references ∧
      strictConfig.Permits references ∧
      (∀ name, name ∈ references.namesOf .package ↔ name = "XX_AUDIT_PKG") ∧
      "XX_AUDIT_PKG" ∉ references.namesOf .table := by
  have answer : packageSnapshot.catalog.existingPackages ["XX_AUDIT_PKG"] =
      .ok (OrderedSet.ofList ["XX_AUDIT_PKG"]) := by
    with_unfolding_all rfl
  have faithful : packageSnapshot.catalog.ConfirmsOnly
      (strictConfig.extractor.scan mixedText).packageCandidates := by
    rw [packageCandidates_mixedText]
    intro confirmed answered package member
    rwa [← Except.ok.inj (answer.symm.trans answered)] at member
  have confirmed : packageSnapshot.catalog.confirmed
      (strictConfig.extractor.scan mixedText).packageCandidates =
        .ok (OrderedSet.ofList ["XX_AUDIT_PKG"]) := by
    rw [packageCandidates_mixedText]
    exact answer
  obtain ⟨_, _, decided⟩ := extract_permits strictConfig packageSnapshot.catalog mixedText faithful
  obtain ⟨references, extracted, permits, confirms⟩ := decided _ confirmed
  have listed : ∀ name, name ∈ OrderedSet.ofList ["XX_AUDIT_PKG"] ↔ name = "XX_AUDIT_PKG" :=
    fun name => OrderedSet.mem_ofList.trans List.mem_singleton
  refine ⟨faithful, references, extracted, permits, fun name => ?_, fun isTable => ?_⟩
  · rw [confirms.packages, packageCandidates_mixedText, and_self, listed]
  · exact ((confirms.tables _).mp isTable).2 ((listed _).mpr rfl)

end Extractor

end SchemaPlan
