import SchemaPlan.Proofs.Reference.Qualification

/-!
# Tables and confirmed packages

A package that the catalog confirms is taken off the tables under its bare name
(`confirmPackage`), since an anchor to a variable of the package looks like an
anchor to a column of a table.  With an owner before the package the anchor has
one segment more, and what it leaves among the tables is a dotted name, which is
not taken off.

What is removed from a kind is gone for good, since groups of names stand in order.  The
tables of a result are then the tables of the text that are no confirmed packages, name
by name (`tables_of_extract`).
-/

set_option autoImplicit false

namespace SchemaPlan

namespace Extractor

open References

/-! ## Confirmation -/

theorem ordered_scan (extractor : Extractor) (text : List Char) :
    (extractor.scan text).references.Ordered := by
  have removal : ∀ (nested : List String) (references : References), references.Ordered →
      (withoutNested nested references).Ordered := by
    intro nested
    induction nested with
    | nil => exact fun _ ordered => ordered
    | cons first rest ih =>
        exact fun references ordered =>
          ih _ ((ordered.remove .function first).remove .procedure first)
  exact removal _ _ (ordered_ofList _)

theorem mem_toList_confirmPackage {references : References} (ordered : references.Ordered)
    {package : String} {mention : ReferenceKind × String} :
    mention ∈ (confirmPackage references package).toList ↔
      mention = (.package, package) ∨ (mention ∈ references.toList ∧ mention ≠ (.table, package)) :=
  mem_toList_insert.trans (or_congr_right ordered.mem_toList_remove)

theorem ordered_confirmPackage {references : References} (ordered : references.Ordered)
    (package : String) : (confirmPackage references package).Ordered :=
  (ordered.remove .table package).insert .package package

theorem ordered_confirmPackages {references : References} (ordered : references.Ordered)
    (packages : List String) : (packages.foldl confirmPackage references).Ordered := by
  induction packages generalizing references with
  | nil => exact ordered
  | cons first rest ih => exact ih (ordered_confirmPackage ordered first)

/-- **Confirming packages takes them off the tables under their bare names** and adds
them as packages. -/
theorem mem_toList_confirmPackages_iff {references : References} (ordered : references.Ordered)
    {packages : List String} {kind : ReferenceKind} {name : String} :
    (kind, name) ∈ (packages.foldl confirmPackage references).toList ↔
      (kind = .package ∧ name ∈ packages) ∨
        ((kind, name) ∈ references.toList ∧ ¬ (kind = .table ∧ name ∈ packages)) := by
  induction packages generalizing references with
  | nil => simp
  | cons first rest ih =>
      rw [List.foldl_cons, ih (ordered_confirmPackage ordered first),
        mem_toList_confirmPackage ordered]
      have exclusive : kind = .package → kind ≠ .table := by
        rintro rfl
        decide
      simp only [Prod.mk.injEq, ne_eq, List.mem_cons]
      tauto

/-- What extraction makes of the findings in a text. -/
theorem exists_confirmed {extractor : Extractor} {catalog : Catalog} {text : List Char}
    {references : References} (extracted : extractor.extract catalog text = .ok references) :
    ∃ packages : List String,
      references = packages.foldl confirmPackage (extractor.scan text).references := by
  rw [extract] at extracted
  split at extracted
  · exact ⟨[], (Except.ok.inj extracted).symm⟩
  · obtain ⟨confirmed, _, rest⟩ := Outcome.bind_eq_ok.mp extracted
    exact ⟨confirmed.toList, (Outcome.pure_eq_ok.mp rest).symm⟩

/-- The last segment of a dotted name; a name without dots is its own last segment. -/
def bareName (name : String) : String := String.ofList (lastSegment name.toList)

theorem bareName_of_no_dot {name : String} (noDot : '.' ∉ name.toList) : bareName name = name := by
  have whole : segments name.toList = [name.toList] :=
    Text.splitWhere_eq_singleton fun character member =>
      beq_eq_false_iff_ne.mpr fun same => noDot (same ▸ member)
  rw [bareName, lastSegment, whole]
  exact String.ofList_toList

/-- **Tables and confirmed packages of a text.**  The tables are those that the text
names, without the packages under their bare names.  A table that ends in the name of
a package is left exactly where the text names it with more segments before. -/
theorem tables_of_extract {extractor : Extractor} {catalog : Catalog} {text : List Char}
    {references : References} (extracted : extractor.extract catalog text = .ok references)
    (name : String) :
    (name ∈ references.namesOf .table ↔
      name ∈ (extractor.scan text).references.namesOf .table ∧
        name ∉ references.namesOf .package) ∧
    (name ∈ references.namesOf .table ∧ bareName name ∈ references.namesOf .package ↔
      name ∈ (extractor.scan text).references.namesOf .table ∧ '.' ∈ name.toList ∧
        name ∉ references.namesOf .package ∧ bareName name ∈ references.namesOf .package) := by
  obtain ⟨packages, rfl⟩ := exists_confirmed extracted
  have scanned := ordered_scan extractor text
  have ordered := ordered_confirmPackages scanned packages
  have confirmed : ∀ other, other ∈ (packages.foldl confirmPackage
      (extractor.scan text).references).namesOf .package ↔ other ∈ packages := by
    intro other
    have noPackage : (.package, other) ∉ (extractor.scan text).references.toList := fun member =>
      (isPlain_scan member).1 rfl
    rw [ordered.mem_namesOf, mem_toList_confirmPackages_iff scanned]
    simp [noPackage]
  have tables : name ∈ (packages.foldl confirmPackage
      (extractor.scan text).references).namesOf .table ↔
      name ∈ (extractor.scan text).references.namesOf .table ∧ name ∉ packages := by
    rw [ordered.mem_namesOf, mem_toList_confirmPackages_iff scanned, scanned.mem_namesOf]
    simp
  rw [tables, confirmed, confirmed]
  refine ⟨Iff.rfl, fun left => ⟨left.1.1, ?_, left.1.2, left.2⟩,
    fun ⟨named, _, notPackage, ending⟩ => ⟨⟨named, notPackage⟩, ending⟩⟩
  by_contra noDot
  rw [bareName_of_no_dot noDot] at left
  exact left.1.2 left.2

/-- A package that exists. -/
def packageSnapshot : Snapshot := Snapshot.ofRows [.new "APPS" .package "" "XX_AUDIT_PKG"]

/-- A declaration with the type of a variable of the package, which is named with its owner. -/
def ownedAnchor : List Char := "V APPS.XX_AUDIT_PKG.G_LEVEL%TYPE;".toList

theorem extract_ownedAnchor :
    (Extractor.builtin.extract packageSnapshot.catalog ownedAnchor).toOption.map
      (fun references => decide ("APPS.XX_AUDIT_PKG" ∈ references.namesOf .table ∧
        bareName "APPS.XX_AUDIT_PKG" ∈ references.namesOf .package)) = some true := by
  with_unfolding_all rfl

theorem exists_ownedAnchor : ∃ references,
    Extractor.builtin.extract packageSnapshot.catalog ownedAnchor = .ok references ∧
      "APPS.XX_AUDIT_PKG" ∈ references.namesOf .table ∧
      bareName "APPS.XX_AUDIT_PKG" ∈ references.namesOf .package := by
  have read : (Extractor.builtin.extract packageSnapshot.catalog ownedAnchor, ()).1.toOption.map _ =
      some true := extract_ownedAnchor
  obtain ⟨references, _, done, left⟩ := Outcome.eq_ok_of_reading read
  exact ⟨references, (Prod.mk.inj done).1, of_decide_eq_true left⟩

/-- The table is left because the text names it with its owner. -/
theorem ownedAnchor_left : ∃ references,
    Extractor.builtin.extract packageSnapshot.catalog ownedAnchor = .ok references ∧
      "APPS.XX_AUDIT_PKG" ∈ references.namesOf .table ∧
      bareName "APPS.XX_AUDIT_PKG" ∈ references.namesOf .package ∧
      "APPS.XX_AUDIT_PKG" ∈ (Extractor.builtin.scan ownedAnchor).references.namesOf .table := by
  obtain ⟨references, extracted, isTable, ending⟩ := exists_ownedAnchor
  have named := ((tables_of_extract extracted "APPS.XX_AUDIT_PKG").2.mp ⟨isTable, ending⟩).1
  exact ⟨references, extracted, isTable, ending, named⟩

/-- **A table can end in the name of a confirmed package.** -/
theorem not_forall_bareName_not_mem : ¬ ∀ (extractor : Extractor) (catalog : Catalog)
    (text : List Char) (references : References),
    extractor.extract catalog text = .ok references →
      ∀ name ∈ references.namesOf .table, bareName name ∉ references.namesOf .package := by
  intro always
  obtain ⟨references, extracted, isTable, ending⟩ := exists_ownedAnchor
  exact always _ _ _ references extracted _ isTable ending

end Extractor

end SchemaPlan
