import SchemaPlan.Catalog
import SchemaPlan.Proofs.Collection
import SchemaPlan.Proofs.Object

/-!
# Catalogs that answer as asked

Catalogs need not be snapshots, but every catalog is to keep to its questions
(`Lawful`).  Of several rows the least one is taken, which is told by what the rows
are (`CatalogRow.least?_eq_some_iff`).
-/

set_option autoImplicit false

namespace SchemaPlan

/-! ## Snapshots -/

namespace Snapshot

variable {snapshot : Snapshot} {owner : Option String} {names : List String} {row : CatalogRow}

theorem ownerMatches_iff : ownerMatches owner row = true ↔
    ∀ name, owner = some name → Text.sameIgnoringCase row.owner name = true := by
  cases owner <;> simp [ownerMatches]

/-- A row has its own name. -/
theorem nameWanted_self (row : CatalogRow) : nameWanted [row.key.name] row = true := by
  simp [nameWanted, Text.sameIgnoringCase]

theorem mem_findInPackage {package : String} :
    row ∈ snapshot.findInPackage owner package names ↔
      row ∈ snapshot.rows ∧ Text.sameIgnoringCase row.key.package package = true ∧
        row.key.objectType.isRoutine = true ∧ ownerMatches owner row = true ∧
          nameWanted names row = true := by
  rw [findInPackage, List.mem_filter]
  simp only [Bool.and_eq_true, and_assoc]
  rfl

theorem mem_findByOwner : row ∈ snapshot.findByOwner owner names ↔
    row ∈ snapshot.rows ∧ row.key.isRootLevel = true ∧ ownerMatches owner row = true ∧
      nameWanted names row = true := by
  rw [findByOwner, List.mem_filter]
  simp only [Bool.and_eq_true, and_assoc]
  rfl

theorem mem_rows_foldl_insert {rows : List CatalogRow} :
    row ∈ (rows.foldl insert snapshot).rows ↔ row ∈ snapshot.rows ∨ row ∈ rows := by
  induction rows generalizing snapshot with
  | nil => simp
  | cons first rest ih =>
      rw [List.foldl_cons, ih, insert, OrderedSet.mem_insert, List.mem_cons, or_assoc,
        or_left_comm]

/-- The rows of the snapshot of a list are those of the list. -/
theorem mem_rows_ofRows {rows : List CatalogRow} : row ∈ (ofRows rows).rows ↔ row ∈ rows := by
  simp [ofRows, mem_rows_foldl_insert, empty]

end Snapshot

/-! ## Lawful catalogs -/

/-- A catalog keeps to its questions: it confirms only packages that it was asked
about, it finds only routines in packages, and what it finds for one owner it
finds for any owner. -/
structure Catalog.Lawful (catalog : Catalog) : Prop where
  packages : ∀ names confirmed, catalog.existingPackages names = .ok confirmed →
    ∀ package ∈ confirmed, ∃ name ∈ names, Text.canonical package = Text.canonical name
  routines : ∀ owner package names rows, catalog.findInPackage owner package names = .ok rows →
    ∀ row ∈ rows, row.key.objectType.isRoutine = true
  owned : ∀ owner names rows others, catalog.findByOwner (some owner) names = .ok rows →
    catalog.findByOwner none names = .ok others → ∀ row ∈ rows, row ∈ others

/-- **Every snapshot keeps to the questions.** -/
theorem Snapshot.lawful (snapshot : Snapshot) : snapshot.catalog.Lawful where
  packages names confirmed answered package member := by
    obtain rfl := Except.ok.inj answered
    obtain ⟨row, found, rfl⟩ := List.mem_map.mp (OrderedSet.mem_ofList.mp member)
    have wanted := (List.mem_filter.mp found).2
    simp only [Bool.and_eq_true, Snapshot.nameWanted, List.any_eq_true] at wanted
    obtain ⟨name, asked, same⟩ := wanted.2
    exact ⟨name, asked, Text.canonical_eq_of_sameIgnoringCase same⟩
  routines owner package names rows answered row member := by
    obtain rfl := Except.ok.inj answered
    exact (Snapshot.mem_findInPackage.mp member).2.2.1
  owned owner names rows others answered alsoAnswered row member := by
    obtain rfl := Except.ok.inj answered
    obtain rfl := Except.ok.inj alsoAnswered
    obtain ⟨listed, wanted⟩ := List.mem_filter.mp member
    simp only [Bool.and_eq_true] at wanted
    refine List.mem_filter.mpr ⟨listed, ?_⟩
    simp [wanted.1.1, wanted.2, Snapshot.ownerMatches]

/-! ## The least row -/

namespace CatalogRow

theorem least?_mem {rows : List CatalogRow} {row : CatalogRow} (least : least? rows = some row) :
    row ∈ rows := by
  induction rows generalizing row with
  | nil => cases least
  | cons first rest ih =>
      rw [least?] at least
      split at least
      · exact Option.some.inj least ▸ List.mem_cons_self
      · next other found =>
        split at least
        · exact Option.some.inj least ▸ List.mem_cons_self
        · exact Option.some.inj least ▸ List.mem_cons_of_mem _ (ih found)

theorem least?_eq_none_iff {rows : List CatalogRow} : least? rows = none ↔ rows = [] := by
  cases rows with
  | nil => simp [least?]
  | cons first rest =>
      refine iff_of_false (fun nothing => ?_) (List.cons_ne_nil _ _)
      rw [least?] at nothing
      split at nothing
      · cases nothing
      · split at nothing <;> cases nothing

/-- The least row comes after no other one. -/
theorem least?_isLE {rows : List CatalogRow} {row : CatalogRow} (least : least? rows = some row) :
    ∀ other ∈ rows, (compare row other).isLE = true := by
  induction rows generalizing row with
  | nil => cases least
  | cons first rest ih =>
      have self : ∀ row : CatalogRow, (compare row row).isLE = true := fun row => by
        rw [Std.compare_self]
        rfl
      rw [least?] at least
      split at least
      · next nothing =>
        obtain rfl := Option.some.inj least
        obtain rfl := least?_eq_none_iff.mp nothing
        exact fun other member => List.mem_singleton.mp member ▸ self first
      · next other found =>
        split at least
        · next before =>
          obtain rfl := Option.some.inj least
          refine List.forall_mem_cons.mpr ⟨self first, fun later member => ?_⟩
          exact Std.TransCmp.isLE_trans before (ih found later member)
        · next after =>
          obtain rfl := Option.some.inj least
          refine List.forall_mem_cons.mpr ⟨?_, ih found⟩
          rw [Std.OrientedOrd.eq_swap]
          cases order : compare first other <;> simp_all

/-- The least row is the one that comes after no other one. -/
theorem least?_eq_some_iff {rows : List CatalogRow} {row : CatalogRow} :
    least? rows = some row ↔ row ∈ rows ∧ ∀ other ∈ rows, (compare row other).isLE = true := by
  refine ⟨fun least => ⟨least?_mem least, least?_isLE least⟩, fun ⟨listed, below⟩ => ?_⟩
  cases least : least? rows with
  | none => exact absurd (least?_eq_none_iff.mp least ▸ listed) List.not_mem_nil
  | some other =>
      have equal := Std.OrientedCmp.isLE_antisymm (least?_isLE least row listed)
        (below other (least?_mem least))
      exact congrArg some (Std.LawfulEqOrd.eq_of_compare equal)

/-- **The least row is told by what the rows are**, in whatever order and however
often they are listed. -/
theorem least?_congr {rows others : List CatalogRow} (same : ∀ row, row ∈ rows ↔ row ∈ others) :
    least? rows = least? others := by
  refine Option.ext fun row => ?_
  simp only [least?_eq_some_iff, same]

end CatalogRow

end SchemaPlan
