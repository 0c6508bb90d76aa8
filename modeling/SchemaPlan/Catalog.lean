import SchemaPlan.Collection.OrderedSet
import SchemaPlan.Error
import SchemaPlan.Object.Basic

/-!
# Catalogs

A catalog tells which objects exist and who owns them.  Every question takes a list of names, so
that a catalog behind a connection can answer it in one go.  A snapshot is a catalog that is held
as a value.
-/

set_option autoImplicit false

namespace SchemaPlan

/-- One row of a catalog: an object with its owner. -/
structure CatalogRow where
  owner : String
  key : ObjectKey
deriving DecidableEq, Repr

namespace CatalogRow

/-- A row, with all names in stored form. -/
def new (owner : String) (objectType : ObjectType) (package name : String) : CatalogRow :=
  ⟨Text.canonical owner, ObjectKey.new objectType package name⟩

/-- The row as a reference. -/
def toRef (row : CatalogRow) : ObjectRef := ObjectRef.new (some row.owner) row.key

instance : Ord CatalogRow := ⟨compareLex (compareOn owner) (compareOn key)⟩

instance : Std.TransOrd CatalogRow :=
  inferInstanceAs (Std.TransCmp (compareLex (compareOn owner) (compareOn key)))

instance : Std.LawfulEqOrd CatalogRow where
  eq_of_compare {left right} equal := by
    have ⟨owners, keys⟩ := compareLex_eq_eq.1 equal
    cases left
    cases right
    rw [CatalogRow.mk.injEq]
    exact ⟨Std.LawfulEqCmp.eq_of_compare owners, Std.LawfulEqCmp.eq_of_compare keys⟩

/-- The least of a list of rows. -/
def least? : List CatalogRow → Option CatalogRow
  | [] => none
  | row :: rest =>
    match least? rest with
    | none => some row
    | some other => if (compare row other).isLE then some row else some other

end CatalogRow

/-- The questions that a catalog answers. -/
structure Catalog where
  /-- The names of all owners. -/
  owners : Except CatalogError (List String)
  /-- The routines of a package with one of the names, of one owner if given. -/
  findInPackage : Option String → String → List String → Except CatalogError (List CatalogRow)
  /-- The objects of no package with one of the names, of one owner if given. -/
  findByOwner : Option String → List String → Except CatalogError (List CatalogRow)
  /-- Those of the names that are names of packages. -/
  existingPackages : List String → Except CatalogError (OrderedSet String)

/-- A catalog held as a value.  An owner may be known without owning anything. -/
structure Snapshot where
  rows : OrderedSet CatalogRow
  owners : OrderedSet String
deriving DecidableEq

namespace Snapshot

/-- The catalog of nothing. -/
def empty : Snapshot := ⟨∅, ∅⟩

/-- The snapshot with one more row. -/
def insert (snapshot : Snapshot) (row : CatalogRow) : Snapshot :=
  ⟨snapshot.rows.insert row, snapshot.owners.insert row.owner⟩

/-- The snapshot with one more owner. -/
def addOwner (snapshot : Snapshot) (owner : String) : Snapshot :=
  { snapshot with owners := snapshot.owners.insert (Text.canonical owner) }

/-- The snapshot of a list of rows. -/
def ofRows (rows : List CatalogRow) : Snapshot := rows.foldl insert empty

/-- The row belongs to the owner, if one is asked for. -/
def ownerMatches (owner : Option String) (row : CatalogRow) : Bool :=
  owner.all fun wanted => Text.sameIgnoringCase row.owner wanted

/-- The row has one of the names. -/
def nameWanted (names : List String) (row : CatalogRow) : Bool :=
  names.any fun name => Text.sameIgnoringCase row.key.name name

/-- The routines of a package with one of the names. -/
def findInPackage (snapshot : Snapshot) (owner : Option String) (package : String)
    (names : List String) : List CatalogRow :=
  snapshot.rows.toList.filter fun row =>
    Text.sameIgnoringCase row.key.package package && row.key.objectType.isRoutine &&
      ownerMatches owner row && nameWanted names row

/-- The objects of no package with one of the names. -/
def findByOwner (snapshot : Snapshot) (owner : Option String) (names : List String) :
    List CatalogRow :=
  snapshot.rows.toList.filter fun row =>
    row.key.isRootLevel && ownerMatches owner row && nameWanted names row

/-- The names of the packages that are among the candidates. -/
def existingPackages (snapshot : Snapshot) (candidates : List String) : OrderedSet String :=
  OrderedSet.ofList ((snapshot.rows.toList.filter fun row =>
    decide (row.key.objectType = .package) && row.key.isRootLevel &&
      nameWanted candidates row).map (·.key.name))

/-- A snapshot as a catalog.  It always answers. -/
def catalog (snapshot : Snapshot) : Catalog where
  owners := .ok snapshot.owners.toList
  findInPackage owner package names := .ok (snapshot.findInPackage owner package names)
  findByOwner owner names := .ok (snapshot.findByOwner owner names)
  existingPackages candidates := .ok (snapshot.existingPackages candidates)

end Snapshot

end SchemaPlan
