import SchemaPlan.Catalog
import SchemaPlan.Reference.Basic

/-!
# Resolution of references

A reference is looked up in up to four places, and the first place with an acceptable row decides:
its explicit package, the package it is scoped to, the root level of its owner or of the
referrer's owner, and the root level of any owner.  Of several rows in one place the least is
taken.
-/

set_option autoImplicit false

namespace SchemaPlan.Reference

/-- A row that satisfies the reference. -/
def isSatisfiedBy (reference : Reference) (row : CatalogRow) : Bool :=
  row.key.name == reference.name && reference.kind.accepts row.key.objectType

/-- The least row that satisfies the reference. -/
def pick (reference : Reference) (rows : List CatalogRow) : Option CatalogRow :=
  CatalogRow.least? (rows.filter reference.isSatisfiedBy)

/-- The questions to the catalog, in the order in which they are asked. -/
def questions (reference : Reference) (referrerOwner : Option String) (catalog : Catalog) :
    List (Unit → Except CatalogError (List CatalogRow)) :=
  let names := [reference.name]
  let packaged := reference.package.toList.map fun package _ =>
    catalog.findInPackage reference.owner package names
  let inScope := reference.scope.toList.map fun scope _ =>
    catalog.findInPackage scope.owner scope.package names
  let owned := (reference.owner.or referrerOwner).toList.map fun owner _ =>
    catalog.findByOwner (some owner) names
  packaged ++ inScope ++ owned ++ [fun _ => catalog.findByOwner none names]

/-- Asks questions until one is answered with a row that satisfies the reference. -/
def firstAnswer (reference : Reference) :
    List (Unit → Except CatalogError (List CatalogRow)) → Except CatalogError (Option CatalogRow)
  | [] => .ok none
  | ask :: rest =>
    match ask () with
    | .error failure => .error failure
    | .ok rows =>
      match reference.pick rows with
      | some row => .ok (some row)
      | none => firstAnswer reference rest

/-- The row that a reference means, as seen from a referrer of this owner. -/
def resolve (reference : Reference) (referrerOwner : Option String) (catalog : Catalog) :
    Except CatalogError (Option CatalogRow) :=
  reference.firstAnswer (reference.questions referrerOwner catalog)

end SchemaPlan.Reference
