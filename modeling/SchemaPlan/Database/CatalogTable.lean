import SchemaPlan.Collection.Sorting
import SchemaPlan.Database.Related

/-!
# Stored catalogs

A catalog that is stored in a table answers with rows in ascending order of owner, name of the
type and name.  Names are compared exactly, once the names asked for have been brought into stored
form.
-/

set_option autoImplicit false

namespace SchemaPlan

namespace CatalogTable

/-- Whether an object has the owner, if one is asked for, the package and one of the names. -/
def isWanted (owner : Option String) (package : String) (names : List String)
    (stored : StoredObject) : Bool :=
  owner.all (fun owner => stored.owner == Text.canonical owner) &&
    stored.package == Text.canonical package &&
    (names.map Text.canonical).contains stored.name

/-- The objects of a package with one of the names that a database holds, of one owner if
given. -/
def objects (owner : Option String) (package : String) (names : List String)
    (database : Database) : Except StorageError (List CatalogRow) := do
  let rows ← database.objectRows
  (Sorting.sortOn id (rows.filter (isWanted owner package names))).mapM StoredObject.toRow

/-- The owners of the objects that a database holds, in ascending order. -/
def owners (database : Database) : Except StorageError (List String) := do
  let rows ← database.objectRows
  return (OrderedSet.ofList (rows.map (·.owner))).toList

/-- The number of objects that a database holds. -/
def size (database : Database) : Except StorageError Nat := do
  return (← database.objectRows).length

/-- The parts from which the objects with one of the names are read. -/
def partsToFind (names : List String) (database : Database) : List Part :=
  let isNamed (stored : StoredObject) := (names.map Text.canonical).contains stored.name
  Part.objectNameIndex ::
    (if (database.objects.getD []).any isNamed then [TableName.catalogObjects.rows] else [])

/-- Finds the objects of a package with one of the names, of one owner if given.  Without names
the database is not asked. -/
def findObjects (owner : Option String) (package : String) (names : List String) :
    Command (List CatalogRow) :=
  if names.isEmpty then return []
  else
    Command.either (Command.query (partsToFind names) (objects owner package names))
      (Related.findObjects owner package names)

/-- Lists the owners of the objects in ascending order. -/
def listOwners : Command (List String) :=
  Command.either (Command.query (fun _ => [Part.objectIndex]) owners) Related.listOwners

/-- Counts the objects. -/
def count : Command Nat :=
  Command.either (Command.query (fun _ => [Part.objectNameIndex]) size) Related.countObjects

/-- Finds the routines of a package with one of the names, of one owner if given. -/
def findInPackage (owner : Option String) (package : String) (names : List String) :
    Command (List CatalogRow) := do
  return (← findObjects owner package names).filter fun row => row.key.objectType.isRoutine

/-- Finds the objects outside of packages with one of the names, of one owner if given. -/
def findByOwner (owner : Option String) (names : List String) : Command (List CatalogRow) :=
  findObjects owner rootPackage names

/-- The names that are names of packages. -/
def existingPackages (names : List String) : Command (OrderedSet String) := do
  let rows ← findObjects none rootPackage names
  return OrderedSet.ofList ((rows.filter fun row =>
    decide (row.key.objectType = .package)).map (·.key.name))

/-- A catalog failure with the name of the question. -/
def failedQuery {Value : Type} (operation : String) (answer : Except StorageError Value) :
    Except CatalogError Value :=
  answer.mapError fun failure => .queryFailed operation failure.message

/-- The catalog that a connection gives access to. -/
def catalog (connection : Connection) : Catalog where
  owners := failedQuery "owners" (listOwners.answer connection)
  findInPackage owner package names :=
    failedQuery "find_in_package" ((findInPackage owner package names).answer connection)
  findByOwner owner names :=
    failedQuery "find_by_owner" ((findByOwner owner names).answer connection)
  existingPackages names :=
    failedQuery "existing_packages" ((existingPackages names).answer connection)

/-- The rows of the table, with the parts to which an insertion looks. -/
def readRows : Command (List StoredObject) :=
  Command.queryToChange (fun _ => [TableName.catalogObjects.rows, Part.objectIndex])
    Database.objectRows

/-- Inserts a row, unless it is there, and returns the number of rows added. -/
def insertRow (stored : StoredObject) : Command Nat := do
  let rows ← readRows
  let after := if stored ∈ rows then rows else rows ++ [stored]
  let parts := if stored ∈ rows then [] else TableName.catalogObjects.parts
  Command.change parts fun database => { database with objects := some after }
  return after.length - rows.length

/-- Inserts an object and adds the number of rows added. -/
def insertOne (added : Nat) (row : CatalogRow) : Command Nat := do
  return added + (← Command.either (insertRow (StoredObject.ofRow row)) (Related.insertObject row))

/-- Inserts objects and returns the number of rows added. -/
def insert (objects : List CatalogRow) : Command Nat := do
  Command.prepare .catalogObjects
  objects.foldlM insertOne 0

/-- Inserts all objects or none. -/
def importAll (objects : List CatalogRow) : Command Nat :=
  Command.transaction (insert objects)

end CatalogTable

end SchemaPlan
