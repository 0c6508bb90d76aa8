import SchemaPlan.Catalog
import SchemaPlan.Edge.Basic

/-!
# Rows of the database

A row holds texts, some of which may be missing.  Reading a row brings its names into stored form
and fails when a type or a status has an unknown name.
-/

set_option autoImplicit false

namespace SchemaPlan

/-- The tables of the database. -/
inductive TableName where
  | dependencyEdges
  | installOrder
  | rollbackOrder
  | catalogObjects
deriving DecidableEq, Repr

namespace TableName

/-- Every table. -/
def all : List TableName := [dependencyEdges, installOrder, rollbackOrder, catalogObjects]

/-- The name of a table. -/
def name : TableName → String
  | dependencyEdges => "dependency_edges"
  | installOrder => "install_order"
  | rollbackOrder => "rollback_order"
  | catalogObjects => "catalog_objects"

/-- The names of the columns of a table. -/
def columns : TableName → List String
  | dependencyEdges =>
    ["STAGE", "STATUS", "OBJECT_OWNER", "OBJECT_TYPE", "OBJECT_PACKAGE", "OBJECT_NAME",
      "DEPENDENCY_OWNER", "DEPENDENCY_TYPE", "DEPENDENCY_PACKAGE", "DEPENDENCY_NAME"]
  | installOrder | rollbackOrder =>
    ["ORDER", "OBJECT_OWNER", "OBJECT_PACKAGE", "OBJECT_TYPE", "OBJECT_NAME", "STATUS"]
  | catalogObjects => ["OWNER", "OBJECT_TYPE", "OBJECT_PACKAGE", "OBJECT_NAME"]

/-- The table with a name, in any case. -/
def ofName? (text : String) : Option TableName :=
  all.find? fun table => Text.sameIgnoringCase table.name text

/-- The failure of a row that cannot be read. -/
def corrupt (table : TableName) (message : String) : StorageError :=
  .corruptRecord table.name message

/-- The failure of a query to a table that does not exist. -/
def absent (table : TableName) : StorageError :=
  .databaseFailed ("no such table: " ++ table.name)

/-- The failure of a row that repeats another one. -/
def repeated (table : TableName) : StorageError :=
  .databaseFailed ("UNIQUE constraint failed: " ++ table.name)

/-- The object type that a row of the table names. -/
def readType (table : TableName) (text : String) : Except StorageError ObjectType :=
  (ObjectType.parse text).mapError table.corrupt

end TableName

/-! ## Records -/

/-- Records of the closure are kept apart from the records of a finished plan. -/
inductive EdgeStage where
  | closure
  | classified
deriving DecidableEq, Repr

/-- The name of a stage. -/
def EdgeStage.name : EdgeStage → String
  | closure => "closure"
  | classified => "classified"

/-- The stage with a given name. -/
def EdgeStage.ofName? (text : String) : Option EdgeStage :=
  [closure, classified].find? fun stage => stage.name == text

/-- A row of the table of records. -/
structure EdgeRow where
  stage : String
  status : String
  objectOwner : Option String
  objectType : String
  objectPackage : String
  objectName : String
  dependencyOwner : Option String
  dependencyType : Option String
  dependencyPackage : Option String
  dependencyName : Option String
deriving DecidableEq, Repr

namespace EdgeRow

/-- The row of a record. -/
def ofEdge (stage : EdgeStage) (edge : Edge) : EdgeRow where
  stage := stage.name
  status := edge.status.name
  objectOwner := edge.object.owner
  objectType := edge.object.key.objectType.name
  objectPackage := edge.object.key.package
  objectName := edge.object.key.name
  dependencyOwner := edge.dependency.bind (·.owner)
  dependencyType := edge.dependency.map (·.key.objectType.name)
  dependencyPackage := edge.dependency.map (·.key.package)
  dependencyName := edge.dependency.map (·.key.name)

/-- The row with a blank for everything that is missing. -/
def folded (row : EdgeRow) : EdgeRow :=
  { row with
    objectOwner := some (row.objectOwner.getD "")
    dependencyOwner := some (row.dependencyOwner.getD "")
    dependencyType := some (row.dependencyType.getD "")
    dependencyPackage := some (row.dependencyPackage.getD "")
    dependencyName := some (row.dependencyName.getD "") }

/-- Whether two rows are the same once missing texts are taken for blank ones. -/
def repeats (row other : EdgeRow) : Bool := decide (row.folded = other.folded)

/-- The dependency that a row names. -/
def dependency (row : EdgeRow) : Except StorageError (Option ObjectRef) :=
  match row.dependencyType, row.dependencyName with
  | some typeName, some name => do
    let objectType ← TableName.dependencyEdges.readType typeName
    return some (ObjectRef.new row.dependencyOwner
      (ObjectKey.new objectType (row.dependencyPackage.getD "") name))
  | none, none => .ok none
  | _, _ => .error (TableName.dependencyEdges.corrupt
      ("partial dependency on " ++ row.objectPackage ++ "." ++ row.objectName))

/-- The record of a row. -/
def toEdge (row : EdgeRow) : Except StorageError Edge := do
  let status ← (EdgeStatus.parse row.status).mapError TableName.dependencyEdges.corrupt
  let objectType ← TableName.dependencyEdges.readType row.objectType
  let dependency ← row.dependency
  return ⟨status, ObjectRef.new row.objectOwner
    (ObjectKey.new objectType row.objectPackage row.objectName), dependency⟩

end EdgeRow

/-! ## Orders -/

/-- The two tables that hold an order. -/
inductive OrderTable where
  | install
  | rollback
deriving DecidableEq, Repr

/-- The table of an order. -/
def OrderTable.table : OrderTable → TableName
  | install => .installOrder
  | rollback => .rollbackOrder

/-- The order whose table has a given name. -/
def OrderTable.ofName? (text : String) : Option OrderTable :=
  [install, rollback].find? fun order => order.table.name == text

/-- An object with its place in an order. -/
structure OrderRecord where
  order : Int
  owner : Option String
  key : ObjectKey
  status : String
deriving DecidableEq, Repr

/-- A row of an order. -/
structure OrderRow where
  order : Int
  owner : Option String
  package : String
  objectType : String
  name : String
  status : String
deriving DecidableEq, Repr

namespace OrderRow

/-- The row of an object with its place. -/
def ofRecord (record : OrderRecord) : OrderRow :=
  ⟨record.order, record.owner, record.key.package, record.key.objectType.name, record.key.name,
    record.status⟩

/-- The object of a row with its place.  The owner is kept as it is. -/
def toRecord (table : OrderTable) (row : OrderRow) : Except StorageError OrderRecord := do
  let objectType ← table.table.readType row.objectType
  return ⟨row.order, row.owner, ObjectKey.new objectType row.package row.name, row.status⟩

end OrderRow

/-! ## Catalog -/

/-- A row of the catalog as it is stored. -/
structure StoredObject where
  owner : String
  objectType : String
  package : String
  name : String
deriving DecidableEq, Repr

namespace StoredObject

/-- The stored form of a row of a catalog. -/
def ofRow (row : CatalogRow) : StoredObject :=
  ⟨row.owner, row.key.objectType.name, row.key.package, row.key.name⟩

/-- The row of a catalog that is stored.  The owner is kept as it is. -/
def toRow (stored : StoredObject) : Except StorageError CatalogRow := do
  let objectType ← TableName.catalogObjects.readType stored.objectType
  return ⟨stored.owner, ObjectKey.new objectType stored.package stored.name⟩

instance : Ord StoredObject :=
  ⟨compareLex (compareOn owner) (compareLex (compareOn objectType)
    (compareLex (compareOn name) (compareOn package)))⟩

end StoredObject

end SchemaPlan
