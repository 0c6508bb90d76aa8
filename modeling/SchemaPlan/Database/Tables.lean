import SchemaPlan.Database.Basic

/-!
# The four tables as relations

The four tables are relations like others, of which the definitions are known.  Where a statement
goes beyond the four tables as they are, it is run on the relations.  As long as the rows are
numbered by their places nothing else need be told about them.
-/

set_option autoImplicit false

namespace SchemaPlan

open Relational (Item Relations Value)

/-! ## Definitions -/

namespace TableName

/-- The definition of the table of an order. -/
def orderDefinition (name : String) : String :=
  "CREATE TABLE " ++ name ++ " (\n    \x22ORDER\x22 INTEGER PRIMARY KEY,\n" ++
    "    OBJECT_OWNER TEXT,\n    OBJECT_PACKAGE TEXT NOT NULL,\n    OBJECT_TYPE TEXT NOT NULL,\n" ++
    "    OBJECT_NAME TEXT NOT NULL,\n    STATUS TEXT NOT NULL\n) STRICT"

/-- The definition of a table. -/
def definition : TableName → String
  | dependencyEdges =>
    "CREATE TABLE dependency_edges (\n    STAGE TEXT NOT NULL,\n    STATUS TEXT NOT NULL,\n" ++
      "    OBJECT_OWNER TEXT,\n    OBJECT_TYPE TEXT NOT NULL,\n" ++
      "    OBJECT_PACKAGE TEXT NOT NULL,\n    OBJECT_NAME TEXT NOT NULL,\n" ++
      "    DEPENDENCY_OWNER TEXT,\n    DEPENDENCY_TYPE TEXT,\n    DEPENDENCY_PACKAGE TEXT,\n" ++
      "    DEPENDENCY_NAME TEXT\n) STRICT"
  | installOrder => orderDefinition "install_order"
  | rollbackOrder => orderDefinition "rollback_order"
  | catalogObjects =>
    "CREATE TABLE catalog_objects (\n    OWNER TEXT NOT NULL,\n    OBJECT_TYPE TEXT NOT NULL,\n" ++
      "    OBJECT_PACKAGE TEXT NOT NULL,\n    OBJECT_NAME TEXT NOT NULL,\n" ++
      "    PRIMARY KEY (OWNER, OBJECT_TYPE, OBJECT_PACKAGE, OBJECT_NAME)\n) STRICT"

/-- The names and the definitions of the indexes of a table. -/
def indexDefinitions : TableName → List (String × String)
  | dependencyEdges =>
    [("idx_dependency_edges_record",
        "CREATE UNIQUE INDEX idx_dependency_edges_record ON dependency_edges(\n" ++
          "    STAGE, STATUS,\n    COALESCE(OBJECT_OWNER, ''), OBJECT_TYPE, OBJECT_PACKAGE, " ++
          "OBJECT_NAME,\n    COALESCE(DEPENDENCY_OWNER, ''), COALESCE(DEPENDENCY_TYPE, ''),\n" ++
          "    COALESCE(DEPENDENCY_PACKAGE, ''), COALESCE(DEPENDENCY_NAME, '')\n)"),
      ("idx_dependency_edges_dep_name",
        "CREATE INDEX idx_dependency_edges_dep_name\n" ++
          "    ON dependency_edges(DEPENDENCY_NAME) WHERE DEPENDENCY_OWNER IS NULL")]
  | installOrder | rollbackOrder => []
  | catalogObjects =>
    [("idx_catalog_objects_name",
        "CREATE INDEX idx_catalog_objects_name\n    ON catalog_objects(OBJECT_NAME)")]

/-- The definitions of a table and its indexes. -/
def definitions (table : TableName) : List String :=
  table.definition :: table.indexDefinitions.map (·.2)

/-- The page from which the tree of a table grows. -/
def root : TableName → Nat
  | dependencyEdges => 2
  | installOrder => 5
  | rollbackOrder => 6
  | catalogObjects => 7

/-- The number of pages of a database with the four tables. -/
def pageCount : Nat := 9

/-- The names and the definitions of the indexes of a table, with those that come with its keys. -/
def allIndexes (table : TableName) : List (String × String) :=
  (if table = catalogObjects then [("sqlite_autoindex_catalog_objects_1", "")] else []) ++
    table.indexDefinitions

/-- A table with some rows, and its indexes. -/
def items (table : TableName) (rows : List Relational.Row) : List Item :=
  { kind := .table, name := table.name, table := table.name, definition := table.definition,
    root := table.root, rows } ::
  table.allIndexes.mapIdx fun place (name, definition) =>
    { kind := .index, name, table := table.name, definition, root := table.root + 1 + place }

end TableName

/-! ## Rows -/

/-- The value for a text that may be missing. -/
def Relational.Value.ofText? (text : Option String) : Value := (text.map Value.text).getD .null

/-- The text that a value is, where it may be missing. -/
def Relational.Value.text? : Value → Option (Option String)
  | .null => some none
  | .text written => some (some written)
  | _ => none

namespace EdgeRow

/-- The values of a row. -/
def values (row : EdgeRow) : List Value :=
  [.text row.stage, .text row.status, .ofText? row.objectOwner, .text row.objectType,
    .text row.objectPackage, .text row.objectName, .ofText? row.dependencyOwner,
    .ofText? row.dependencyType, .ofText? row.dependencyPackage, .ofText? row.dependencyName]

/-- The row with some values. -/
def ofValues? : List Value → Option EdgeRow
  | [.text stage, .text status, objectOwner, .text objectType, .text objectPackage,
      .text objectName, owner, objectTypeNeeded, package, name] => do
    return ⟨stage, status, ← objectOwner.text?, objectType, objectPackage, objectName,
      ← owner.text?, ← objectTypeNeeded.text?, ← package.text?, ← name.text?⟩
  | _ => none

end EdgeRow

namespace OrderRow

/-- The values of a row. -/
def values (row : OrderRow) : List Value :=
  [.integer row.order, .ofText? row.owner, .text row.package, .text row.objectType,
    .text row.name, .text row.status]

/-- The row with some values. -/
def ofValues? : List Value → Option OrderRow
  | [.integer order, owner, .text package, .text objectType, .text name, .text status] => do
    return ⟨order, ← owner.text?, package, objectType, name, status⟩
  | _ => none

end OrderRow

namespace StoredObject

/-- The values of a row. -/
def values (stored : StoredObject) : List Value :=
  [.text stored.owner, .text stored.objectType, .text stored.package, .text stored.name]

/-- The row with some values. -/
def ofValues? : List Value → Option StoredObject
  | [.text owner, .text objectType, .text package, .text name] =>
    some ⟨owner, objectType, package, name⟩
  | _ => none

end StoredObject

/-! ## Databases -/

namespace Database

/-- Rows that are numbered by their places. -/
def numbered (rows : List (List Value)) : List Relational.Row :=
  rows.mapIdx fun place values => ⟨place + 1, values⟩

/-- The rows of a table as rows of a relation, if the table is there. -/
def relationRows (database : Database) : TableName → Option (List Relational.Row)
  | .dependencyEdges => database.edges.map fun rows => numbered (rows.map (·.values))
  | .installOrder => database.installOrder.map ordered
  | .rollbackOrder => database.rollbackOrder.map ordered
  | .catalogObjects => database.objects.map fun rows => numbered (rows.map (·.values))
where
  /-- The rows of an order, which are numbered by their places in it. -/
  ordered (rows : List OrderRow) : List Relational.Row :=
    (rows.mergeSort fun first second => first.order ≤ second.order).map fun row =>
      ⟨row.order, row.values⟩

/-- The tables of a database as relations. -/
def asRelations (database : Database) : Relations :=
  database.relations.getD
    { encoding := .utf8
      items := TableName.all.flatMap fun table =>
        ((database.relationRows table).map table.items).getD []
      pageCount := TableName.pageCount }

/-- The rows of one of the four tables among relations, if it is there. -/
def foundRows (relations : Relations) (table : TableName) : Option (List (List Value)) :=
  (relations.item? .table table.name).map fun item => item.rows.map (·.values)

/-- A database with the rows of the four tables among relations, as far as they can be rows of the
four tables. -/
def withFoundRows (database : Database) (relations : Relations) : Database :=
  { database with
    edges := (foundRows relations .dependencyEdges).map (·.filterMap EdgeRow.ofValues?)
    installOrder := (foundRows relations .installOrder).map (·.filterMap OrderRow.ofValues?)
    rollbackOrder := (foundRows relations .rollbackOrder).map (·.filterMap OrderRow.ofValues?)
    objects := (foundRows relations .catalogObjects).map (·.filterMap StoredObject.ofValues?) }

/-- A database with other relations in the place of its tables.  They are the four tables if these
tell everything about them. -/
def withRelations (database : Database) (relations : Relations) : Database :=
  let own := database.withFoundRows relations
  if database.relations.isNone && own.asRelations == relations then own
  else { ofRelations relations database.version with relations := some relations }

end Database

end SchemaPlan
