import SchemaPlan.Database.Tables

/-!
# Statements on related tables

In a database that has been made elsewhere, tables that stand in for the four tables need not have
the same columns and rules.  What is done with rows is then said by statements.  Reading a row
fails when a value is of another kind than the one asked for.
-/

set_option autoImplicit false

namespace SchemaPlan

open Relational (Expression Query Statement Value)

/-! ## Values -/

namespace Relational.Value

/-- The text that a value is. -/
def asText : Value → Except StorageError String
  | text value => .ok value
  | _ => .error (.databaseFailed "invalid column type")

/-- The text that a value is, if it is not missing. -/
def asText? : Value → Except StorageError (Option String)
  | null => .ok none
  | value => some <$> value.asText

/-- The whole number that a value is. -/
def asInteger : Value → Except StorageError Int
  | integer value => .ok value
  | _ => .error (.databaseFailed "invalid column type")

end Relational.Value

/-- The number of values in rows that are found is another one than asked for. -/
def TableName.narrow (table : TableName) : StorageError :=
  .databaseFailed ("wrong number of columns of " ++ table.name)

/-! ## Conditions -/

namespace Relational.Expression

/-- That a column has a text. -/
def hasText (column text : String) : Expression := .apply .equal (ofColumn column) (ofText text)

/-- That a column has a text, if one is asked for. -/
def hasText? (column : String) (text : Option String) : Expression :=
  .apply .or (.isNull (ofText? text)) (.apply .equal (ofColumn column) (ofText? text))

/-- That both conditions hold. -/
def also (first second : Expression) : Expression := .apply .and first second

end Relational.Expression

/-! ## Commands -/

namespace Related

variable {Item : Type}

/-- The parts with the rows of a table or a view. -/
def partsOf (table : String) (database : Database) : List Part :=
  match database.relations with
  | some relations => (relations.tablesOf table).map Part.tree
  | none => ((TableName.ofName? table).map TableName.parts).getD []

/-- The rows that answer a query to a table, each of them read. -/
def ask (table : String) (query : Query) (read : List Value → Except StorageError Item) :
    Command (List Item) :=
  Command.query (partsOf table) fun database =>
    match database.asRelations.answer query with
    | .ok rows => rows.mapM read
    | .error trouble => .error (.databaseFailed trouble.message)

/-- Counts the rows of a table that satisfy a condition. -/
def count (table : String) (condition : Option Expression) : Command Nat := do
  let counts ← ask table (.countOf table condition) fun values =>
    return values.map fun
      | .integer count => count.toNat
      | _ => 0
  return counts.flatten.foldl (· + ·) 0

/-- The answer of a statement on a database, and the database after it. -/
def result (statement : Statement) (parameters : List Value) (database : Database) :
    Except StorageError Nat × Database :=
  let (answer, after) := database.asRelations.run statement parameters
  (answer.mapError fun trouble => .databaseFailed trouble.message, database.withRelations after)

/-- Runs a statement on a table and returns the number of rows changed. -/
def run (table : String) (statement : Statement) (parameters : List Value) : Command Nat := do
  let database := (← get).database
  let _ ← Command.queryToChange (partsOf table) fun _ => .ok ()
  let (answer, after) := result statement parameters database
  if after ≠ database then Command.change (partsOf table database) fun _ => after
  ExceptT.mk (return answer)

/-- Inserts a row into a table with values for its columns. -/
def insert (resolution : Option Relational.Resolution) (table : TableName) (values : List Value) :
    Command Nat :=
  let subject : Relational.Subject := { table := table.name }
  let columns := some table.columns
  run table.name (.insert { resolution, subject, columns, rows := some (.ofValues values) }) []

/-- The failure of a text that is no statement. -/
def unreadable (text : String) : StorageError :=
  .databaseFailed (Relational.Trouble.unreadable text).message

/-- The text of an insertion into what a text says, with a number of values. -/
def insertionText (target : String) (count : Nat) : String :=
  "INSERT INTO " ++ target ++ " VALUES (" ++
    String.intercalate ", " (List.replicate count "?") ++ ")"

/-- Inserts values into what a text says: a table with its columns if they are given. -/
def put (target : String) (values : List Value) : Command Nat := do
  match Statement.ofText? (insertionText target values.length) with
  | some (.insert insertion, count) =>
    if count ≠ values.length then throw (unreadable target)
    run insertion.subject.table (.insert insertion) values
  | _ => throw (unreadable target)

/-- Removes the table that a text says. -/
def drop (target : String) : Command Unit := do
  match Relational.Removal.ofText? ("DROP TABLE " ++ target) with
  | none => throw (unreadable target)
  | some removal =>
    let table := removal.subject.table
    let after ← Command.queryToChange (partsOf table) fun database =>
      match database.asRelations.remove removal with
      | .ok after => .ok (database.withRelations after)
      | .error trouble => .error (.databaseFailed trouble.message)
    let database := (← get).database
    if after ≠ database then
      Command.change (.heading :: partsOf table database) fun _ => after

/-! ## Records -/

/-- The condition of the records of a stage that lack the owner of a dependency with a name. -/
def lacksOwner (stage : EdgeStage) (name : String) : Expression :=
  ((Expression.hasText "STAGE" stage.name).also (.hasText "DEPENDENCY_NAME" name)).also
    (.isNull (.ofColumn "DEPENDENCY_OWNER"))

/-- The row of a stage with some values. -/
def edgeRow (stage : EdgeStage) : List Value → Except StorageError EdgeRow
  | [status, objectOwner, objectType, objectPackage, objectName, owner, objectTypeNeeded, package,
      name] => do
    return ⟨stage.name, ← status.asText, ← objectOwner.asText?, ← objectType.asText,
      ← objectPackage.asText, ← objectName.asText, ← owner.asText?, ← objectTypeNeeded.asText?,
      ← package.asText?, ← name.asText?⟩
  | _ => .error TableName.dependencyEdges.narrow

/-- Reads the records of a stage. -/
def loadEdges (stage : EdgeStage) : Command (List Edge) :=
  let table := TableName.dependencyEdges
  ask table.name
    (.ofTable table.name ((table.columns.drop 1).map .ofColumn)
      (some (.hasText "STAGE" stage.name)) [.ofColumn "rowid"])
    fun values => do (← edgeRow stage values).toEdge

/-- Counts the rows of a stage, of one status if given. -/
def countEdges (stage : EdgeStage) (status : Option EdgeStatus) : Command Nat :=
  count TableName.dependencyEdges.name
    (some ((Expression.hasText "STAGE" stage.name).also
      (.hasText? "STATUS" (status.map (·.name)))))

/-- Inserts a record and returns the number of rows added. -/
def insertEdge (stage : EdgeStage) (edge : Edge) : Command Nat :=
  insert (some .ignore) .dependencyEdges (EdgeRow.ofEdge stage edge).values

/-- Fills in an owner, drops the rows that still lack it, and returns the number of rows filled
in. -/
def backfill (stage : EdgeStage) (name owner : String) : Command Nat := do
  let table := TableName.dependencyEdges.name
  let condition := some (lacksOwner stage name)
  let subject : Relational.Subject := { table }
  let assignments : List Relational.Assignment :=
    [{ columns := ["DEPENDENCY_OWNER"], value := .ofText owner }]
  let count ← run table
    (.update { resolution := some .ignore, subject, assignments, condition }) []
  let _ ← run table (.delete { subject, condition }) []
  return count

/-- Deletes the rows of a stage and returns their number. -/
def deleteStage (stage : EdgeStage) : Command Nat :=
  let table := TableName.dependencyEdges.name
  let condition := some (Expression.hasText "STAGE" stage.name)
  run table (.delete { subject := { table }, condition }) []

/-! ## Orders -/

/-- The row of an order with some values. -/
def orderRow (table : OrderTable) : List Value → Except StorageError OrderRow
  | [order, owner, package, objectType, name, status] => do
    return ⟨← order.asInteger, ← owner.asText?, ← package.asText, ← objectType.asText,
      ← name.asText, ← status.asText⟩
  | _ => .error table.table.narrow

/-- Inserts an object with its place. -/
def insertOrder (table : OrderTable) (record : OrderRecord) : Command Unit := do
  let _ ← insert none table.table (OrderRow.ofRecord record).values

/-- Puts objects in the place of all objects of an order and returns their number. -/
def replaceOrder (table : OrderTable) (records : List OrderRecord) : Command Nat := do
  let _ ← run table.table.name (.delete { subject := { table := table.table.name } }) []
  Command.prepare table.table
  records.forM (insertOrder table)
  return records.length

/-- Reads the objects of an order by their places, of one status if given.  A missing column of
places is taken for a text. -/
def loadOrder (table : OrderTable) (status : Option String) : Command (List OrderRecord) :=
  let place := Expression.column [] "ORDER" true
  let others := (table.table.columns.drop 1).map Expression.ofColumn
  ask table.table.name
    (.ofTable table.table.name (place :: others) (some (.hasText? "STATUS" status)) [place])
    fun values => do (← orderRow table values).toRecord table

/-! ## Catalog -/

/-- The row of the catalog with some values. -/
def storedObject : List Value → Except StorageError StoredObject
  | [owner, objectType, package, name] => do
    return ⟨← owner.asText, ← objectType.asText, ← package.asText, ← name.asText⟩
  | _ => .error TableName.catalogObjects.narrow

/-- The table of the catalog. -/
def catalog : TableName := .catalogObjects

/-- Finds the objects of a package with one of the names, of one owner if given. -/
def findObjects (owner : Option String) (package : String) (names : List String) :
    Command (List CatalogRow) :=
  let condition := ((Expression.hasText? "OWNER" (owner.map Text.canonical)).also
    (.hasText "OBJECT_PACKAGE" (Text.canonical package))).also
    (.among (.ofColumn "OBJECT_NAME") (names.map fun name => .ofText (Text.canonical name)))
  ask catalog.name
    (.ofTable catalog.name (catalog.columns.map .ofColumn) (some condition)
      (["OWNER", "OBJECT_TYPE", "OBJECT_NAME"].map .ofColumn))
    fun values => do (← storedObject values).toRow

/-- Lists the owners of the objects in ascending order. -/
def listOwners : Command (List String) :=
  let owner := Expression.ofColumn "OWNER"
  let selection := { (Query.ofTable catalog.name [owner] none []).first with isDistinct := true }
  ask catalog.name { first := selection, order := [{ expression := owner }] } fun
    | [owner] => owner.asText
    | _ => .error catalog.narrow

/-- Counts the objects. -/
def countObjects : Command Nat := count catalog.name none

/-- Inserts an object and returns the number of rows added. -/
def insertObject (row : CatalogRow) : Command Nat :=
  insert (some .ignore) catalog (StoredObject.ofRow row).values

end Related

end SchemaPlan
