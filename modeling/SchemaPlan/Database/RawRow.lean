import SchemaPlan.Database.CatalogTable
import SchemaPlan.Database.PlanStore
import SchemaPlan.Text.Numeral

/-!
# Rows of raw values

A row may be given as its values in the order of the columns.  A whole number in a column of texts
is kept as its text.  A place that is not given is the one after the last.
-/

set_option autoImplicit false

namespace SchemaPlan

/-- A value in a row. -/
inductive RawValue where
  | null
  | text (value : String)
  | integer (value : Int)
deriving DecidableEq, Repr

namespace RawValue

/-- The failure of a value that a column does not take. -/
def refused (message : String) : StorageError := .databaseFailed message

/-- The text in a column where it may be missing. -/
def text? : RawValue → Option String
  | null => none
  | text value => some value
  | integer value => some (toString value)

/-- The text in a column where it must be given. -/
def requiredText (value : RawValue) : Except StorageError String :=
  match value.text? with
  | some written => .ok written
  | none => .error (refused "NOT NULL constraint failed")

/-- The value in a table of any kind. -/
def value : RawValue → Relational.Value
  | null => .null
  | text value => .text value
  | integer value => .integer value

/-- The whole number that a text stands for, with blanks around it. -/
def integerOf? (text : String) : Option Int :=
  (Numeral.ofText? text).bind Numeral.toInt?

/-- The place that a value gives in an order that holds some rows. -/
def place (rows : List OrderRow) : RawValue → Except StorageError Int
  | integer value => .ok value
  | text value =>
    match integerOf? value with
    | some place => .ok place
    | none => .error (refused "datatype mismatch")
  | null =>
    match (rows.map (·.order)).max? with
    | some last => .ok (last + 1)
    | none => .ok 1

end RawValue

namespace RawRow

/-- The failure of a row with too few or too many values. -/
def wrongWidth (table : TableName) : StorageError :=
  .databaseFailed ("wrong number of values for " ++ table.name)

/-- Inserts a row of records. -/
def putEdge (values : List RawValue) : Command Unit := do
  let rows ← EdgeLog.readRows fun _ => [TableName.dependencyEdges.rows, Part.recordIndex]
  match values with
  | [stage, status, objectOwner, objectType, objectPackage, objectName, owner, objectTypeNeeded,
      package, name] =>
    let row : EdgeRow :=
      ⟨← stage.requiredText, ← status.requiredText, objectOwner.text?, ← objectType.requiredText,
        ← objectPackage.requiredText, ← objectName.requiredText, owner.text?,
        objectTypeNeeded.text?, package.text?, name.text?⟩
    if rows.any row.repeats then throw TableName.dependencyEdges.repeated
    EdgeLog.setRows (EdgeLog.partsOf [row]) (rows ++ [row])
  | _ => throw (wrongWidth .dependencyEdges)

/-- Inserts a row of an order. -/
def putOrder (table : OrderTable) (values : List RawValue) : Command Unit := do
  let rows ← table.readRows
  match values with
  | [order, owner, package, objectType, name, status] =>
    let row : OrderRow :=
      ⟨← order.place rows, owner.text?, ← package.requiredText, ← objectType.requiredText,
        ← name.requiredText, ← status.requiredText⟩
    if rows.any fun other => decide (other.order = row.order) then throw table.table.repeated
    table.setRows (rows ++ [row])
  | _ => throw (wrongWidth table.table)

/-- Inserts a row of the catalog. -/
def putObject (values : List RawValue) : Command Unit := do
  let rows ← CatalogTable.readRows
  match values with
  | [owner, objectType, package, name] =>
    let stored : StoredObject :=
      ⟨← owner.requiredText, ← objectType.requiredText, ← package.requiredText,
        ← name.requiredText⟩
    if stored ∈ rows then throw TableName.catalogObjects.repeated
    Command.change TableName.catalogObjects.parts fun database =>
      { database with objects := some (rows ++ [stored]) }
  | _ => throw (wrongWidth .catalogObjects)

/-- Inserts a row into one of the four tables. -/
def putOwn (table : TableName) (values : List RawValue) : Command Nat := do
  match table with
  | .dependencyEdges => putEdge values
  | .installOrder => putOrder .install values
  | .rollbackOrder => putOrder .rollback values
  | .catalogObjects => putObject values
  return 1

/-- Inserts a row into what a text says, which may be more than the name of a table, and returns the
number of rows added. -/
def put (target : String) (values : List RawValue) : Command Nat :=
  let related := Related.put target (values.map (·.value))
  match TableName.ofName? target with
  | some table => Command.either (putOwn table values) related
  | none => related

/-- Removes one of the four tables. -/
def dropOwn (table : TableName) : Command Unit := do
  let connection ← get
  if connection.database.hasTable table then
    Command.atomically do
      Command.change [Part.heading] id
      Command.change table.parts fun database => database.dropTable table
  else
    if table ∈ connection.outdated then Command.touchAll [table.rows]
    throw table.absent

/-- Removes the table that a text says. -/
def dropTable (target : String) : Command Unit :=
  match TableName.ofName? target with
  | some table => Command.either (dropOwn table) (Related.drop target)
  | none => Related.drop target

end RawRow

end SchemaPlan
