import SchemaPlan.Relational.Reader.Statement
import SchemaPlan.Relational.Scope

/-!
# Relations

Relations are tables whose columns are declared in any way, with the indexes, views and triggers
that belong to them.  What something is, is read from its definition each time that it is used.
The rows of a table stand in the order of their numbers.
-/

set_option autoImplicit false

namespace SchemaPlan.Relational

/-- A row of a table with its number. -/
structure Row where
  number : Int
  values : List Value
deriving DecidableEq, Repr

/-- What an item of a database is. -/
inductive Kind where
  | table
  | index
  | view
  | trigger
deriving DecidableEq, Repr

/-- The name of a kind of items. -/
def Kind.name : Kind → String
  | table => "table"
  | index => "index"
  | view => "view"
  | trigger => "trigger"

/-- Something in a database, with the table that it belongs to. -/
structure Item where
  kind : Kind
  name : String
  table : String
  definition : String
  /-- The number of the page from which its tree grows. -/
  root : Nat := 0
  rows : List Row := []
deriving DecidableEq, Repr

/-- The items of a database. -/
structure Relations where
  encoding : Encoding
  items : List Item
  /-- The number of pages, after which the tree of a new item grows. -/
  pageCount : Nat := 1
  /-- Whether nothing may be changed, since it is not known how. -/
  isFixed : Bool := false
deriving DecidableEq, Repr

/-! ## Columns and rows -/

namespace TableDefinition

/-- The affinity of a column.  A column of a strict table that takes any value has none. -/
def affinity (definition : TableDefinition) (column : ColumnDefinition) : Affinity :=
  if definition.isStrict && Text.sameIgnoringCase column.declared "ANY" then .blob
  else Affinity.ofType column.declared

/-- The columns of a table. -/
def heads (definition : TableDefinition) : List Head :=
  definition.columns.map fun column =>
    { name := column.name
      affinity := some (definition.affinity column)
      collation := column.collation }

/-- The source of the rows of a table that has a name of its own. -/
def seat (definition : TableDefinition) (name : String) : Seat where
  database := some "main"
  name
  heads := definition.heads
  isNumbered := !definition.isUnnumbered

/-- The cells of a row, with its number if it has one. -/
def cells (definition : TableDefinition) (row : Row) : Array Cell :=
  let values := row.values.map .ok
  (if definition.isUnnumbered then values else values ++ [.ok (.integer row.number)]).toArray

/-- The place of a column. -/
def place? (definition : TableDefinition) (column : String) : Option Nat :=
  definition.columns.findIdx? fun other => Text.sameIgnoringCase other.name column

/-- The place of the column that is the number of a row. -/
def numberPlace? (definition : TableDefinition) : Option Nat :=
  match definition.hasNumber, definition.primary with
  | true, [.column [] name _] => definition.place? name
  | _, _ => none

/-- Whether a name stands for the number of a row. -/
def isNumber (definition : TableDefinition) (column : String) : Bool :=
  match definition.place? column with
  | some place => definition.numberPlace? == some place
  | none => !definition.isUnnumbered && isNumberName column

/-- The columns that values can be given to. -/
def given (definition : TableDefinition) : List ColumnDefinition :=
  definition.columns.filter (·.formula.isNone)

/-- A row of missing values. -/
def blank (definition : TableDefinition) : Row := ⟨0, definition.columns.map fun _ => .null⟩

end TableDefinition

/-! ## Items -/

namespace Relations

/-- The item of a kind with a name. -/
def item? (relations : Relations) (kind : Kind) (name : String) : Option Item :=
  relations.items.find? fun item =>
    decide (item.kind = kind) && Text.sameIgnoringCase item.name name

/-- Whether there is a table or a view with a name. -/
def hasTable (relations : Relations) (name : String) : Bool :=
  (relations.item? .table name).isSome || (relations.item? .view name).isSome

/-- What an item is. -/
def define (item : Item) : Except Trouble Definition :=
  match Definition.ofText? item.definition with
  | some definition => .ok definition
  | none => .error (.unreadable item.definition)

/-- The table with a name, and its rows. -/
def table (relations : Relations) (name : String) :
    Except Trouble (TableDefinition × List Row) := do
  match relations.item? .table name with
  | none => throw (.unknownTable name)
  | some item =>
    match ← define item with
    | .table definition => return (definition, item.rows)
    | _ => throw (.unreadable item.definition)

/-- The query of a view, with the names of its columns if they are given. -/
def view? (relations : Relations) (name : String) :
    Except Trouble (Option (Option (List String) × Query)) := do
  match relations.item? .view name with
  | none => return none
  | some item =>
    match ← define item with
    | .view _ columns query => return some (columns, query)
    | _ => throw (.unreadable item.definition)

/-- The items that belong to a table. -/
def belonging (relations : Relations) (kind : Kind) (table : String) : List Item :=
  relations.items.filter fun item =>
    decide (item.kind = kind) && Text.sameIgnoringCase item.table table

/-- The keys of the unique indexes of a table.  An automatic index has no definition; its key
belongs to the table. -/
def indexKeys (relations : Relations) (table : String) : Except Trouble (List Key) := do
  let keys ← (relations.belonging .index table).mapM fun item => do
    if item.definition.isEmpty then return []
    match ← define item with
    | .index _ _ isUnique key => return if isUnique then [key] else []
    | _ => throw (.unreadable item.definition)
  return keys.flatten

/-- The triggers that a change of a table sets off at a moment, the latest one first. -/
def triggers (relations : Relations) (table : String) :
    Except Trouble (List TriggerDefinition) := do
  (relations.belonging .trigger table).reverse.mapM fun item => do
    match ← define item with
    | .trigger definition => return definition
    | _ => throw (.unreadable item.definition)

/-- The relations with other rows in a table. -/
def withRows (relations : Relations) (table : String) (rows : List Row) : Relations :=
  { relations with items := relations.items.map fun item =>
      if item.kind = .table ∧ Text.sameIgnoringCase item.name table then { item with rows }
      else item }

/-! ## The list of items -/

/-- The names of the list of all items. -/
def listNames : List String := ["SQLITE_MASTER", "SQLITE_SCHEMA"]

/-- Whether a name stands for the list of all items. -/
def isList (name : String) : Bool := listNames.contains (Text.upper name)

/-- The source of the list of all items. -/
def listSeat (name : String) : Seat where
  database := some "main"
  name
  heads :=
    [("type", Affinity.text), ("name", .text), ("tbl_name", .text), ("rootpage", .integer),
      ("sql", .text)].map fun (name, affinity) => { name, affinity := some affinity }
  isNumbered := true

/-- The cells of the list of all items. -/
def listCells (relations : Relations) : List (Array Cell) :=
  relations.items.mapIdx fun place item =>
    #[.ok (.text item.kind.name), .ok (.text item.name), .ok (.text item.table),
      .ok (.integer item.root),
      .ok (if item.definition.isEmpty then .null else .text item.definition),
      .ok (.integer (place + 1))]

end Relations

end SchemaPlan.Relational
