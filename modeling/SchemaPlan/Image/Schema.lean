import SchemaPlan.Image.Tree
import SchemaPlan.Relational.Answer

/-!
# Images of databases

An image begins with a heading that says how it is to be read.  The tree of its first page lists
the items of the database, each with its definition and the page from which its own tree grows.  An
image whose heading or list cannot be read is none.
-/

set_option autoImplicit false

namespace SchemaPlan

/-- What an image holds. -/
structure ImageContent where
  relations : Relational.Relations
  version : Int
  /-- Whether changes are kept in a log beside the image. -/
  isLogged : Bool
  /-- The tables whose rows cannot be read. -/
  lost : List String
deriving DecidableEq, Repr

namespace Image

/-! ## Heading -/

/-- The bytes with which an image begins. -/
def magic : List UInt8 := "SQLite format 3\x00".toUTF8.toList

/-- Whether a number is the size of a page. -/
def isPageSize (size : Nat) : Bool :=
  decide (512 ≤ size ∧ size ≤ 65536) && decide (Nat.pow 2 size.log2 = size)

/-- The image of some bytes, if the heading allows to read it.  The heading counts the pages, unless
it has been written by somebody who does not. -/
def ofBytes? (bytes : List UInt8) : Option Image := do
  if bytes.take 16 ≠ magic || bytes.length < headingLength then none
  let whole : Image := ⟨bytes.toArray, bytes.length, bytes.length, 1⟩
  let size ← whole.number? 16 2
  let pageSize := if size = 1 then 65536 else size
  let usable := pageSize - (← whole.number? 20 1)
  let found := (bytes.length + pageSize - 1) / pageSize
  let counted ← whole.number? 28 4
  let isCounted := counted != 0 && (← whole.number? 24 4) == (← whole.number? 92 4)
  let isReadable := decide ((← whole.number? 19 1) ≤ 2 ∧ (← whole.number? 44 4) % 256 ≤ 4)
  let isPlain := (bytes.drop 21).take 3 == [64, 32, 32]
  let isComplete := !isCounted || decide (counted ≤ found)
  if isReadable && isPlain && isComplete && isPageSize pageSize && decide (480 ≤ usable) then
    return ⟨bytes.toArray, pageSize, usable, if isCounted then counted else found⟩
  else none

/-- The bytes of an image that says that there is a log beside it, which counts as a change. -/
def marked (bytes : List UInt8) : List UInt8 :=
  let change := word (bytesValue ((bytes.drop 24).take 4) + 1)
  bytes.take 18 ++ [2, 2] ++ (bytes.drop 20).take 4 ++ change ++ (bytes.drop 28).take 64 ++
    change ++ word 3046000 ++ bytes.drop 100
where
  /-- A number as four bytes. -/
  word (number : Nat) : List UInt8 :=
    [24, 16, 8, 0].map fun shift => (number >>> shift).toUInt8

/-- The encoding of the texts of an image. -/
def encoding? (image : Image) : Option Relational.Encoding := do
  match (← image.number? 56 4) % 4 with
  | 2 => return .utf16LittleEndian
  | 3 => return .utf16BigEndian
  | _ => return .utf8

/-! ## Items -/

/-- The kind of items with a name. -/
def kindOf? (name : String) : Option Relational.Kind :=
  match name with
  | "table" => some .table
  | "index" => some .index
  | "view" => some .view
  | "trigger" => some .trigger
  | _ => none

/-- The item that a record lists. -/
def listed? (values : List Relational.Value) : Option Relational.Item :=
  match values with
  | [.text kind, .text name, .text table, .integer root, .text definition] => do
    return { kind := ← kindOf? kind, name, table, definition, root := root.toNat }
  | [.text kind, .text name, .text table, .integer root, .null] => do
    return { kind := ← kindOf? kind, name, table, definition := "", root := root.toNat }
  | _ => none

/-- The names that automatic indexes of a table can have, one for each key. -/
def automaticNames (definition : Relational.TableDefinition) : List String :=
  (List.range definition.keys.length).map fun place =>
    "sqlite_autoindex_" ++ definition.name ++ "_" ++ toString (place + 1)

/-- The table that an item belongs to, among the items listed before it. -/
def tableOf? (before : List Relational.Item) (item : Relational.Item) :
    Option Relational.TableDefinition := do
  let other ← before.find? fun other =>
    decide (other.kind = .table) && Text.sameIgnoringCase other.name item.table
  match Relational.Definition.ofText? other.definition with
  | some (.table definition) => some definition
  | _ => none

/-- Whether the names in expressions are names of columns of a table. -/
def areKnown (definition : Relational.TableDefinition) (expressions : List Relational.Expression) :
    Bool :=
  let level := definition.level definition.name definition.blank
  let ground : Relational.Ground := { relations := { encoding := .utf8, items := [] } }
  expressions.all fun expression => (ground.meaning [level] expression).toOption.isSome

/-- Whether a definition that is not known here begins like one of a kind. -/
def beginsWith (keyword definition : String) : Bool :=
  match Relational.Token.ofText? definition with
  | some ((.word create, _) :: (.word kind, _) :: _) =>
    Text.sameIgnoringCase create "CREATE" && Text.sameIgnoringCase kind keyword
  | _ => false

/-- Whether an item is what its definition says, among the items listed before it.  Some kinds of
tables, views and triggers are not known here. -/
def isSound (before : List Relational.Item) (item : Relational.Item) : Bool :=
  let isNew := !before.any fun other =>
    decide (other.kind = item.kind) && Text.sameIgnoringCase other.name item.name
  let isNamed (name table : String) : Bool :=
    Text.sameIgnoringCase name item.name && Text.sameIgnoringCase table item.table
  isNew && match item.kind, Relational.Definition.ofText? item.definition with
    | .table, some (.table definition) =>
      isNamed definition.name definition.name &&
        areKnown definition (definition.keys.flatMap (·.terms) ++ definition.checks ++
          definition.columns.filterMap (·.formula))
    | .table, _ => beginsWith "VIRTUAL" item.definition
    | .index, some (.index name table _ key) =>
      isNamed name table && (tableOf? before item).any fun definition =>
        areKnown definition (key.terms ++ key.condition.toList)
    | .index, _ =>
      item.definition.isEmpty && (tableOf? before item).any fun definition =>
        (automaticNames definition).contains item.name
    | .view, some (.view name _ _) => isNamed name name
    | .view, _ => beginsWith "VIEW" item.definition
    | .trigger, some (.trigger definition) => isNamed definition.name definition.table
    | .trigger, _ => beginsWith "TRIGGER" item.definition

/-- Whether every item is what its definition says. -/
def areSound (before : List Relational.Item) : List Relational.Item → Bool
  | [] => true
  | item :: rest => isSound before item && areSound (before ++ [item]) rest

/-! ## Rows -/

/-- The places of the columns of a table in the order in which its records have them.  Without
numbers of rows the columns of the primary key come first. -/
def columnOrder (definition : Relational.TableDefinition) : List Nat :=
  let places := definition.columns.zipIdx.filterMap fun (column, place) =>
    if column.formula.isSome && !column.isKept then none else some place
  if definition.isUnnumbered then
    let first := definition.primary.filterMap fun
      | .column _ name _ | .collate (.column _ name _) _ => definition.place? name
      | _ => none
    first.eraseDups ++ places.filter (· ∉ first)
  else places

/-- The row of a table that a record holds.  Columns that the record lacks have their standard
value. -/
def rowOf (encoding : Relational.Encoding) (definition : Relational.TableDefinition) (number : Int)
    (values : List Relational.Value) : Relational.Row :=
  let ground : Relational.Ground := { relations := { encoding, items := [] } }
  let order := columnOrder definition
  let stored (place : Nat) (column : Relational.ColumnDefinition) : Relational.Value :=
    let standard := match ground.value [] column.standard with
      | .ok value => Relational.Affinity.apply (definition.affinity column) value
      | .error _ => .null
    let value := ((order.idxOf? place).bind (values[·]?)).getD standard
    if definition.numberPlace? = some place then .integer number
    else if definition.affinity column = .real then Relational.Affinity.toReal value
    else value
  let row : Relational.Row := ⟨number, definition.columns.mapIdx stored⟩
  (definition.calculated ground row (!·.isKept)).toOption.getD row

/-- The rows of a table. -/
def rows? (image : Image) (encoding : Relational.Encoding)
    (definition : Relational.TableDefinition) (root : Nat) : Option (List Relational.Row) := do
  (← image.entries? (!definition.isUnnumbered) root).mapM fun entry => do
    return rowOf encoding definition entry.number (← record? encoding entry.payload)

/-- An item with its rows, or its name if they cannot be read. -/
def filled (image : Image) (encoding : Relational.Encoding) (item : Relational.Item) :
    Relational.Item × List String :=
  match item.kind, Relational.Definition.ofText? item.definition with
  | .table, some (.table definition) =>
    match image.rows? encoding definition item.root with
    | some rows => ({ item with rows }, [])
    | none => (item, [item.name])
  | _, _ => (item, [])

/-! ## Content -/

/-- What an image holds. -/
def content? (image : Image) : Option ImageContent := do
  let encoding ← image.encoding?
  let listed ← (← image.entries? true 1).mapM fun entry => do
    listed? (← record? encoding entry.payload)
  if listed.any fun entry => image.pageCount < entry.root then none
  if !areSound [] listed then none
  let filled := listed.map (image.filled encoding)
  return {
    relations := {
      encoding
      items := filled.map (·.1)
      pageCount := image.pageCount
      isFixed := decide (2 < (← image.number? 18 1)) }
    version := signed 32 (← image.number? 60 4)
    isLogged := (← image.number? 19 1) == 2
    lost := filled.flatMap (·.2) }

end Image

/-- What the image of a database in some bytes holds. -/
def ImageContent.ofBytes? (bytes : List UInt8) : Option ImageContent := do
  (← Image.ofBytes? bytes).content?

end SchemaPlan
