import SchemaPlan.Relational.Check

/-!
# Rules of tables

A row comes into a table if it keeps the rules of the table: required values, declared types,
checks and keys.  A row that breaks one is left out, takes the place of others or breaks off the
change, as the rule or the statement says.
-/

set_option autoImplicit false

namespace SchemaPlan.Relational

/-- A change of relations under way. -/
abbrev Change (Value : Type) : Type := ExceptT Trouble (StateM Relations) Value

namespace Change

variable {Result : Type}

/-- A change that is given by its result. -/
def ofExcept (result : Except Trouble Result) : Change Result := ExceptT.mk (return result)

/-- What a query about the relations finds. -/
def ask (question : Relations → Except Trouble Result) : Change Result := do
  ofExcept (question (← get))

/-- The rows of a table. -/
def rows (table : String) : Change (List Row) := do return (← ask (·.table table)).2

/-- Puts rows in the place of the rows of a table. -/
def setRows (name : String) (rows : List Row) : Change Unit :=
  modify fun relations => relations.withRows name rows

/-- Breaks off a change for which a rule has no other way. -/
def breakOff (resolution : Resolution) (message : String) : Change Result :=
  throw (.broken resolution message)

/-! ## Values -/

/-- The values of a row with the standard value in the place of a required one that is missing. -/
def fillRequired (resolution : Option Resolution) (ground : Ground) :
    List (ColumnDefinition × Value) → Change (Option (List Value))
  | [] => return some []
  | (column, value) :: rest => do
    if column.isRequired && value == .null then
      match resolution.getD column.onMissing with
      | .ignore => return none
      | .replace =>
        let standard ← ofExcept (ground.value [] column.standard)
        if standard == .null then breakOff .abort ("NOT NULL constraint failed: " ++ column.name)
        else return (← fillRequired resolution ground rest).map (standard :: ·)
      | other => breakOff other ("NOT NULL constraint failed: " ++ column.name)
    else return (← fillRequired resolution ground rest).map (value :: ·)

/-- Whether a value has the declared type of a column of a strict table. -/
def hasType (declared : String) : Value → Bool
  | .null => true
  | .integer _ => ["INT", "INTEGER", "ANY"].contains (Text.upper declared)
  | .real _ => ["REAL", "ANY"].contains (Text.upper declared)
  | .text _ | .garbled _ => ["TEXT", "ANY"].contains (Text.upper declared)
  | .blob _ => ["BLOB", "ANY"].contains (Text.upper declared)

/-- Checks that the values of a row have the declared types, if the table is strict. -/
def checkTypes (definition : TableDefinition) (values : List Value) : Change Unit := do
  let typed := definition.columns.zip values
  if definition.isStrict && !typed.all fun (column, value) => hasType column.declared value then
    breakOff .abort "cannot store value"

/-! ## Keys -/

/-- A key whose terms have been understood. -/
structure Lock where
  terms : List Meaning
  condition : Option Meaning
  onRepeated : Resolution
  /-- What the statement does with a row that repeats another one. -/
  upsert : Option Upsert := none

namespace Lock

/-- The lock of a key of a table. -/
def ofKey (ground : Ground) (definition : TableDefinition) (key : Key) : Except Trouble Lock := do
  let level : Level := { seats := [definition.seat definition.name] }
  return {
    terms := ← key.terms.mapM (ground.meaning [level])
    condition := ← key.condition.mapM (ground.meaning [level])
    onRepeated := key.onRepeated }

/-- The values of the key in a row, unless the row does not satisfy the condition of the key or
lacks one of them. -/
def values? (lock : Lock) (definition : TableDefinition) (row : Row) :
    Except Trouble (Option (List Value)) := do
  let stand : Stand := [{ row := definition.cells row }]
  if !(← Meaning.allows lock.condition stand) then return none
  let values ← Meaning.values lock.terms stand
  return if values.contains .null then none else some values

/-- The rows that have the same values of the key as a row. -/
def repeating (lock : Lock) (encoding : Encoding) (definition : TableDefinition) (row : Row)
    (rows : List Row) : Except Trouble (List Row) := do
  match ← lock.values? definition row with
  | none => return []
  | some values =>
    let directions := Direction.ofCollations
      (lock.terms.map fun meaning => meaning.collation.getD .binary)
    rows.filterM fun other => do
      match ← lock.values? definition other with
      | none => return false
      | some others => return Direction.compareAll encoding directions values others == .eq

end Lock

/-- What the rules of a table say about a row. -/
inductive Verdict where
  /-- The row can be added to others. -/
  | admitted (others : List Row)
  | leftOut
  /-- The row repeats another one, with which something else is done. -/
  | repeated (upsert : Upsert) (other : Row)

/-- Makes room for a row among the rows that it would repeat, which are removed if they are to be
replaced. -/
def makeRoom (resolution : Option Resolution) (encoding : Encoding) (definition : TableDefinition)
    (row : Row) : List Lock → List Row → Change Verdict
  | [], rows => return .admitted rows
  | lock :: rest, rows => do
    match ← ofExcept (lock.repeating encoding definition row rows) with
    | [] => makeRoom resolution encoding definition row rest rows
    | other :: repeated =>
      match lock.upsert, resolution.getD lock.onRepeated with
      | some upsert, _ => return if upsert.update.isSome then .repeated upsert other else .leftOut
      | none, .ignore => return .leftOut
      | none, .replace =>
        makeRoom resolution encoding definition row rest (rows.filter (· ∉ other :: repeated))
      | none, resolution => breakOff resolution "UNIQUE constraint failed"

/-- The locks of a table, those first for the repetition of which something is provided. -/
def locks (ground : Ground) (definition : TableDefinition) (upserts : List Upsert) :
    Except Trouble (List Lock) := do
  let keys := definition.keysWith (← ground.relations.indexKeys definition.name)
  let found ← keys.mapM fun key => do
    let lock ← Lock.ofKey ground definition key
    return { lock with upsert := upserts.find? (·.concerns definition key) }
  return found.filter (·.upsert.isSome) ++ found.filter (·.upsert.isNone)

/-! ## Rows -/

/-- Puts a row in its place among rows: by its number, or by its primary key if it has none. -/
def place (ground : Ground) (definition : TableDefinition) (row : Row) (rows : List Row) :
    Except Trouble (List Row) := do
  if !definition.isUnnumbered then
    return rows.filter (fun other => decide (other.number ≤ row.number)) ++
      row :: rows.filter fun other => decide (row.number < other.number)
  let lock ← Lock.ofKey ground definition { terms := definition.primary }
  let directions := Direction.ofCollations
    (lock.terms.map fun meaning => meaning.collation.getD .binary)
  let values ← Meaning.values lock.terms [{ row := definition.cells row }]
  let isBefore (other : Row) : Except Trouble Bool := do
    let others ← Meaning.values lock.terms [{ row := definition.cells other }]
    return (Direction.compareAll ground.encoding directions others values).isLE
  let before ← rows.filterM isBefore
  let after ← rows.filterM fun other => do return !(← isBefore other)
  return before ++ row :: after

/-- Whether a check fails for a row.  A missing value passes. -/
def failsCheck (ground : Ground) (definition : TableDefinition) (row : Row) (check : Expression) :
    Except Trouble Bool := do
  return (← ground.value [definition.level definition.name row] check).isFalse

/-- What the rules of a table say about a row beside others, with the row as it would be added. -/
def judge (resolution : Option Resolution) (upserts : List Upsert) (definition : TableDefinition)
    (row : Row) (others : List Row) : Change (Verdict × Row) := do
  let ground := (← get).ground
  match ← fillRequired resolution ground (definition.columns.zip row.values) with
  | none => return (.leftOut, row)
  | some values =>
    let row := { row with values }
    checkTypes definition values
    if ← ofExcept (definition.checks.anyM (failsCheck ground definition row)) then
      match resolution with
      | some .ignore => return (.leftOut, row)
      | some .replace | none => breakOff .abort "CHECK constraint failed"
      | some other => breakOff other "CHECK constraint failed"
    let locks ← ofExcept (locks ground definition upserts)
    return (← makeRoom resolution ground.encoding definition row locks others, row)

/-- Adds a row to others of a table. -/
def add (definition : TableDefinition) (row : Row) (others : List Row) : Change Unit := do
  let rows ← ofExcept (place (← get).ground definition row others)
  setRows definition.name rows

end Change

end SchemaPlan.Relational
