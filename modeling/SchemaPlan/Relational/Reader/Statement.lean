import SchemaPlan.Relational.Reader.Query
import SchemaPlan.Relational.Reader.Table
import SchemaPlan.Relational.Statement

/-!
# Reading statements and definitions

A statement that changes rows names the table and may say what becomes of rows that break a rule.
A definition is written as a statement that makes a table, an index, a view or a trigger.
-/

set_option autoImplicit false

namespace SchemaPlan.Relational.Reader

/-! ## Parts -/

/-- Reads what becomes of the changes of a statement that break a rule. -/
def orResolution : Reader (Option Resolution) := after "OR" resolution

/-- Reads the table that a statement changes. -/
def subject : Reader Subject := do
  let (database, table) ← located
  return { database, table, byname := ← after "AS" name }

/-- Reads an assignment to columns. -/
def assignment : Reader Assignment := do
  let columns ← if ← seesSymbol "(" then bracketed name else pure [← name]
  symbol "="
  return { columns, value := ← expression }

/-- Reads assignments to columns. -/
def assignments : Reader (List Assignment) := do
  word "SET"
  list assignment (← get).length

/-- Reads which values of changed rows are returned. -/
def returned : Reader (List Wanted) := do
  if ← skipWord "RETURNING" then nesting fun nested => do list (wanted nested) (← get).length
  else return []

/-- Reads the key whose repetition is provided for. -/
def target : Reader (List Expression × Option Expression) := do
  let terms ← bracketed do
    let term ← expression
    let _ ← isDescending
    return term
  return (terms, ← after "WHERE" expression)

/-- Reads what is done with rows that repeat others.  Only the last provision can be without a
key. -/
def upserts : Nat → Reader (List Upsert)
  | 0 => failure
  | fuel + 1 => do
    if ← skipWords ["ON", "CONFLICT"] then
      let target ← if ← seesSymbol "(" then some <$> target else pure none
      word "DO"
      let update ←
        if ← skipWord "NOTHING" then pure none
        else
          word "UPDATE"
          let assignments ← assignments
          pure (some (assignments, ← after "WHERE" expression))
      let others ← if target.isNone then pure [] else upserts fuel
      return { target, update } :: others
    else return []

/-! ## Statements -/

/-- Reads an insertion after the keywords for it. -/
def insertion (shared : List Shared) (resolution : Option Resolution) : Reader Insertion := do
  word "INTO"
  let subject ← subject
  let columns ← if ← seesSymbol "(" then some <$> bracketed name else pure none
  if ← skipWords ["DEFAULT", "VALUES"] then
    return { shared, resolution, subject, columns, returned := ← returned }
  else
    let rows ← query
    let upserts ← upserts ((← get).length + 1)
    return { shared, resolution, subject, columns, rows, upserts, returned := ← returned }

/-- Reads an update after the keyword for it. -/
def updating (shared : List Shared) : Reader Updating := do
  let resolution ← orResolution
  let subject ← subject
  indexed
  let assignments ← assignments
  let source ← after "FROM" (nesting fun nested => do joined nested (2 * (← get).length + 2))
  let condition ← after "WHERE" expression
  return { shared, resolution, subject, assignments, source, condition, returned := ← returned }

/-- Reads a deletion after the keyword for it. -/
def deletion (shared : List Shared) : Reader Deletion := do
  word "FROM"
  let subject ← subject
  indexed
  let condition ← after "WHERE" expression
  return { shared, subject, condition, returned := ← returned }

/-- Reads a statement. -/
def statement : Reader Statement := do
  let before ← get
  let shared ← nesting fun nested => sharedQueries nested
  if ← skipWord "INSERT" then .insert <$> insertion shared (← orResolution)
  else if ← skipWord "REPLACE" then .insert <$> insertion shared (some .replace)
  else if ← skipWord "UPDATE" then .update <$> updating shared
  else if ← skipWord "DELETE" then .delete <$> deletion shared
  else
    set before
    return .query (← query)

/-- Reads the removal of a table. -/
def removal : Reader Removal := do
  words ["DROP", "TABLE"]
  let isOptional ← skipWords ["IF", "EXISTS"]
  let (database, table) ← located
  return { subject := { database, table }, isOptional }

/-- What the rest after a statement must be: nothing, or the end of the statement. -/
def isEnded (rest : List (Token × List Char)) : Bool :=
  match rest with
  | [] => true
  | [(.symbol ";", [';'])] => true
  | _ => false

end Reader

/-- The statement that a text writes, with the number of its parameters. -/
def Statement.ofText? (text : String) : Option (Statement × Nat) := do
  let (tokens, count) ← Token.numbered? [] (← Token.ofText? text)
  let (statement, rest) ← Reader.statement.run tokens
  if Reader.isEnded rest then some (statement, count) else none

/-- The removal that a text writes. -/
def Removal.ofText? (text : String) : Option Removal := do
  let (removal, rest) ← Reader.removal.run (← Token.ofText? text)
  if Reader.isEnded rest then some removal else none

/-! ## Definitions -/

namespace Reader

/-- Reads an index. -/
def index (isUnique : Bool) : Reader Definition := do
  let name ← name
  word "ON"
  let table ← Reader.name
  let terms ← terms
  let condition ← after "WHERE" expression
  return .index name table isUnique { terms, condition }

/-- Reads a view. -/
def view : Reader Definition := do
  let name ← name
  let columns ← if ← seesSymbol "(" then some <$> bracketed Reader.name else pure none
  word "AS"
  return .view name columns (← query)

/-- Reads when a trigger runs. -/
def moment : Reader Moment := do
  if ← skipWord "BEFORE" then return .before
  else if ← skipWords ["INSTEAD", "OF"] then return .instead
  else
    let _ ← skipWord "AFTER"
    return .after

/-- Reads the change for which a trigger runs. -/
def event : Reader Event := do
  if ← skipWord "INSERT" then return .insertion
  else if ← skipWord "DELETE" then return .deletion
  else
    word "UPDATE"
    let columns ← after "OF" (do list name (← get).length)
    return .update (columns.getD [])

/-- Reads the statements of a trigger up to its end. -/
def body : Nat → Reader (List Statement)
  | 0 => failure
  | fuel + 1 => do
    if ← skipWord "END" then return []
    else
      let first ← statement
      symbol ";"
      return first :: (← body fuel)

/-- Reads a trigger. -/
def trigger : Reader Definition := do
  let name ← name
  let moment ← moment
  let event ← event
  word "ON"
  let table ← Reader.name
  let _ ← skipWords ["FOR", "EACH", "ROW"]
  let condition ← after "WHEN" expression
  word "BEGIN"
  let body ← body (← get).length
  return .trigger { name, moment, event, table, condition, body }

/-- Reads that something is only to be made if it is missing. -/
def ifMissing : Reader Unit := do
  let _ ← skipWords ["IF", "NOT", "EXISTS"]

/-- Reads a definition. -/
def definition : Reader Definition := do
  word "CREATE"
  if ← skipWord "TABLE" then
    ifMissing
    return .table (← table)
  else if ← skipWord "INDEX" then
    ifMissing
    index false
  else if ← skipWords ["UNIQUE", "INDEX"] then
    ifMissing
    index true
  else if ← skipWord "VIEW" then
    ifMissing
    view
  else
    word "TRIGGER"
    ifMissing
    trigger

end Reader

/-- The definition that a text writes. -/
def Definition.ofText? (text : String) : Option Definition := do
  let (definition, rest) ← Reader.definition.run (← Token.ofText? text)
  if rest.all fun (token, _) => token == .symbol ";" then some definition else none

end SchemaPlan.Relational
