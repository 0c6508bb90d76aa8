import SchemaPlan.Relational.Reader.Query
import SchemaPlan.Relational.Statement

/-!
# Reading tables

A table has columns with rules and further rules after the columns.  What is read of it is a draft,
from which the table is made at the end.
-/

set_option autoImplicit false

namespace SchemaPlan.Relational.Reader

/-- Reads what becomes of a change that breaks a rule of a table. -/
def onConflict : Reader Resolution := do
  if ← skipWords ["ON", "CONFLICT"] then resolution else return .abort

/-- Reads a term of a key. -/
def term : Reader Expression := do
  let term ← expression
  let _ ← isDescending
  return term

/-- Reads the terms of a key in brackets. -/
def terms : Reader (List Expression) := bracketed term

/-- Reads the terms of a primary key in brackets, and returns whether numbers are never used
again. -/
def primaryTerms : Reader (List Expression × Bool) := do
  symbol "("
  let items ← list term (← get).length
  let isCounted ← skipWord "AUTOINCREMENT"
  symbol ")"
  return (items, isCounted)

/-- Reads what becomes of rows that refer to a row. -/
def action : Reader Action := do
  if ← skipWords ["SET", "NULL"] then return .setNull
  else if ← skipWords ["SET", "DEFAULT"] then return .setStandard
  else if ← skipWord "CASCADE" then return .cascade
  else if ← skipWords ["NO", "ACTION"] then return .refuse
  else
    word "RESTRICT"
    return .refuse

/-- Reads when a reference is looked after, if that comes next. -/
def skipDeferral : Reader Bool := do
  if (← skipWords ["NOT", "DEFERRABLE"]) || (← skipWord "DEFERRABLE") then
    if ← skipWord "INITIALLY" then
      let _ ← name
    return true
  else return false

/-- Reads the rest of a reference to another table. -/
def referenceRules : Nat → Reference → Reader Reference
  | 0, reference => return reference
  | fuel + 1, reference => do
    if ← skipWords ["ON", "DELETE"] then
      referenceRules fuel { reference with onDelete := ← action }
    else if ← skipWords ["ON", "UPDATE"] then
      referenceRules fuel { reference with onUpdate := ← action }
    else if ← skipWord "MATCH" then
      let _ ← name
      referenceRules fuel reference
    else if ← skipDeferral then referenceRules fuel reference
    else return reference

/-- Reads a reference of some columns to another table. -/
def reference (columns : List String) : Reader Reference := do
  let table ← name
  let targets ← if ← seesSymbol "(" then some <$> bracketed name else pure none
  referenceRules (← get).length { columns, table, targets }

/-- The parts of a table that have been read. -/
structure Draft where
  columns : List ColumnDefinition := []
  keys : List Key := []
  references : List Reference := []
  checks : List Expression := []
  /-- Whether the primary key is declared with a column in descending order. -/
  isDescending : Bool := false
  /-- Whether numbers of rows are never used again. -/
  isCounted : Bool := false

/-- The terms of the primary key. -/
def Draft.primary (draft : Draft) : List Expression :=
  (draft.keys.filter (·.isPrimary)).flatMap (·.terms)

/-- Reads a constant. -/
def constant : Reader Expression := do
  match ← next with
  | .constant value => return .literal value
  | .edge => return .edge
  | _ => failure

/-- Reads the value that a column has if none is given. -/
def standard : Reader Expression := do
  if ← seesSymbol "(" then enclosed
  else if ← skipSymbol "-" then .negate <$> constant
  else if ← skipSymbol "+" then constant
  else
    match ← peek? with
    | some (.word keyword) =>
      modify (·.drop 1)
      match Text.upper keyword with
      | "NULL" => return .literal .null
      | "TRUE" => return .ofBool true
      | "FALSE" => return .ofBool false
      | "CURRENT_DATE" | "CURRENT_TIME" | "CURRENT_TIMESTAMP" => return .ofCall keyword []
      | _ => return .ofText keyword
    | some (.quoted text _) =>
      modify (·.drop 1)
      return .ofText text
    | _ => constant

/-- Reads the formula of a column, which may be kept in the rows. -/
def formula (column : ColumnDefinition) : Reader ColumnDefinition := do
  let formula ← enclosed
  let isKept ← skipWord "STORED"
  if !isKept then
    let _ ← skipWord "VIRTUAL"
  return { column with formula, isKept }

/-- Reads the rules of a column. -/
def columnRules : Nat → ColumnDefinition → Draft → Reader (ColumnDefinition × Draft)
  | 0, _, _ => failure
  | fuel + 1, column, draft => do
    let withKey (isPrimary : Bool) (onRepeated : Resolution) : Draft :=
      { draft with keys :=
          draft.keys ++ [{ terms := [.ofColumn column.name], isPrimary, onRepeated }] }
    if ← skipWord "CONSTRAINT" then
      let _ ← name
      columnRules fuel column draft
    else if ← skipWords ["PRIMARY", "KEY"] then
      let isDescending ← isDescending
      let onRepeated ← onConflict
      let isCounted ← skipWord "AUTOINCREMENT"
      columnRules fuel column { withKey true onRepeated with isDescending, isCounted }
    else if ← skipWords ["NOT", "NULL"] then
      let onMissing ← onConflict
      columnRules fuel { column with isRequired := true, onMissing } draft
    else if ← skipWord "NULL" then
      let _ ← onConflict
      columnRules fuel column draft
    else if ← skipWord "UNIQUE" then
      let onRepeated ← onConflict
      columnRules fuel column (withKey false onRepeated)
    else if ← skipWord "CHECK" then
      let check ← enclosed
      let _ ← onConflict
      columnRules fuel column { draft with checks := draft.checks ++ [check] }
    else if ← skipWord "DEFAULT" then
      columnRules fuel { column with standard := ← standard } draft
    else if ← skipWord "COLLATE" then
      match Collation.ofName? (← name) with
      | some collation => columnRules fuel { column with collation } draft
      | none => failure
    else if ← skipWord "REFERENCES" then
      let reference ← reference [column.name]
      columnRules fuel column { draft with references := draft.references ++ [reference] }
    else if (← skipWords ["GENERATED", "ALWAYS", "AS"]) || (← skipWord "AS") then
      columnRules fuel (← formula column) draft
    else if ← skipDeferral then columnRules fuel column draft
    else return (column, draft)

/-- Reads the columns and the rules of a table. -/
def tableItems : Nat → Draft → Reader Draft
  | 0, _ => failure
  | fuel + 1, draft => do
    let draft ← do
      if ← skipWord "CONSTRAINT" then
        let _ ← name
        pure draft
      else if ← skipWords ["PRIMARY", "KEY"] then
        let (terms, isCounted) ← primaryTerms
        let key : Key := { terms, isPrimary := true, onRepeated := ← onConflict }
        pure { draft with keys := draft.keys ++ [key], isCounted }
      else if ← skipWord "UNIQUE" then
        let terms ← terms
        pure { draft with keys := draft.keys ++ [{ terms, onRepeated := ← onConflict }] }
      else if ← skipWord "CHECK" then
        let check ← enclosed
        let _ ← onConflict
        pure { draft with checks := draft.checks ++ [check] }
      else if ← skipWords ["FOREIGN", "KEY"] then
        let columns ← bracketed name
        word "REFERENCES"
        let reference ← reference columns
        pure { draft with references := draft.references ++ [reference] }
      else
        let column ← name
        let declared ← typeName
        let (column, draft) ← columnRules fuel { name := column, declared } draft
        pure { draft with columns := draft.columns ++ [column] }
    let _ ← skipSymbol ","
    if ← skipSymbol ")" then return draft else tableItems fuel draft

/-- Reads the options of a table: whether its rows have no numbers and whether it is strict. -/
def options : Nat → Bool × Bool → Reader (Bool × Bool)
  | 0, _ => failure
  | fuel + 1, (isUnnumbered, isStrict) => do
    let _ ← skipSymbol ","
    if ← skipWords ["WITHOUT", "ROWID"] then options fuel (true, isStrict)
    else if ← skipWord "STRICT" then options fuel (isUnnumbered, true)
    else return (isUnnumbered, isStrict)

/-- Whether a primary key is one column of whole numbers. -/
def isNumber (draft : Draft) (isUnnumbered : Bool) : Bool :=
  !isUnnumbered && !draft.isDescending &&
    match draft.primary with
    | [.column [] name _] => draft.columns.any fun column =>
      Text.sameIgnoringCase column.name name && Text.sameIgnoringCase column.declared "INTEGER"
    | _ => false

/-- Whether a column is one of some terms. -/
def isIn (terms : List Expression) (column : ColumnDefinition) : Bool :=
  terms.any fun
    | .column [] name _ | .collate (.column [] name _) _ =>
      Text.sameIgnoringCase column.name name
    | _ => false

/-- Reads a table. -/
def table : Reader TableDefinition := do
  let name ← name
  symbol "("
  let fuel := (← get).length
  let draft ← tableItems fuel {}
  let (isUnnumbered, isStrict) ← options fuel (false, false)
  if isUnnumbered && draft.primary.isEmpty then failure
  let hasNumber := isNumber draft isUnnumbered
  let columns := draft.columns.map fun column =>
    if (isUnnumbered || isStrict) && !hasNumber && isIn draft.primary column then
      { column with isRequired := true }
    else column
  return {
    name, columns, hasNumber, isStrict, isUnnumbered
    isCounted := draft.isCounted
    keys := draft.keys
    references := draft.references
    checks := draft.checks }

end SchemaPlan.Relational.Reader
