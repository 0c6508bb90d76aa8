import SchemaPlan.Relational.Answer

/-!
# Links between tables

A reference links the rows of a table to rows of the table that it refers to.  It must name a key of
that table.  A row with a value missing refers to nothing; any other one dangles when there is no
row with its key.
-/

set_option autoImplicit false

namespace SchemaPlan.Relational

/-- A table to which a reference leads. -/
structure Target where
  definition : TableDefinition
  rows : List Row
  /-- The places of the columns of the key. -/
  places : List Nat

namespace Relations

/-- The columns of a key, if it has only columns. -/
def keyColumns (key : Key) : List String :=
  key.terms.filterMap fun
    | .column [] name _ => some (Text.upper name)
    | _ => none

/-- Whether names are the columns of a key of all rows of a table. -/
def isKey (relations : Relations) (definition : TableDefinition) (names : List String) :
    Except Trouble Bool := do
  let keys := definition.keys ++ (← relations.indexKeys definition.name)
  let names := names.map Text.upper
  return keys.any fun key =>
    let columns := keyColumns key
    key.condition.isNone && columns.length == key.terms.length &&
      columns.length == names.length && columns.all (names.contains ·)

/-- The columns to which a reference leads. -/
def targetNames (definition : TableDefinition) (reference : Reference) : List String :=
  reference.targets.getD (definition.primary.filterMap fun
    | .column [] name _ => some name
    | _ => none)

/-- The table to which a reference leads. -/
def target (relations : Relations) (reference : Reference) : Except Trouble Target := do
  let (definition, rows) ← relations.table reference.table
  let names := targetNames definition reference
  let places := names.filterMap definition.place?
  let isFitting := places.length == names.length && names.length == reference.columns.length
  if isFitting && (← relations.isKey definition names) then return ⟨definition, rows, places⟩
  else throw (.mismatch)

/-- The values of the columns of a reference in a row, unless one is missing. -/
def referring? (definition : TableDefinition) (reference : Reference) (row : Row) :
    Option (List Value) :=
  let values := reference.columns.map fun column =>
    ((definition.place? column).bind (row.values[·]?)).getD .null
  if values.contains .null then none else some values

/-- Whether the key of a row of a target has some values. -/
def hasKey (relations : Relations) (target : Target) (values : List Value) (row : Row) : Bool :=
  (target.places.zip values).all fun (place, value) =>
    match target.definition.columns[place]?, row.values[place]? with
    | some column, some found =>
      let value := Affinity.apply (target.definition.affinity column) value
      Value.compareBy column.collation relations.encoding value found == .eq
    | _, _ => false

/-- The tables of the database. -/
def tables (relations : Relations) : Except Trouble (List (TableDefinition × List Row)) :=
  (relations.items.filter (·.kind == .table)).filterMapM fun item => do
    match Definition.ofText? item.definition with
    | some (.table definition) => return some (definition, item.rows)
    | _ => return none

/-- The rows that refer to a row that is not there, with their tables and references.  References
that lead nowhere do not count. -/
def dangling (relations : Relations) : Except Trouble (List (String × Reference × Row)) := do
  let found ← (← relations.tables).mapM fun (definition, rows) =>
    definition.references.mapM fun reference => do
      match relations.target reference with
      | .error _ => return []
      | .ok target =>
        return (rows.filter fun row =>
          match referring? definition reference row with
          | some values => !target.rows.any (relations.hasKey target values)
          | none => false).map fun row => (definition.name, reference, row)
  return found.flatten.flatten

/-- The number of rows that a change of relations has left dangling. -/
def newlyDangling (before after : Relations) : Except Trouble Nat := do
  let known ← before.dangling
  return ((← after.dangling).filter (· ∉ known)).length

/-- Why rows cannot be left dangling. -/
def brokenLink : Trouble := .broken .abort "FOREIGN KEY constraint failed"

/-- Checks that a change of relations has left no further row dangling. -/
def checkLinks (before after : Relations) : Except Trouble Unit := do
  if (← newlyDangling before after) ≠ 0 then throw brokenLink

/-- The number of links of the rows of a table to tables that are not there. -/
def linksToNowhere (relations : Relations) (name : String) : Except Trouble Nat := do
  let (definition, rows) ← relations.table name
  let isMissing (reference : Reference) : Bool :=
    (relations.item? .table reference.table).isNone &&
      (relations.item? .view reference.table).isNone
  return (((definition.references.filter isMissing).flatMap fun reference =>
    rows.filterMap (referring? definition reference))).length

/-- The references to a table, with the tables that have them. -/
def referencesTo (relations : Relations) (table : String) :
    Except Trouble (List (TableDefinition × Reference)) := do
  return (← relations.tables).flatMap fun (definition, _) =>
    (definition.references.filter fun reference =>
      Text.sameIgnoringCase reference.table table).map (definition, ·)

/-- Whether a change at an event concerns one of some columns.  An insertion and a deletion concern
all of them. -/
def concerns (event : Event) (names : List String) : Bool :=
  match event with
  | .update columns => names.any fun name => columns.any (Text.sameIgnoringCase name)
  | .insertion | .deletion => true

/-- Checks that the references that a change of a table concerns lead to keys.  An insertion does
not concern references to the table. -/
def checkReferences (relations : Relations) (table : String) (event : Event) :
    Except Trouble Unit := do
  let (definition, _) ← relations.table table
  definition.references.forM fun reference => do
    if concerns event reference.columns then
      let _ ← relations.target reference
  if event ≠ .insertion then
    (← relations.referencesTo table).forM fun (_, reference) => do
      if concerns event (targetNames definition reference) then
        let _ ← relations.target reference

end Relations

/-! ## Following references -/

namespace Reference

/-- That the columns of a reference have some values. -/
def condition (reference : Reference) (values : List Value) : Option Expression :=
  ((reference.columns.zip values).map fun (column, value) =>
    Expression.apply .equal (.ofColumn column) (.literal value)).foldr
      (fun first rest => some ((rest.map (Expression.apply .and first)).getD first)) none

/-- The statement that follows a change of a row to which rows of a table refer, given the values
of its key before and after. -/
def statement? (reference : Reference) (definition : TableDefinition) (before : List Value)
    (after : Option (List Value)) : Option Statement :=
  let condition := reference.condition before
  let subject : Subject := { table := definition.name }
  let update (value : String → Option Expression) : Option Statement :=
    let assignments := reference.columns.map fun column : String =>
      ({ columns := [column], value := (value column).getD (.literal .null) } : Assignment)
    some (.update { subject, assignments, condition })
  if before.contains .null || after == some before then none
  else
    match if after.isNone then reference.onDelete else reference.onUpdate, after with
    | .refuse, _ => none
    | .cascade, none => some (.delete { subject, condition })
    | .cascade, some after => update fun column =>
      ((reference.columns.zip after).lookup column).map .literal
    | .setNull, _ => update fun _ => none
    | .setStandard, _ => update fun column =>
      (definition.columns.find? fun other => Text.sameIgnoringCase other.name column).map
        (·.standard)

end Reference

namespace Relations

/-- The statements that follow a change of a row of a table. -/
def following (relations : Relations) (table : String) (before : List Value)
    (after : Option (List Value)) : Except Trouble (List Statement) := do
  (← relations.referencesTo table).filterMapM fun (definition, reference) => do
    match relations.target reference with
    | .error _ => return none
    | .ok target =>
      let key (values : List Value) : List Value := target.places.filterMap (values[·]?)
      return reference.statement? definition (key before) (after.map key)

end Relations

end SchemaPlan.Relational
