import SchemaPlan.Relational.Interpreting.Shared

/-!
# Answers of queries

A query is answered with rows of values.  It may stand inside of levels whose rows are known
beforehand.  The names in a query must be known even where there are no rows.
-/

set_option autoImplicit false

namespace SchemaPlan.Relational

/-! ## Expressions -/

namespace Ground

/-- The meaning of an expression on given levels. -/
def meaning (ground : Ground) (levels : List Level) (expression : Expression) :
    Except Trouble Meaning := do
  let (meaning, _) ← (Interpreter.full.expression ground expression).run levels
  return meaning

/-- The value of an expression on levels whose rows are known beforehand. -/
def value (ground : Ground) (levels : List Level) (expression : Expression) :
    Except Trouble Value := do
  (← ground.meaning levels expression).value []

/-- Whether an expression, if there is one, is true on levels whose rows are known beforehand. -/
def allows (ground : Ground) (levels : List Level) (condition : Option Expression) :
    Except Trouble Bool :=
  match condition with
  | some condition => do return (← ground.value levels condition).isTrue
  | none => .ok true

/-! ## Queries -/

/-- The plan of a query on given levels. -/
def plan (ground : Ground) (levels : List Level) (query : Query) : Except Trouble Plan := do
  let (plan, _) ← (Interpreter.full.query ground query).run levels
  return plan

/-- The rows of values that answer a query on levels whose rows are known beforehand. -/
def answer (ground : Ground) (levels : List Level) (query : Query) :
    Except Trouble (List (List Value)) := do
  (← (← ground.plan levels query).rows []).mapM Plan.valuesOf

end Ground

namespace Relations

/-- The relations as what queries stand on. -/
def ground (relations : Relations) : Ground := { relations }

/-- The rows of values that answer a query. -/
def answer (relations : Relations) (query : Query) : Except Trouble (List (List Value)) :=
  relations.ground.answer [] query

/-- The columns of a table or a view. -/
def headsIn (relations : Relations) (name : String) : Except Trouble (List Head) := do
  match ← relations.view? name with
  | some (columns, query) =>
    let plan ← Interpreter.full.viewPlan relations.ground name columns query
    return plan.columns.map Column.head
  | none => return (← relations.table name).1.heads

end Relations

/-! ## Tables of queries -/

/-- The tables and views from which a source takes rows, looked at up to a depth. -/
def Source.tables : Nat → Source → List String
  | 0, _ => []
  | _ + 1, .table _ name _ => [name]
  | _ + 1, .function .. => []
  | depth + 1, .query inner _ =>
    let shared := inner.shared.flatMap (·.query.selections)
    ((inner.selections ++ shared).filterMap (·.source)).flatMap (tables depth)
  | depth + 1, .join _ left right _ => tables depth left ++ tables depth right

/-- The tables of which rows are read when a table or a view is, where views may stand on each
other up to a depth. -/
def Relations.tablesWithin (relations : Relations) : Nat → String → List String
  | 0, _ => []
  | depth + 1, name =>
    match relations.view? name with
    | .ok (some (_, query)) =>
      (Source.tables Source.maxDepth (.query query none)).flatMap (relations.tablesWithin depth)
    | _ => if (relations.item? .table name).isSome then [name] else []

/-- The tables of which rows are read when a table or a view is. -/
def Relations.tablesOf (relations : Relations) (name : String) : List String :=
  match relations.view? name with
  | .ok (some _) => (relations.tablesWithin (relations.items.length + 1) name).eraseDups
  | _ => [name]

/-! ## Rows of tables -/

namespace TableDefinition

/-- The level of a row of a table. -/
def level (definition : TableDefinition) (name : String) (row : Row) : Level where
  seats := [definition.seat name]
  row? := some (definition.cells row)

/-- The value of an expression about a row of a table, converted for a column. -/
def derived (definition : TableDefinition) (ground : Ground) (row : Row)
    (column : ColumnDefinition) (formula : Expression) : Except Trouble Value := do
  let value ← ground.value [definition.level definition.name row] formula
  return Affinity.apply (definition.affinity column) value

/-- A row with the values that its formulas give, given what is taken for a formula without value.
Every formula may look at those before and after it. -/
def calculated (definition : TableDefinition) (ground : Ground) (row : Row)
    (isMeant : ColumnDefinition → Bool) : Except Trouble Row :=
  let formulas := definition.columns.zipIdx.filterMap fun (column, place) =>
    if isMeant column then column.formula.map (column, place, ·) else none
  (List.replicate formulas.length formulas).flatten.foldlM (fun row (column, place, formula) => do
    let value ← definition.derived ground row column formula
    return { row with values := row.values.set place value }) row

end TableDefinition

end SchemaPlan.Relational
