import SchemaPlan.Relational.Interpreting.Query

/-!
# The meaning of shared queries

A shared query may take rows from itself.  Its first selections give the rows to begin with; the
others are then asked for further rows for one row after the other, until there are none left.
-/

set_option autoImplicit false

namespace SchemaPlan.Relational

/-! ## Mentions -/

/-- Whether a source takes rows from a query with a name, looked at up to a depth. -/
def Source.mentions (name : String) : Nat → Source → Bool
  | 0, _ => false
  | _ + 1, .table database other _ => database.isNone && Text.sameIgnoringCase other name
  | _ + 1, .function .. => false
  | depth + 1, .query inner _ =>
    (inner.selections.filterMap (·.source)).any (mentions name depth)
  | depth + 1, .join _ left right _ => mentions name depth left || mentions name depth right

/-- How deep sources are looked at. -/
def Source.maxDepth : Nat := 100

/-- Whether a selection takes rows from a query with a name. -/
def Selection.mentions (name : String) (selection : Selection) : Bool :=
  selection.source.any (Source.mentions name Source.maxDepth)

/-! ## Rows -/

/-- How a query takes rows from itself. -/
structure Recurrence where
  encoding : Encoding
  /-- How rows are told apart, if no row may come twice. -/
  apart : Option (List Direction)
  /-- The places and directions of the keys by which the rows are taken. -/
  keys : List (Nat × Direction)
  /-- The further rows for a row. -/
  next : Array Cell → Except Trouble (List (Array Cell))

namespace Recurrence

/-- A row with its values, if they are needed to tell rows apart. -/
def valued (recurrence : Recurrence) (cells : Array Cell) : Except Trouble (List Value) :=
  if recurrence.apart.isSome then Plan.valuesOf cells else .ok []

/-- The rows that have not come yet, and the values of all that have. -/
def fresh (recurrence : Recurrence) (seen : List (List Value)) (rows : List (Array Cell)) :
    Except Trouble (List (Array Cell) × List (List Value)) :=
  match recurrence.apart with
  | none => .ok (rows, seen)
  | some directions =>
    rows.foldlM (fun (kept, seen) cells => do
      let values ← recurrence.valued cells
      let isKnown := seen.any fun other =>
        Direction.compareAll recurrence.encoding directions values other == .eq
      return if isKnown then (kept, seen) else (kept ++ [cells], values :: seen)) ([], seen)

/-- The rows that come one after the other, at most as many as given.  Then there is a row without
values. -/
def rows (recurrence : Recurrence) :
    Nat → List (Array Cell) → List (List Value) → List (Array Cell) →
      Except Trouble (List (Array Cell))
  | _, [], _, found => .ok found.reverse
  | 0, cells :: _, _, found =>
    .ok ((cells.map fun _ => .error .tooGreat) :: found).reverse
  | fuel + 1, cells :: rest, seen, found => do
    let (further, seen) ← recurrence.fresh seen (← recurrence.next cells)
    let queue := rest ++ further
    let queue ← if recurrence.keys.isEmpty then pure queue
      else Interpreter.sortByColumns recurrence.encoding recurrence.keys queue
    recurrence.rows fuel queue seen (cells :: found)

/-- The greatest number of rows that a query takes from itself. -/
def maxRows : Nat := 30000

end Recurrence

namespace Interpreter

variable (interpreter : Interpreter)

/-- The plan of a query that takes rows from itself in its later selections. -/
def recursivePlan (ground : Ground) (key : String) (names : Option (List String)) (query : Query)
    (later : List (Combination × Selection)) : Scoped Plan := do
  let count := query.others.length - later.length
  let setup ← interpreter.query ground
    { query with others := query.others.take count, order := [], limit := none, offset := none }
  let columns := Plan.distinctNames (Plan.renamed names setup.columns)
  let level : Level := { origin := some (key, columns.map Column.head) }
  let ground := if query.shared.isEmpty then ground
    else { ground with shared := query.shared :: ground.shared }
  let (steps, _) ← Scoped.within level (later.mapM fun (_, selection) => do
    let core ← interpreter.selection ground selection []
    if core.columns.length ≠ columns.length then throw (.wrongWidth "SELECT")
    return core)
  let keys ← combinedKeys steps columns query.order
  let limits ← interpreter.limitsOf ground query
  let isApart := later.any fun (combination, _) => combination == .union
  return {
    columns
    rows := fun stand => limits.apply fun _ => do
      let recurrence : Recurrence :=
        { encoding := ground.encoding
          apart := if isApart then some (Direction.ofCollations (Plan.collations columns))
            else none
          keys
          next := fun cells => do
            let found ← steps.mapM fun core => core.rows ({ row := cells } :: stand)
            return found.flatten.map (·.2) }
      let (first, seen) ← recurrence.fresh [] (← setup.rows stand)
      let first ← if keys.isEmpty then pure first
        else sortByColumns ground.encoding keys first
      recurrence.rows Recurrence.maxRows first seen [] }

/-- The plan of a shared query. -/
def sharedPlan (ground : Ground) (key : String) (shared : Shared) : Scoped Plan := do
  let query := shared.query
  let later := query.others.dropWhile fun (_, selection) => !selection.mentions shared.name
  let plan ←
    if later.isEmpty || query.first.mentions shared.name then interpreter.query ground query
    else interpreter.recursivePlan ground key shared.columns query later
  if shared.columns.any fun names => names.length ≠ plan.columns.length then
    throw (.wrongWidth shared.name)
  return { plan with columns := Plan.distinctNames (Plan.renamed shared.columns plan.columns) }

/-! ## Nesting -/

/-- The interpreter of what is nested up to a depth. -/
def nestedTo : Nat → Interpreter
  | 0 =>
    { expression := fun _ _ => throw .tooGreat
      query := fun _ _ => throw .tooGreat
      shared := fun _ _ _ => throw .tooGreat }
  | depth + 1 =>
    let inner := nestedTo depth
    { expression := inner.meaningOf
      query := inner.planOf
      shared := inner.sharedPlan }

/-- How deep expressions and queries can be nested. -/
def maxDepth : Nat := 2000

/-- The interpreter of all expressions and queries. -/
def full : Interpreter := nestedTo maxDepth

end Interpreter

end SchemaPlan.Relational
