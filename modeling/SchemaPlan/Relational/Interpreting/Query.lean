import SchemaPlan.Relational.Interpreting.Expression
import SchemaPlan.Relational.Interpreting.Selection

/-!
# The meaning of queries

The rows of several selections are put together one selection after the other.  Unless all rows are
kept, they are put in order by all their columns.  At the end the rows are put in the order that is
asked for, and some of them are left out.
-/

set_option autoImplicit false

namespace SchemaPlan.Relational

/-! ## Limits -/

/-- A number of rows, which must be a whole number. -/
def wholeCount (value : Value) : Except Trouble Int :=
  match Affinity.toWhole (Affinity.toNumber value) with
  | .integer number => .ok number
  | _ => .error .mismatch

/-- How many rows are left out and how many are returned then. -/
structure Limits where
  offset : Option Meaning := none
  limit : Option Meaning := none

namespace Limits

/-- The rows within the limits, which are not looked for if there are to be none. -/
def apply {Row : Type} (limits : Limits) (rows : Unit → Except Trouble (List Row)) :
    Except Trouble (List Row) := do
  match limits.limit with
  | none => rows ()
  | some limit =>
    let count ← wholeCount (← limit.value [])
    let skipped ← match limits.offset with
      | some offset => wholeCount (← offset.value [])
      | none => pure 0
    if count = 0 then return []
    let rows := (← rows ()).drop skipped.toNat
    return if count < 0 then rows else rows.take count.toNat

end Limits

/-! ## Putting together -/

namespace Combination

/-- A row with its values. -/
abbrev Valued : Type := List Value × Array Cell

/-- The rows of two selections put together, where they are told apart by the collations of their
columns.  Of rows that are not told apart the last one remains, or the first one of the later
selection if the rows are put in order. -/
def combine (encoding : Encoding) (directions : List Direction) (isOrdered : Bool)
    (combination : Combination) (first second : List Valued) : List Valued :=
  let isIn (rows : List Valued) (row : Valued) : Bool :=
    rows.any fun other => Direction.compareAll encoding directions row.1 other.1 == .eq
  let settle (rows : List Valued) : List Valued :=
    Direction.sort encoding directions (distinctBy encoding directions rows)
  match combination with
  | .all => first ++ second
  | .union =>
    settle (if isOrdered then second ++ first else (first ++ second).reverse)
  | .common => settle ((if isOrdered then first else first.reverse).filter (isIn second))
  | .difference =>
    settle ((if isOrdered then first else first.reverse).filter fun row => !isIn second row)

/-- The rows of some selections put together. -/
def combineAll (encoding : Encoding) (directions : List Direction) (isOrdered : Bool)
    (stand : Stand) (first : Core) (others : List (Combination × Core)) :
    Except Trouble (List (Array Cell)) := do
  let rowsOf (core : Core) : Except Trouble (List (Array Cell)) := do
    return (← core.rows stand).map (·.2)
  let valued (isNeeded : Bool) (cells : Array Cell) : Except Trouble Valued :=
    if isNeeded then (Plan.valuesOf cells).map (·, cells) else .ok ([], cells)
  let isPlain := others.all fun (combination, _) => combination == .all
  let start ← (← rowsOf first).mapM (valued !isPlain)
  let rows ← others.foldlM (fun rows (combination, core) => do
    let further ← (← rowsOf core).mapM (valued !isPlain)
    return combination.combine encoding directions isOrdered rows further) start
  return rows.map (·.2)

end Combination

namespace Column

/-- The affinity of a column of several selections: that of the first one that has one, unless a
later one may have values of another kind. -/
def affinityOf (columns : List Column) : Option Affinity :=
  match columns.findIdx? (·.affinity.isSome) with
  | none => none
  | some place =>
    let others := (columns.take place ++ columns.drop (place + 1)).map (·.kinds)
    let kinds := others.foldl Kinds.both .none
    match columns[place]?.bind (·.affinity) with
    | some .text => if kinds.hasNumbers then some .blob else some .text
    | some affinity =>
      if affinity.isNumeric && kinds.hasTexts then some .blob else some affinity
    | none => none

/-- The column of several selections. -/
def merged (first : Column) (others : List Column) : Column where
  name := first.name
  affinity := affinityOf (first :: others)
  collation := (first :: others).findSome? (·.collation)
  kinds := (others.map (·.kinds)).foldl Kinds.both first.kinds

/-- The columns of several selections. -/
def mergedAll (first : List Column) (others : List (List Column)) : List Column :=
  first.mapIdx fun place column => merged column (others.filterMap (·[place]?))

end Column

namespace Interpreter

variable (interpreter : Interpreter)

/-! ## Parts -/

/-- The limits of a query, which depend on no row. -/
def limitsOf (ground : Ground) (query : Query) : Except Trouble Limits := do
  let (limit, _) ← (interpreter.expression? ground query.limit).run []
  let (offset, _) ← (interpreter.expression? ground query.offset).run []
  return { limit, offset }

/-- The place of the column of some selections that a key stands for. -/
def combinedPlace (cores : List Core) (count : Nat) (key : Expression) : Except Trouble Nat :=
  match key.uncollated.whole?, key.uncollated with
  | some number, _ => placeOf count number
  | none, .column _ name _ =>
    let found := cores.findSome? fun core =>
      (core.aliases.findIdx? fun byname => byname.any (isSameName name)).or
        (core.columns.findIdx? fun column => isSameName column.name name)
    match found with
    | some place => .ok place
    | none => .error (.misplaced "ORDER BY")
  | none, _ => .error (.misplaced "ORDER BY")

/-- The keys by which the rows of some selections are put in order: places of columns. -/
def combinedKeys (cores : List Core) (columns : List Column) (order : List OrderTerm) :
    Except Trouble (List (Nat × Direction)) :=
  order.mapM fun term => do
    let place ← combinedPlace cores columns.length term.expression
    let own := (columns[place]?).bind (·.collation)
    return (place, term.direction ((← writtenCollation term.expression).or own))

/-- Rows put in order by some of their columns. -/
def sortByColumns (encoding : Encoding) (keys : List (Nat × Direction))
    (rows : List (Array Cell)) : Except Trouble (List (Array Cell)) := do
  let keyed ← rows.mapM fun cells => do
    return (← (keys.map (·.1)).mapM (cellAt cells), cells)
  return (Direction.sort encoding (keys.map (·.2)) keyed).map (·.2)

/-! ## Queries -/

/-- The plan of a query of one selection. -/
def single (ground : Ground) (query : Query) : Scoped Plan := do
  let core ← interpreter.selection ground query.first query.order
  let limits ← interpreter.limitsOf ground query
  return {
    columns := core.columns
    rows := fun stand => limits.apply fun _ => do
      let rows ← core.rows stand
      return (Direction.sort ground.encoding core.directions rows).map (·.2)
    blank? := if query.limit.isSome then none else core.blank?
    unsorted? := if query.limit.isSome || !core.isLoose then none
      else some fun stand => do return (← core.rows stand).map (·.2) }

/-- The selections of a query, which must have columns of one number. -/
def cores (ground : Ground) (query : Query) : Scoped (Core × List (Combination × Core)) := do
  let first ← interpreter.selection ground query.first []
  let others ← query.others.mapM fun (combination, selection) => do
    let core ← interpreter.selection ground selection []
    if core.columns.length ≠ first.columns.length then throw (.wrongWidth "SELECT")
    return (combination, core)
  return (first, others)

/-- The plan of a query of several selections. -/
def several (ground : Ground) (query : Query) : Scoped Plan := do
  let (first, others) ← interpreter.cores ground query
  let columns := Column.mergedAll first.columns (others.map (·.2.columns))
  let keys ← combinedKeys (first :: others.map (·.2)) columns query.order
  let limits ← interpreter.limitsOf ground query
  let directions := Direction.ofCollations (Plan.collations columns)
  let found (isOrdered : Bool) (stand : Stand) : Except Trouble (List (Array Cell)) :=
    Combination.combineAll ground.encoding directions isOrdered stand first others
  return {
    columns
    rows := fun stand => limits.apply fun _ => do
      sortByColumns ground.encoding keys (← found (!keys.isEmpty) stand)
    unsorted? := if keys.isEmpty || query.limit.isSome then none else some (found false) }

/-- The plan of a query. -/
def planOf (ground : Ground) (query : Query) : Scoped Plan :=
  let ground := if query.shared.isEmpty then ground
    else { ground with shared := query.shared :: ground.shared }
  if query.others.isEmpty then interpreter.single ground query
  else interpreter.several ground query

end Interpreter

end SchemaPlan.Relational
