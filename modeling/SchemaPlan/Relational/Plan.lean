import SchemaPlan.Relational.Basic
import SchemaPlan.Relational.Builtin
import SchemaPlan.Relational.Order

/-!
# Plans of queries

The plan of a query gives the rows of its answer, once it is known where it stands.  A value that
cannot be computed only matters if it is asked for.
-/

set_option autoImplicit false

namespace SchemaPlan.Relational

/-- A column of the answer of a query. -/
structure Column where
  name : String
  affinity : Option Affinity := none
  collation : Option Collation := none
  kinds : Kinds := .any
deriving DecidableEq, Repr

/-- The column that others see in a table or in the answer of a query around. -/
def Column.head (column : Column) : Head where
  name := column.name
  affinity := column.affinity
  collation := column.collation.getD .binary

/-- How the rows of an answer are found. -/
structure Plan where
  columns : List Column
  rows : Stand → Except Trouble (List (Array Cell))
  /-- The levels around the query on which the rows depend. -/
  levels : List Nat := []
  /-- What is returned where there is no row, of a query that only gives other columns to the rows
  of its sources. -/
  blank? : Option (Stand → Array Cell) := none
  /-- The rows as they are found, of a query whose order need not be kept by others. -/
  unsorted? : Option (Stand → Except Trouble (List (Array Cell))) := none

namespace Plan

/-- The rows of a plan.  They are found only once if they are the same everywhere. -/
def settled (plan : Plan) : Plan :=
  if plan.levels.isEmpty then
    let found := Thunk.mk fun _ => plan.rows []
    let unsorted? := plan.unsorted?.map fun rows => Thunk.mk fun _ => rows []
    { plan with
      rows := fun _ => found.get
      unsorted? := unsorted?.map fun found _ => found.get }
  else plan

/-- The values of a row. -/
def valuesOf (cells : Array Cell) : Except Trouble (List Value) := cells.toList.mapM id

/-- The collations of the columns. -/
def collations (columns : List Column) : List Collation :=
  columns.map fun column => column.collation.getD .binary

/-- The columns with other names. -/
def renamed (names : Option (List String)) (columns : List Column) : List Column :=
  match names with
  | some names => (columns.zip names).map fun (column, name) => { column with name }
  | none => columns

/-! ## Names of columns -/

/-- A name without the number after a colon at its end. -/
def stem (name : String) : List Char :=
  match name.toList.reverse.dropWhile Char.isDigit with
  | ':' :: before => if before.isEmpty then name.toList else before.reverse
  | _ => name.toList

/-- The first of some names with growing numbers that is not taken, tried at most as often as
given. -/
def freeName (taken : List String) (name : String) (number : Nat) : Nat → String
  | 0 => name
  | fuel + 1 =>
    if taken.any (Text.sameIgnoringCase name) then
      let next := String.ofList (stem name ++ ':' :: (toString number).toList)
      freeName taken next (number + 1) fuel
    else name

/-- The columns with a number after every name that is taken already. -/
def distinctNames (columns : List Column) : List Column :=
  columns.foldl (fun before column =>
    let taken := before.map (·.name)
    before ++ [{ column with name := freeName taken column.name 1 (taken.length + 1) }]) []

end Plan

/-! ## Interpreting -/

/-- What queries stand on. -/
structure Ground where
  relations : Relations
  /-- The queries whose names are known, those of the innermost query first. -/
  shared : List (List Shared) := []
  /-- The views and shared queries on the way here. -/
  busy : List String := []
  parameters : List Value := []
  /-- Whether a trigger is running. -/
  isTriggered : Bool := false

/-- The encoding of texts. -/
def Ground.encoding (ground : Ground) : Encoding := ground.relations.encoding

/-- What functions of values depend on, with the collation of their arguments. -/
def Ground.habit (ground : Ground) (arguments : List Meaning) : Habit where
  encoding := ground.encoding
  collation := (arguments.findSome? (·.collation)).getD .binary

/-- The direction of a key with a collation. -/
def OrderTerm.direction (term : OrderTerm) (collation : Option Collation) : Direction where
  collation := collation.getD .binary
  isDescending := term.isDescending
  nullsFirst := term.nullsFirst.getD !term.isDescending

/-- How expressions and queries get their meanings. -/
structure Interpreter where
  expression : Ground → Expression → Scoped Meaning
  query : Ground → Query → Scoped Plan
  /-- The plan of a shared query, which is known by a name of its own and may take rows from
  itself. -/
  shared : Ground → String → Shared → Scoped Plan

namespace Interpreter

variable (interpreter : Interpreter)

/-- The meanings of expressions. -/
def expressions (ground : Ground) (items : List Expression) : Scoped (List Meaning) :=
  items.mapM (interpreter.expression ground)

/-- The meaning of an expression that need not be there. -/
def expression? (ground : Ground) (item : Option Expression) : Scoped (Option Meaning) :=
  item.mapM (interpreter.expression ground)

/-- The plan of a query inside of an expression, with the levels that it depends on. -/
def nested (ground : Ground) (query : Query) : Scoped Plan := do
  let (plan, levels) ← Scoped.tracked (interpreter.query ground query)
  return { plan with levels }.settled

/-- The meanings of the keys by which rows are put in order, with their directions. -/
def orderTerms (ground : Ground) (terms : List OrderTerm) :
    Scoped (List (Meaning × Direction)) :=
  terms.mapM fun term => do
    let meaning ← interpreter.expression ground term.expression
    return (meaning, term.direction meaning.collation)

end Interpreter

end SchemaPlan.Relational
