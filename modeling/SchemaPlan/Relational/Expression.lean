import SchemaPlan.Relational.Operator
import SchemaPlan.Relational.Trouble

/-!
# Expressions and queries

An expression may hold queries, and a query holds expressions.  A query takes rows from its sources,
keeps those that satisfy a condition, may put them together in groups, and returns values of each.
-/

set_option autoImplicit false

namespace SchemaPlan.Relational

/-! ## Parts without expressions -/

/-- What the rows of a window are counted by. -/
inductive FrameUnit where
  | rows
  | range
  | groups
deriving DecidableEq, Repr

/-- The rows that are left out of a window. -/
inductive Exclusion where
  | nothing
  | current
  | group
  | ties
deriving DecidableEq, Repr

/-- How the rows of two selections are put together. -/
inductive Combination where
  | all
  | union
  | common
  | difference
deriving DecidableEq, Repr

/-- Which rows without a partner a join keeps. -/
structure JoinKind where
  /-- Whether all columns of the same names must be equal. -/
  isNatural : Bool := false
  keepsLeft : Bool := false
  keepsRight : Bool := false
deriving DecidableEq, Repr

/-! ## Expressions and queries -/

mutual

/-- An expression. -/
inductive Expression where
  | literal (value : Value)
  /-- The number after the greatest whole number, which is whole once it is negated. -/
  | edge
  /-- A value that is given when the expression is used, by its place among all of them. -/
  | parameter (place : Nat)
  /-- A column, of a table if given, which may have its database before it.  A name in double
  quotes that is no column is a text. -/
  | column (path : List String) (name : String) (isQuoted : Bool)
  | negate (operand : Expression)
  | plus (operand : Expression)
  | complement (operand : Expression)
  | invert (operand : Expression)
  | apply (operator : Operator) (left right : Expression)
  | isNull (operand : Expression)
  | between (operand low high : Expression)
  | among (operand : Expression) (choices : List Expression)
  /-- Whether a value is among the answers of a query. -/
  | within (operand : Expression) (query : Query)
  | call (call : Call)
  | cast (operand : Expression) (declared : String)
  | collate (operand : Expression) (collation : String)
  /-- Conditions and values in turn, or with a subject what it is compared with and values.  A last
  one without condition is the value otherwise. -/
  | choose (subject : Option Expression) (alternatives : List Expression)
  /-- Breaks off the change under way. -/
  | raise (resolution : Resolution) (message : String)
  /-- Several values at once. -/
  | tuple (items : List Expression)
  /-- The first answer of a query. -/
  | scalar (query : Query)
  /-- Whether a query has an answer. -/
  | exists (query : Query)

/-- A call of a function. -/
structure Call where
  function : String
  arguments : List Expression
  isDistinct : Bool := false
  /-- Whether rows are meant and not values. -/
  isStar : Bool := false
  order : List OrderTerm := []
  filter : Option Expression := none
  window : Option Window := none

/-- An expression by which rows are put in order. -/
structure OrderTerm where
  expression : Expression
  isDescending : Bool := false
  /-- Whether missing values come first, if that is said. -/
  nullsFirst : Option Bool := none

/-- The rows that a function sees beside a row. -/
structure Window where
  /-- The name of a window on which this one is based. -/
  base : Option String := none
  partition : List Expression := []
  order : List OrderTerm := []
  frame : Option Frame := none

/-- The part of a window around a row. -/
structure Frame where
  unit : FrameUnit
  first : Bound
  last : Bound
  exclusion : Exclusion := .nothing

/-- An end of a part of a window. -/
inductive Bound where
  | start
  | preceding (distance : Expression)
  | current
  | following (distance : Expression)
  | finish

/-- What a selection returns of its rows. -/
inductive Wanted where
  /-- All columns, of one table if given. -/
  | all (table : Option String)
  /-- A value, with the name that it is given or else its text. -/
  | value (expression : Expression) (name : Option String) (written : String)

/-- What two sources that are joined must have in common. -/
inductive Link where
  | always
  | condition (condition : Expression)
  | columns (names : List String)

/-- Where rows are taken from. -/
inductive Source where
  | table (database : Option String) (name : String) (byname : Option String)
  | function (name : String) (arguments : List Expression) (byname : Option String)
  | query (query : Query) (byname : Option String)
  | join (kind : JoinKind) (left right : Source) (link : Link)

/-- A selection of rows. -/
structure Selection where
  isDistinct : Bool := false
  wanted : List Wanted
  source : Option Source := none
  condition : Option Expression := none
  groups : List Expression := []
  having : Option Expression := none
  windows : List (String × Window) := []

/-- A query that others can take rows from by its name. -/
structure Shared where
  name : String
  columns : Option (List String)
  query : Query

/-- A query. -/
structure Query where
  shared : List Shared := []
  first : Selection
  others : List (Combination × Selection) := []
  order : List OrderTerm := []
  limit : Option Expression := none
  offset : Option Expression := none

end

namespace Expression

/-- A column of any table. -/
def ofColumn (name : String) : Expression := column [] name false

/-- An expression for a text. -/
def ofText (text : String) : Expression := literal (.text text)

/-- An expression for a text that may be missing. -/
def ofText? (text : Option String) : Expression := literal ((text.map Value.text).getD .null)

/-- The keyword for a truth. -/
def ofBool (truth : Bool) : Expression := column [] (if truth then "TRUE" else "FALSE") false

/-- Whether an expression is the keyword for what is false. -/
def isFalse : Expression → Bool
  | column [] "FALSE" false => true
  | _ => false

/-- Whether an expression is written as the number zero. -/
def isZero : Expression → Bool
  | literal (.integer 0) => true
  | _ => false

/-- The conjunction of two expressions, which is zero if one of them is written so. -/
def both (left right : Expression) : Expression :=
  if left.isZero || right.isZero then literal (.integer 0) else apply .and left right

/-- A call of a function with some arguments. -/
def ofCall (function : String) (arguments : List Expression) : Expression :=
  call { function, arguments }

/-- An expression without the collation written after it. -/
def uncollated : Expression → Expression
  | collate operand _ => operand.uncollated
  | expression => expression

/-- The whole number of 32 bits that an expression is, with signs before it. -/
def whole? : Expression → Option Int
  | literal (.integer value) => if value.natAbs < Nat.pow 2 31 then some value else none
  | negate operand => operand.whole?.map (- ·)
  | plus operand => operand.whole?
  | _ => none

/-- The names of the columns that expressions are. -/
def columnNames (expressions : List Expression) : List String :=
  expressions.filterMap fun
    | column [] name _ => some name
    | _ => none

end Expression

/-! ## Selections -/

namespace Wanted

/-- A value without a name. -/
def ofExpression (expression : Expression) : Wanted := value expression none ""

end Wanted

namespace Selection

/-- A row of values, whose columns are numbered. -/
def ofRow (expressions : List Expression) : Selection where
  wanted := expressions.mapIdx fun place expression =>
    .value expression (some ("column" ++ toString (place + 1))) ""

end Selection

namespace Query

/-- The columns of the rows of one table that satisfy a condition, in ascending order. -/
def ofTable (table : String) (wanted : List Expression) (condition : Option Expression)
    (order : List Expression) : Query where
  first :=
    { wanted := wanted.map .ofExpression
      source := some (.table none table none)
      condition }
  order := order.map fun expression => { expression }

/-- The number of the rows of one table that satisfy a condition. -/
def countOf (table : String) (condition : Option Expression) : Query where
  first :=
    { wanted := [.ofExpression (.call { function := "COUNT", arguments := [], isStar := true })]
      source := some (.table none table none)
      condition }

/-- All columns of one table. -/
def allOf (table : String) : Query where
  first := { wanted := [.all none], source := some (.table none table none) }

/-- A single row of values. -/
def ofValues (values : List Value) : Query where
  first := .ofRow (values.map .literal)

/-- The selections of a query. -/
def selections (query : Query) : List Selection := query.first :: query.others.map (·.2)

end Query

end SchemaPlan.Relational
