import SchemaPlan.Relational.Expression

/-!
# Statements and definitions

A statement asks for rows or changes them.  A definition says what a table, an index, a view or a
trigger is.
-/

set_option autoImplicit false

namespace SchemaPlan.Relational

/-! ## Statements -/

/-- The table that a statement changes, with the name that its rows have there. -/
structure Subject where
  database : Option String := none
  table : String
  byname : Option String := none
deriving DecidableEq, Repr

/-- A value for a column, or the values of one row for several columns. -/
structure Assignment where
  columns : List String
  value : Expression

/-- What is done with a row that repeats another one. -/
structure Upsert where
  /-- The terms of the key that is repeated and the condition of its index, if they are given. -/
  target : Option (List Expression × Option Expression)
  /-- The assignments to the other row and the condition for them; else nothing is done. -/
  update : Option (List Assignment × Option Expression)

/-- A statement that inserts rows. -/
structure Insertion where
  shared : List Shared := []
  resolution : Option Resolution := none
  subject : Subject
  /-- Without columns the rows have a value for every column. -/
  columns : Option (List String) := none
  /-- Without rows a row of standard values is inserted. -/
  rows : Option Query := none
  upserts : List Upsert := []
  returned : List Wanted := []

/-- A statement that updates rows. -/
structure Updating where
  shared : List Shared := []
  resolution : Option Resolution := none
  subject : Subject
  assignments : List Assignment
  /-- Further sources, to the rows of which the rows are joined. -/
  source : Option Source := none
  condition : Option Expression := none
  returned : List Wanted := []

/-- A statement that deletes rows. -/
structure Deletion where
  shared : List Shared := []
  subject : Subject
  condition : Option Expression := none
  returned : List Wanted := []

/-- A statement. -/
inductive Statement where
  | query (query : Query)
  | insert (insertion : Insertion)
  | update (updating : Updating)
  | delete (deletion : Deletion)

/-- The removal of a table. -/
structure Removal where
  subject : Subject
  /-- Whether the table need not be there. -/
  isOptional : Bool
deriving DecidableEq, Repr

/-- The columns that assignments give values to. -/
def Updating.columns (updating : Updating) : List String :=
  updating.assignments.flatMap (·.columns)

/-! ## Tables -/

/-- A column of a table. -/
structure ColumnDefinition where
  name : String
  declared : String
  collation : Collation := .binary
  standard : Expression := .literal .null
  isRequired : Bool := false
  /-- What becomes of a change without a required value. -/
  onMissing : Resolution := .abort
  /-- The expression that always gives the value of the column. -/
  formula : Option Expression := none
  /-- Whether the value of the formula is kept in the rows. -/
  isKept : Bool := true

/-- Expressions whose values identify a row, of the rows that satisfy a condition. -/
structure Key where
  terms : List Expression
  isPrimary : Bool := false
  condition : Option Expression := none
  /-- What becomes of a change that would repeat a row. -/
  onRepeated : Resolution := .abort

/-- What becomes of rows that refer to a row which is removed or gets another key. -/
inductive Action where
  /-- They must not be left without the row. -/
  | refuse
  | cascade
  | setNull
  | setStandard
deriving DecidableEq, Repr

/-- Columns whose values, if none is missing, must be the key of a row of another table. -/
structure Reference where
  columns : List String
  table : String
  /-- The columns of the key, which is else the primary one. -/
  targets : Option (List String) := none
  onDelete : Action := .refuse
  onUpdate : Action := .refuse
deriving DecidableEq, Repr

/-- A table. -/
structure TableDefinition where
  name : String
  columns : List ColumnDefinition
  keys : List Key
  references : List Reference
  /-- Whether the primary key is the number of a row. -/
  hasNumber : Bool
  checks : List Expression
  /-- Whether values must have the declared type. -/
  isStrict : Bool
  /-- Whether rows have no numbers. -/
  isUnnumbered : Bool
  /-- Whether numbers of rows are never used again. -/
  isCounted : Bool := false

/-- The terms of the primary key of a table. -/
def TableDefinition.primary (definition : TableDefinition) : List Expression :=
  (definition.keys.filter (·.isPrimary)).flatMap (·.terms)

/-! ## Definitions -/

/-- When a trigger runs. -/
inductive Moment where
  | before
  | after
  | instead
deriving DecidableEq, Repr

/-- The change for which a trigger runs. -/
inductive Event where
  | insertion
  | deletion
  /-- An update, of some columns if given. -/
  | update (columns : List String)
deriving DecidableEq, Repr

/-- A trigger. -/
structure TriggerDefinition where
  name : String
  moment : Moment
  event : Event
  table : String
  condition : Option Expression
  body : List Statement

/-- A definition. -/
inductive Definition where
  | table (definition : TableDefinition)
  | index (name table : String) (isUnique : Bool) (key : Key)
  | view (name : String) (columns : Option (List String)) (query : Query)
  | trigger (definition : TriggerDefinition)

end SchemaPlan.Relational
