import SchemaPlan.Relational.Plan

/-!
# The meaning of names

A name without the name of a source may stand for a value that the query returns, if no source has a
column of that name.  A name that stands for nothing may still be a text or a truth.
-/

set_option autoImplicit false

namespace SchemaPlan.Relational.Interpreter

variable (interpreter : Interpreter)

/-- Whether two names are the same in any case. -/
def isSameName (first second : String) : Bool := Text.sameIgnoringCase first second

/-- The meaning of a name on a level, if it has one there. -/
def columnOn? (ground : Ground) (path : List String) (name : String) (place : Nat)
    (level : Level) : Scoped (Option Meaning) := do
  let columns ← Finding.columns path name level.seats
  if !columns.isEmpty then
    if level.row?.isNone then Scoped.look place
    return some (Scoped.ofColumnsOn level place columns)
  let byname? := if path.isEmpty then level.aliases.find? (isSameName name ·.1) else none
  match byname? with
  | none => return none
  | some (_, expression) =>
    let meaning ← Scoped.outward place do
      Scoped.modifyInnermost fun level => { level with aliases := [] }
      let meaning ← interpreter.expression ground expression
      Scoped.modifyInnermost fun inner => { inner with aliases := level.aliases }
      return meaning
    Scoped.look place
    return some (Scoped.inward place meaning)

/-- The meaning of a name on some levels, the first of which has a place. -/
def columnFrom? (ground : Ground) (path : List String) (name : String) :
    List Level → Nat → Scoped (Option Meaning)
  | [], _ => return none
  | level :: rest, place => do
    match ← interpreter.columnOn? ground path name place level with
    | some meaning => return some meaning
    | none => columnFrom? ground path name rest (place + 1)

/-- The truth that a name stands for. -/
def truth? (name : String) : Option Bool :=
  [("TRUE", true), ("FALSE", false)].lookup (Text.upper name)

/-- The meaning of a name. -/
def column (ground : Ground) (path : List String) (name : String) (isQuoted : Bool) :
    Scoped Meaning := do
  match ← interpreter.columnFrom? ground path name (← get) 0 with
  | some meaning => return meaning
  | none =>
    if !path.isEmpty then throw (.unknownColumn name)
    else if isQuoted then return .constant (.text name)
    else
      match truth? name with
      | some truth => return .constant (.ofBool truth)
      | none => throw (.unknownColumn name)

/-- The truth that an expression is, unless it is the name of a column. -/
def plainTruth? (ground : Ground) (expression : Expression) : Scoped (Option Bool) := do
  match expression.uncollated with
  | .column [] name false =>
    match truth? name with
    | none => return none
    | some truth =>
      let found ← Scoped.trial (interpreter.columnFrom? ground [] name (← get) 0)
      return if found.isSome then none else some truth
  | _ => return none

end SchemaPlan.Relational.Interpreter
