import SchemaPlan.Relational.Interpreting.Window

/-!
# The meaning of expressions

Where an expression is compared it may be a row of several values, and so may the answer of a query.
-/

set_option autoImplicit false

namespace SchemaPlan.Relational.Interpreter

variable (interpreter : Interpreter)

/-! ## Rows of values -/

/-- The meaning of a column of the first row of a query. -/
def firstOf (plan : Plan) (place : Nat) (column : Column) : Meaning where
  value := fun stand => do cellAt ((← plan.rows stand).headD #[]) place
  affinity := column.affinity
  kinds := .ofAffinity column.affinity
  levels := plan.levels

/-- The meanings of the values of an expression, of which a row has several. -/
def parts (ground : Ground) : Expression → Scoped (List Meaning)
  | .tuple items => interpreter.expressions ground items
  | .scalar query => do
    let plan ← interpreter.nested ground query
    return plan.columns.mapIdx fun place column => firstOf plan place column
  | expression => do return [← interpreter.expression ground expression]

/-- The meaning of a comparison of two expressions that may be rows. -/
def compareParts (ground : Ground) (operator : Operator) (lefts rights : List Meaning) :
    Except Trouble Meaning :=
  match lefts, rights with
  | [left], [right] => .ok (Meaning.compare ground.encoding operator left right)
  | lefts, rights =>
    if lefts.length ≠ rights.length then .error (.misplaced "row value")
    else
      .ok <| Meaning.ofParts (lefts ++ rights)
        (Meaning.compareRows ground.encoding operator (lefts.zip rights))

/-- The meaning of a comparison. -/
def compared (ground : Ground) (operator : Operator) (left right : Expression) :
    Scoped Meaning := do
  let truth? ← if operator.isDecided then interpreter.plainTruth? ground right else pure none
  match truth? with
  | some truth =>
    let meaning ← interpreter.expression ground left
    let isWanted := operator == .same
    return meaning.map fun value =>
      .ofBool ((if truth then value.isTrue else value.isFalse) == isWanted)
  | none =>
    let lefts ← interpreter.parts ground left
    compareParts ground operator lefts (← interpreter.parts ground right)

/-- The meaning of an expression that lies between two others. -/
def between (ground : Ground) (operand low high : Expression) : Scoped Meaning := do
  let operands ← interpreter.parts ground operand
  let least ← compareParts ground .atLeast operands (← interpreter.parts ground low)
  let most ← compareParts ground .atMost operands (← interpreter.parts ground high)
  return { Meaning.both least most with isCollated := least.isCollated || most.isCollated }

/-! ## Choices -/

/-- Whether an expression is the same on every row. -/
def isConstant : Expression → Bool
  | .literal _ | .edge => true
  | .negate operand | .plus operand | .complement operand | .collate operand _
  | .cast operand _ => isConstant operand
  | .apply _ left right => isConstant left && isConstant right
  | .column [] name isQuoted => isQuoted || (truth? name).isSome
  | _ => false

/-- The value of a choice, which is missing if it depends on a missing value. -/
def chosen (found : List Value) : Value := found.foldl Operator.either (.ofBool false)

/-- The meaning of a value that is among the values of expressions. -/
def amongValues (ground : Ground) (operand : Meaning) (choices : List Meaning) : Meaning :=
  let plain := Meaning.constant .null
  let isEqual (value choice : Value) : Value :=
    Meaning.compareValues ground.encoding .equal operand plain value choice
  Meaning.ofParts (operand :: choices) fun stand => do
    if choices.isEmpty then return .ofBool false
    let value ← operand.value stand
    return chosen ((← Meaning.values choices stand).map (isEqual value))

/-- The meaning of an expression that is among others. -/
def among (ground : Ground) (operand : Expression) (choices : List Expression) :
    Scoped Meaning := do
  let operands ← interpreter.parts ground operand
  match operands, choices with
  | [operand], [choice] =>
    let other ← interpreter.expression ground choice
    if isConstant choice then
      return Meaning.compare ground.encoding .equal operand { other with affinity := none }
    else return amongValues ground operand [other]
  | [operand], choices =>
    return amongValues ground operand (← interpreter.expressions ground choices)
  | operands, choices =>
    let found ← choices.mapM fun choice => do
      compareParts ground .equal operands (← interpreter.parts ground choice)
    return Meaning.ofParts (operands ++ found) fun stand => do
      return chosen (← Meaning.values found stand)

/-- The meaning of an expression that is among the answers of a query. -/
def within (ground : Ground) (operand : Expression) (query : Query) : Scoped Meaning := do
  let operands ← interpreter.parts ground operand
  let plan ← interpreter.nested ground query
  if plan.columns.length ≠ operands.length then throw (.wrongWidth "IN")
  let columns := plan.columns.map fun column =>
    { Meaning.constant .null with
      affinity := column.affinity
      collation := column.collation }
  let meaning := Meaning.ofParts operands fun stand => do
    let values ← Meaning.values operands stand
    let rows ← (← plan.rows stand).mapM Plan.valuesOf
    return chosen (← rows.mapM fun row =>
      Meaning.compareRows ground.encoding .equal
        ((Meaning.given operands values).zip (Meaning.given columns row)) stand)
  return { meaning with levels := (meaning.levels ++ plan.levels).eraseDups }

/-- The first alternative whose condition is true. -/
def chosenOf : List Meaning → Stand → Except Trouble (Option Meaning)
  | [], _ => .ok none
  | [otherwise], _ => .ok (some otherwise)
  | condition :: value :: rest, stand => do
    if ← condition.isTrue stand then return some value else chosenOf rest stand

/-- The meanings of alternatives, of which those that a subject is compared with are conditions. -/
def alternatives (ground : Ground) (subject : Option (List Meaning)) :
    List Expression → Scoped (List Meaning)
  | [] => return []
  | [otherwise] => return [← interpreter.expression ground otherwise]
  | condition :: value :: rest => do
    let condition ← match subject with
      | some lefts => compareParts ground .equal lefts (← interpreter.parts ground condition)
      | none => interpreter.expression ground condition
    let value ← interpreter.expression ground value
    return condition :: value :: (← alternatives ground subject rest)

/-- The kinds of the values of alternatives. -/
def kindsOf : List Meaning → Kinds
  | [] => .none
  | [otherwise] => otherwise.kinds
  | _ :: value :: rest => value.kinds.both (kindsOf rest)

/-! ## Expressions -/

/-- The meaning of an operation on two values. -/
def applied (ground : Ground) (operator : Operator) (left right : Expression) :
    Scoped Meaning := do
  if operator.isComparison then interpreter.compared ground operator left right
  else
    let first ← interpreter.expression ground left
    let second ← interpreter.expression ground right
    match operator with
    | .and => return Meaning.both first second
    | .or => return Meaning.either first second
    | operator =>
      let meaning := Meaning.ofParts [first, second] fun stand => do
        return operator.act ground.encoding (← first.value stand) (← second.value stand)
      return if operator = .join then { meaning with kinds := ⟨false, true, true⟩ } else meaning

/-- The meaning of a conversion. -/
def converted (ground : Ground) (operand : Meaning) (declared : String) : Meaning :=
  let affinity := Affinity.ofName declared
  { operand.map (Affinity.cast ground.encoding affinity) with
    affinity := some affinity
    collation := operand.collation
    kinds := .ofAffinity (some affinity) }

/-- The meaning of an expression, in which others are nested. -/
def meaningOf (ground : Ground) : Expression → Scoped Meaning
  | .literal value => return .constant value
  | .edge => return .constant (Value.ofFloat 9223372036854775808.0)
  | .parameter place =>
    return { Meaning.constant (ground.parameters.getD (place - 1) .null) with kinds := .any }
  | .column path name isQuoted => interpreter.column ground path name isQuoted
  | .negate .edge => return .constant (.integer (-Numeral.bound))
  | .negate operand => do
    let meaning ← interpreter.expression ground operand
    return meaning.map (Operator.act ground.encoding .subtract (.integer 0))
  | .plus operand => do
    return { ← interpreter.expression ground operand with affinity := none }
  | .complement operand => do
    return (← interpreter.expression ground operand).map Operator.complement
  | .invert operand => do return (← interpreter.expression ground operand).opposite
  | .apply operator left right => interpreter.applied ground operator left right
  | .isNull operand => do
    return (← interpreter.expression ground operand).map fun value => .ofBool (value == .null)
  | .between operand low high => interpreter.between ground operand low high
  | .among operand choices => interpreter.among ground operand choices
  | .within operand query => interpreter.within ground operand query
  | .call call =>
    match call.window with
    | some window => interpreter.overWindow ground call window
    | none => interpreter.call ground call
  | .cast operand declared => do
    return converted ground (← interpreter.expression ground operand) declared
  | .collate operand name => do
    let meaning ← interpreter.expression ground operand
    match Collation.ofName? name with
    | some collation => return { meaning with collation, isCollated := true }
    | none => throw (.unknownCollation name)
  | .choose subject alternatives => do
    let subject ← subject.mapM (interpreter.parts ground)
    let parts ← interpreter.alternatives ground subject alternatives
    return { oneOf parts (chosenOf parts) with kinds := kindsOf parts }
  | .raise resolution message => do
    if !ground.isTriggered then throw (.misplaced "RAISE")
    return { Meaning.constant .null with value := fun _ => .error (.broken resolution message) }
  | .tuple _ => throw (.misplaced "row value")
  | .scalar query => do
    let plan ← interpreter.nested ground query
    match plan.columns with
    | [column] => return firstOf plan 0 column
    | _ => throw (.wrongWidth "SELECT")
  | .exists query => do
    let plan ← interpreter.nested ground query
    return {
      value := fun stand => do return .ofBool !(← plan.rows stand).isEmpty
      levels := plan.levels }

end SchemaPlan.Relational.Interpreter
