import SchemaPlan.Relational.Collation

/-!
# Operators

An operator acts on two values.  A missing operand leaves the value missing, unless the other
operand decides it alone or the operator is one that tells missing values from others.
-/

set_option autoImplicit false

namespace SchemaPlan.Relational

/-- An operator between two operands. -/
inductive Operator where
  | or
  | and
  | equal
  | unequal
  | less
  | atMost
  | greater
  | atLeast
  /-- Equality that is also decided for missing values. -/
  | same
  | different
  | bitAnd
  | bitOr
  | shiftLeft
  | shiftRight
  | add
  | subtract
  | multiply
  | divide
  | remainder
  | join
deriving DecidableEq, Repr

namespace Operator

/-! ## Comparing -/

/-- Whether an operator compares its operands. -/
def isComparison : Operator → Bool
  | .equal | .unequal | .less | .atMost | .greater | .atLeast | .same | .different => true
  | _ => false

/-- Whether an operator also decides about missing values. -/
def isDecided : Operator → Bool
  | .same | .different => true
  | _ => false

/-- Whether an operator holds for operands in a given order. -/
def holds (order : Ordering) : Operator → Bool
  | .equal | .same => order == .eq
  | .unequal | .different => order != .eq
  | .less => order == .lt
  | .atMost => order != .gt
  | .greater => order == .gt
  | .atLeast => order != .lt
  | _ => false

/-- The value of a comparison. -/
def compare (collation : Collation) (encoding : Encoding) (operator : Operator)
    (first second : Value) : Value :=
  if (first == .null || second == .null) && !operator.isDecided then .null
  else Value.ofBool (holds (Value.compareBy collation encoding first second) operator)

/-- The conjunction of two values. -/
def both (first second : Value) : Value :=
  if first.isFalse || second.isFalse then Value.ofBool false
  else if first == .null || second == .null then .null
  else Value.ofBool true

/-- The disjunction of two values. -/
def either (first second : Value) : Value :=
  if first.isTrue || second.isTrue then Value.ofBool true
  else if first == .null || second == .null then .null
  else Value.ofBool false

/-- The negation of a value. -/
def opposite (value : Value) : Value :=
  if value == .null then .null else Value.ofBool !value.isTrue

/-! ## Arithmetic -/

/-- A whole number if it is in range, or else a number in floating point. -/
def wholeOr (whole : Int) (number : Float) : Value :=
  if isWhole whole then .integer whole else Value.ofFloat number

/-- A whole number shifted to the left, within the range of whole numbers. -/
def shifted (number amount : Int) : Int :=
  if amount < 0 then number / Nat.pow 2 (min amount.natAbs 64)
  else wrapped (number * Nat.pow 2 (min amount.natAbs 64))

/-- The value of an operation on whole numbers, of which the result may lie out of range. -/
def ofWhole (left right : Int) : Operator → Value
  | .add => wholeOr (left + right) (Float.ofInt left + Float.ofInt right)
  | .subtract => wholeOr (left - right) (Float.ofInt left - Float.ofInt right)
  | .multiply => wholeOr (left * right) (Float.ofInt left * Float.ofInt right)
  | .divide =>
    if right = 0 then .null
    else wholeOr (Int.tdiv left right) (Float.ofInt left / Float.ofInt right)
  | .remainder => if right = 0 then .null else .integer (Int.tmod left right)
  | _ => .null

/-- The value of an operation on numbers in floating point. -/
def ofFloats (left right : Float) : Operator → Value
  | .add => Value.ofFloat (left + right)
  | .subtract => Value.ofFloat (left - right)
  | .multiply => Value.ofFloat (left * right)
  | .divide => if right == 0 then .null else Value.ofFloat (left / right)
  | _ => .null

/-- The value of an operation in arithmetic. -/
def calculate (operator : Operator) (first second : Value) : Value :=
  match first.toNumber, second.toNumber with
  | .integer left, .integer right => ofWhole left right operator
  | left, right =>
    if operator = .remainder then
      if second.wholeOf = 0 then .null
      else Value.ofFloat (Float.ofInt (Int.tmod first.wholeOf second.wholeOf))
    else ofFloats left.floatOf right.floatOf operator

/-- The value of two texts put together. -/
def joined (encoding : Encoding) (first second : Value) : Value :=
  match Affinity.toText first, Affinity.toText second with
  | .text left, .text right => .text (left ++ right)
  | left, right => encoding.textOf (left.bytes encoding ++ right.bytes encoding)

/-- The value of an operator that neither compares nor puts conditions together. -/
def act (encoding : Encoding) (operator : Operator) (first second : Value) : Value :=
  if first == .null || second == .null then .null
  else
    match operator with
    | .bitAnd => .integer (Int64.ofInt first.wholeOf &&& Int64.ofInt second.wholeOf).toInt
    | .bitOr => .integer (Int64.ofInt first.wholeOf ||| Int64.ofInt second.wholeOf).toInt
    | .shiftLeft => .integer (shifted first.wholeOf second.wholeOf)
    | .shiftRight => .integer (shifted first.wholeOf (-second.wholeOf))
    | .join => joined encoding first second
    | _ => calculate operator first second

/-- The bits of a value turned over. -/
def complement (value : Value) : Value :=
  if value == .null then .null else .integer (-value.wholeOf - 1)

end Operator

end SchemaPlan.Relational
