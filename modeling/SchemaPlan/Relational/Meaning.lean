import SchemaPlan.Relational.Operator
import SchemaPlan.Relational.Trouble

/-!
# Meanings of expressions

What an expression means is a value for every row on which it stands.  It also brings an affinity
and a collation into a comparison.  A query stands on the rows of the queries around it, so a row
has rows of further levels behind it.
-/

set_option autoImplicit false

namespace SchemaPlan.Relational

/-! ## Rows -/

/-- A value that need not be there.  The trouble arises once the value is asked for. -/
abbrev Cell : Type := Except Trouble Value

/-- Where an expression stands on one level. -/
structure Standing where
  row : Array Cell := #[]
  /-- The values of functions of all rows of the group. -/
  totals : Array Cell := #[]
  /-- The values of functions of the rows of windows. -/
  windows : Array Cell := #[]

/-- Where an expression stands: on its own level first, then on those around it. -/
abbrev Stand : Type := List Standing

/-- The standing on a level. -/
def Stand.on (stand : Stand) (level : Nat) : Standing := stand.getD level {}

/-- A cell of a row, of which missing ones have missing values. -/
def cellAt (cells : Array Cell) (place : Nat) : Cell := cells.getD place (.ok .null)

/-! ## Kinds of values -/

/-- The kinds of values that an expression may have beside missing ones. -/
structure Kinds where
  hasNumbers : Bool
  hasTexts : Bool
  hasBytes : Bool
deriving DecidableEq, Repr

namespace Kinds

/-- No values. -/
def none : Kinds := ⟨false, false, false⟩

/-- Any values. -/
def any : Kinds := ⟨true, true, true⟩

/-- Numbers. -/
def numbers : Kinds := ⟨true, false, false⟩

/-- The kinds of both. -/
def both (first second : Kinds) : Kinds :=
  ⟨first.hasNumbers || second.hasNumbers, first.hasTexts || second.hasTexts,
    first.hasBytes || second.hasBytes⟩

/-- The kind of a value. -/
def ofValue : Value → Kinds
  | .null => none
  | .integer _ | .real _ => numbers
  | .text _ | .garbled _ => ⟨false, true, false⟩
  | .blob _ => ⟨false, false, true⟩

/-- The kinds that an affinity leaves. -/
def ofAffinity : Option Affinity → Kinds
  | some .text => ⟨false, true, true⟩
  | some affinity => if affinity.isNumeric then ⟨true, false, true⟩ else any
  | Option.none => any

end Kinds

/-! ## Meanings -/

/-- What an expression means. -/
structure Meaning where
  value : Stand → Except Trouble Value
  /-- Whether the value is a document and not only the text of one. -/
  isDocument : Stand → Except Trouble Bool := fun _ => .ok false
  affinity : Option Affinity := none
  collation : Option Collation := none
  /-- Whether the collation is written with the expression. -/
  isCollated : Bool := false
  kinds : Kinds := .numbers
  /-- The levels on which the value depends. -/
  levels : List Nat := []
  /-- Whether the value is true, given what a missing value counts as, for an expression of which
  not all parts need to be looked at to know it. -/
  test? : Option (Bool → Stand → Except Trouble Bool) := none

namespace Meaning

/-- The meaning of a constant. -/
def constant (value : Value) : Meaning where
  value := fun _ => .ok value
  kinds := .ofValue value

/-- The levels on which some meanings depend. -/
def levelsOf (meanings : List Meaning) : List Nat := (meanings.flatMap (·.levels)).eraseDups

/-- The collation that is written with one of some meanings. -/
def written? (meanings : List Meaning) : Option Collation :=
  (meanings.find? (·.isCollated)).bind (·.collation)

/-- The meaning of something that is made of others. -/
def ofParts (parts : List Meaning) (value : Stand → Except Trouble Value) : Meaning where
  value
  collation := written? parts
  isCollated := parts.any (·.isCollated)
  levels := levelsOf parts

/-- The meaning of a value that is made of another one. -/
def map (meaning : Meaning) (change : Value → Value) : Meaning :=
  ofParts [meaning] fun stand => do return change (← meaning.value stand)

/-- Whether a meaning is true somewhere, given what a missing value counts as. -/
def test (meaning : Meaning) (missing : Bool) (stand : Stand) : Except Trouble Bool :=
  match meaning.test? with
  | some test => test missing stand
  | none => do
    let value ← meaning.value stand
    return if value == .null then missing else value.isTrue

/-- Whether a meaning is true somewhere. -/
def isTrue (meaning : Meaning) (stand : Stand) : Except Trouble Bool := meaning.test false stand

/-- Whether a condition, if there is one, is true somewhere. -/
def allows (condition : Option Meaning) (stand : Stand) : Except Trouble Bool :=
  match condition with
  | some condition => condition.isTrue stand
  | none => .ok true

/-- The values of some meanings. -/
def values (meanings : List Meaning) (stand : Stand) : Except Trouble (List Value) :=
  meanings.mapM (·.value stand)

/-! ## Comparing -/

/-- The collation by which two values are compared. -/
def collationOf (left right : Meaning) : Collation :=
  (((if left.isCollated then left.collation
    else if right.isCollated then right.collation
    else none).or left.collation).or right.collation).getD .binary

/-- Two values brought together for a comparison, given the affinities of where they come from. -/
def align (left right : Option Affinity) (first second : Value) : Value × Value :=
  let isNumeric (affinity : Option Affinity) := affinity.any Affinity.isNumeric
  if isNumeric left || isNumeric right then (Affinity.toNumber first, Affinity.toNumber second)
  else
    let isText := (left == some .text && right.isNone) || (right == some .text && left.isNone)
    if isText && (first.isText || second.isText) then
      (Affinity.toText first, Affinity.toText second)
    else (first, second)

/-- The value of a comparison of two values that come from two meanings. -/
def compareValues (encoding : Encoding) (operator : Operator) (left right : Meaning)
    (first second : Value) : Value :=
  let (first, second) := align left.affinity right.affinity first second
  operator.compare (collationOf left right) encoding first second

/-- The meaning of a comparison. -/
def compare (encoding : Encoding) (operator : Operator) (left right : Meaning) : Meaning :=
  ofParts [left, right] fun stand => do
    return compareValues encoding operator left right (← left.value stand) (← right.value stand)

/-- The meaning of a conjunction.  The operand on the left may decide whether it is true. -/
def both (left right : Meaning) : Meaning :=
  { ofParts [left, right] fun stand => do
      return Operator.both (← left.value stand) (← right.value stand)
    with
    test? := some fun missing stand => do
      if ← left.test missing stand then right.test missing stand else return false }

/-- The meaning of a disjunction.  The operand on the left may decide whether it is true. -/
def either (left right : Meaning) : Meaning :=
  { ofParts [left, right] fun stand => do
      return Operator.either (← left.value stand) (← right.value stand)
    with
    test? := some fun missing stand => do
      if ← left.test missing stand then return true else right.test missing stand }

/-- The meaning of a negation. -/
def opposite (operand : Meaning) : Meaning :=
  { operand.map Operator.opposite with
    test? := some fun missing stand => do return !(← operand.test (!missing) stand) }

/-! ## Rows of values -/

/-- The value of a comparison of two meanings somewhere. -/
def comparePair (encoding : Encoding) (operator : Operator) (pair : Meaning × Meaning)
    (stand : Stand) : Except Trouble Value := do
  return compareValues encoding operator pair.1 pair.2 (← pair.1.value stand)
    (← pair.2.value stand)

/-- Whether the values of one row are equal to those of another one, pair by pair, up to the first
pair that decides it. -/
def compareEqual (encoding : Encoding) (operator : Operator) :
    List (Meaning × Meaning) → Stand → Except Trouble Value
  | [], _ => .ok (.ofBool true)
  | pair :: rest, stand => do
    let found ← comparePair encoding operator pair stand
    if found.isFalse then return found
    return Operator.both found (← compareEqual encoding operator rest stand)

/-- The value of an inequality of two rows, which the first pair decides that is not equal. -/
def compareOrder (encoding : Encoding) (operator : Operator) :
    List (Meaning × Meaning) → Stand → Except Trouble Value
  | [], _ => .ok (.ofBool (operator == .atMost || operator == .atLeast))
  | [pair], stand => comparePair encoding operator pair stand
  | pair :: rest, stand => do
    let isEqual ← comparePair encoding .equal pair stand
    if isEqual.isTrue then compareOrder encoding operator rest stand
    else if isEqual == .null then return .null
    else
      let strict := match operator with
        | .atMost => Operator.less
        | .atLeast => .greater
        | other => other
      comparePair encoding strict pair stand

/-- The value of a comparison of two rows of values. -/
def compareRows (encoding : Encoding) (operator : Operator) (pairs : List (Meaning × Meaning))
    (stand : Stand) : Except Trouble Value :=
  match operator with
  | .equal | .same => compareEqual encoding operator pairs stand
  | .unequal => Operator.opposite <$> compareEqual encoding .equal pairs stand
  | .different => Operator.opposite <$> compareEqual encoding .same pairs stand
  | operator => compareOrder encoding operator pairs stand

/-- The meanings with values that are known beforehand. -/
def given (meanings : List Meaning) (values : List Value) : List Meaning :=
  (meanings.zip values).map fun (meaning, value) => { meaning with value := fun _ => .ok value }

end Meaning

end SchemaPlan.Relational
