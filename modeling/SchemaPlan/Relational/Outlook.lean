import SchemaPlan.Relational.Expression
import SchemaPlan.Relational.Order
import SchemaPlan.Relational.Total

/-!
# Windows

From every row of a partition a function sees the rows around it that its window lets through.  The
rows of a partition stand in order; those with equal keys are peers of each other.
-/

set_option autoImplicit false

namespace SchemaPlan.Relational.Windowing

/-- An end of a window, with the distance that it has from a row. -/
inductive Edge where
  | start
  | preceding (distance : Value)
  | current
  | following (distance : Value)
  | finish
deriving DecidableEq, Repr

/-- The rows around a row that a function sees. -/
structure Extent where
  unit : FrameUnit := .range
  first : Edge := .start
  last : Edge := .current
  exclusion : Exclusion := .nothing
deriving DecidableEq, Repr

/-- A row of a partition. -/
structure Seen where
  /-- The keys by which the rows are in order. -/
  keys : List Value
  /-- The number of keys before that are not equal. -/
  group : Nat
deriving DecidableEq, Repr

/-- The rows of a partition in order. -/
structure Partition where
  encoding : Encoding
  directions : List Direction
  rows : Array Seen

namespace Partition

/-- The partition of rows with some keys, which are in order. -/
def ofKeys (encoding : Encoding) (directions : List Direction) (keys : List (List Value)) :
    Partition :=
  let groups := Direction.groups encoding directions (keys.map fun keys => (keys, keys))
  { encoding, directions
    rows := (groups.zipIdx.flatMap fun ((_, members), group) =>
      members.map fun keys => ⟨keys, group⟩).toArray }

/-- The number of rows. -/
def size (partition : Partition) : Nat := partition.rows.size

/-- The group of a row. -/
def group (partition : Partition) (place : Nat) : Nat :=
  (partition.rows[place]?.map (·.group)).getD 0

/-- The number of rows before those of a group. -/
def before (partition : Partition) (group : Nat) : Nat :=
  (partition.rows.toList.filter fun row => row.group < group).length

/-- The order of a row and a key moved by a distance, towards the end or away from it. -/
def compareMoved (partition : Partition) (isForward : Bool) (distance : Value)
    (row place : Nat) : Ordering :=
  match partition.directions.head?, (partition.rows[row]?.bind (·.keys.head?)),
      (partition.rows[place]?.bind (·.keys.head?)) with
  | some direction, some key, some origin =>
    let moved := match origin with
      | .integer _ | .real _ =>
        if isForward == direction.isDescending then Operator.calculate .subtract origin distance
        else Operator.calculate .add origin distance
      | other => other
    direction.compare partition.encoding key moved
  | _, _, _ => .eq

/-- The order of a row and an end of the window of another row. -/
def compareEdge (partition : Partition) (unit : FrameUnit) (row place : Nat) : Edge → Ordering
  | .start => .gt
  | .finish => .lt
  | .current =>
    match unit with
    | .rows => compare row place
    | .range | .groups => compare (partition.group row) (partition.group place)
  | .preceding distance =>
    match unit with
    | .rows => compare (row + distance.wholeOf) (place : Int)
    | .groups => compare (partition.group row + distance.wholeOf) (partition.group place : Int)
    | .range => partition.compareMoved false distance row place
  | .following distance =>
    match unit with
    | .rows => compare (row : Int) (place + distance.wholeOf)
    | .groups => compare (partition.group row : Int) (partition.group place + distance.wholeOf)
    | .range => partition.compareMoved true distance row place

/-- Whether a row is left out of the window of another one. -/
def isExcluded (partition : Partition) (row place : Nat) : Exclusion → Bool
  | .nothing => false
  | .current => row == place
  | .group => partition.group row == partition.group place
  | .ties => partition.group row == partition.group place && row != place

/-- The rows in the window of a row. -/
def window (partition : Partition) (extent : Extent) (place : Nat) : List Nat :=
  (List.range partition.size).filter fun row =>
    (partition.compareEdge extent.unit row place extent.first).isGE &&
      (partition.compareEdge extent.unit row place extent.last).isLE &&
      !partition.isExcluded row place extent.exclusion

end Partition

/-! ## Functions -/

/-- The number of the part to which a row belongs when rows are divided into parts of equal size,
of which the first ones may have a row more. -/
def partOf (size parts place : Nat) : Nat :=
  let least := size / parts
  let greater := size - parts * least
  let bound := greater * (least + 1)
  if least = 0 then place + 1
  else if place < bound then 1 + place / (least + 1)
  else 1 + greater + (place - bound) / least

/-- A value that must be a whole number greater than zero. -/
def positive (function : String) (value : Value) : Except Trouble Nat :=
  match Affinity.toWhole (Affinity.toNumber value) with
  | .integer number => if 0 < number then .ok number.toNat else .error (.unfit function)
  | _ => .error (.unfit function)

/-- Whether there is a function of the place of a row with a name and a number of arguments. -/
def isKnown (function : String) (count : Nat) : Bool :=
  match function, count with
  | "ROW_NUMBER", 0 | "RANK", 0 | "DENSE_RANK", 0 | "PERCENT_RANK", 0 | "CUME_DIST", 0 => true
  | "NTILE", 1 | "FIRST_VALUE", 1 | "LAST_VALUE", 1 | "NTH_VALUE", 2 => true
  | "LAG", count | "LEAD", count => decide (1 ≤ count ∧ count ≤ 3)
  | _, _ => false

/-- Whether a function looks at the part of a window around each row. -/
def looksAround (function : String) : Bool :=
  !(["ROW_NUMBER", "RANK", "DENSE_RANK", "PERCENT_RANK", "CUME_DIST", "NTILE", "LAG",
    "LEAD"].contains function)

/-- The quotient of two numbers in floating point. -/
def ratio (dividend divisor : Nat) : Value :=
  Value.ofFloat (Float.ofNat dividend / Float.ofNat divisor)

/-- The value of the first argument at a place before or after a row, or the last argument. -/
def shifted (arguments : Array (List Value)) (own : List Value) (target : Option Int) : Value :=
  let found := target.bind fun target => if target < 0 then none else arguments[target.toNat]?
  match found with
  | some other => other.headD .null
  | none => own.getD 2 .null

/-- The value of a function of the place of a row. -/
def value (partition : Partition) (extent : Extent) (function : String)
    (arguments : Array (List Value)) (place : Nat) : Except Trouble Value := do
  let own := arguments.getD place []
  let distance? : Option Int :=
    match Affinity.toWhole (own.getD 1 (.integer 1)).toNumber with
    | .integer number => some number
    | _ => none
  let group := partition.group place
  let seen := partition.window extent place
  let at? (row : Option Nat) : Value :=
    ((row.bind (arguments[·]?)).bind (·.head?)).getD .null
  match function with
  | "ROW_NUMBER" => return .integer (place + 1)
  | "RANK" => return .integer (partition.before group + 1)
  | "DENSE_RANK" => return .integer (group + 1)
  | "PERCENT_RANK" =>
    return if partition.size ≤ 1 then Value.ofFloat 0
      else ratio (partition.before group) (partition.size - 1)
  | "CUME_DIST" => return ratio (partition.before (group + 1)) partition.size
  | "NTILE" =>
    return .integer (partOf partition.size (← positive function (own.headD .null)) place)
  | "LAG" => return shifted arguments own (distance?.map (place - ·))
  | "LEAD" => return shifted arguments own (distance?.map (place + ·))
  | "FIRST_VALUE" => return at? seen.head?
  | "LAST_VALUE" => return at? seen.getLast?
  | _ =>
    if seen.isEmpty && extent.exclusion != .nothing then return .null
    let count ← positive function (own.getD 1 .null)
    return at? seen[count - 1]?

end SchemaPlan.Relational.Windowing
