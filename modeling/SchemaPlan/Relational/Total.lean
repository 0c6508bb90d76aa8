import SchemaPlan.Relational.Builtin
import SchemaPlan.Relational.Collation
import SchemaPlan.Relational.Trouble

/-!
# Functions of all rows

The functions that take values of all rows of a group and return one.  Missing values do not count,
except where rows are counted.

Whole numbers are summed up exactly as long as the sum is one.  Numbers in floating point are summed
up together with the error that rounding makes at every step.
-/

set_option autoImplicit false

namespace SchemaPlan.Relational

/-! ## Sums -/

/-- A sum under way. -/
structure Sum where
  count : Nat := 0
  whole : Int := 0
  number : Float := 0
  /-- What rounding has taken off so far. -/
  error : Float := 0
  /-- Whether the sum is in floating point. -/
  isRounded : Bool := false
  /-- Whether a sum of whole numbers alone has been too great for one. -/
  isOverflown : Bool := false

namespace Sum

/-- Adds a number in floating point. -/
def addFloat (sum : Sum) (number : Float) : Sum :=
  let total := sum.number + number
  let error :=
    if number.abs < sum.number.abs then (sum.number - total) + number
    else (number - total) + sum.number
  { sum with number := total, error := sum.error + error }

/-- From here on whole numbers are added in two parts. -/
def splitBound : Int := 4503599627370496

/-- The lower part of a great number. -/
def lower (whole : Int) : Int := if whole.natAbs < splitBound then 0 else Int.tmod whole 16384

/-- Adds a whole number to a sum in floating point. -/
def addWhole (sum : Sum) (whole : Int) : Sum :=
  let low := lower whole
  let added := sum.addFloat (Float.ofInt (whole - low))
  if low = 0 then added else added.addFloat (Float.ofInt low)

/-- The sum in floating point. -/
def toRounded (sum : Sum) : Sum :=
  let low := lower sum.whole
  { sum with
    isRounded := true
    number := Float.ofInt (sum.whole - low)
    error := Float.ofInt low }

/-- Adds a value, unless it is missing. -/
def add (sum : Sum) (value : Value) : Sum :=
  if value == .null then sum
  else
    let sum := { sum with count := sum.count + 1 }
    match value.exactNumber?, sum.isRounded with
    | some (.integer whole), false =>
      if isWhole (sum.whole + whole) then { sum with whole := sum.whole + whole }
      else { sum.toRounded with isOverflown := true }.addWhole whole
    | some (.integer whole), true => sum.addWhole whole
    | _, false => sum.toRounded.addFloat value.floatOf
    | _, true => { sum with isOverflown := false }.addFloat value.floatOf

/-- The sum of some values. -/
def ofValues (values : List Value) : Sum := values.foldl add {}

/-- The sum as a number in floating point. -/
def toFloat (sum : Sum) : Float :=
  if !sum.isRounded then Float.ofInt sum.whole
  else if sum.error.isFinite then sum.number + sum.error
  else sum.number

/-- The sum as a value, which is missing without values. -/
def value (sum : Sum) : Except Trouble Value :=
  if sum.count = 0 then .ok .null
  else if !sum.isRounded then .ok (.integer sum.whole)
  else if sum.isOverflown then .error .tooGreat
  else .ok (Value.ofFloat sum.toFloat)

/-- The mean of the values, which is missing without values. -/
def mean (sum : Sum) : Value :=
  if sum.count = 0 then .null else Value.ofFloat (sum.toFloat / Float.ofNat sum.count)

end Sum

end SchemaPlan.Relational

/-! ## Functions -/

namespace SchemaPlan.Relational.Totalling

/-- The place of the least or the greatest value that is not missing, among values with places.  Of
equal ones it is the first. -/
def extreme? (isBetter : Ordering → Bool) (habit : Habit) (values : List (Value × Nat)) :
    Option (Value × Nat) :=
  (values.filter fun (value, _) => value != .null).foldl (fun best (value, place) =>
    match best with
    | none => some (value, place)
    | some (found, _) =>
      if isBetter (Value.compareBy habit.collation habit.encoding value found) then
        some (value, place)
      else best) none

/-- Texts with a separator before each of them but the first one. -/
def joined (rows : List (Value × Value)) : Value :=
  match rows.filter fun (value, _) => value != .null with
  | [] => .null
  | (first, _) :: rest =>
    .ofChars (first.chars ++ rest.flatMap fun (value, separator) =>
      separator.chars ++ value.chars)

/-- The rows of one argument. -/
def column (rows : List (List Value)) (place : Nat) : List Value :=
  rows.map fun row => row.getD place .null

/-- The value of a function of rows with a number of arguments, if there is one of this name. -/
def invoke? (habit : Habit) (function : String) (count : Nat) (rows : List (List Value)) :
    Option (Except Trouble Value) :=
  let values := column rows 0
  let sum := Sum.ofValues values
  match function, count with
  | "COUNT", 0 => some (.ok (.integer rows.length))
  | "COUNT", 1 => some (.ok (.integer (values.filter (· != .null)).length))
  | "SUM", 1 => some sum.value
  | "TOTAL", 1 => some (.ok (Value.ofFloat sum.toFloat))
  | "AVG", 1 => some (.ok sum.mean)
  | "MIN", 1 => some (.ok (((extreme? (· == .lt) habit values.zipIdx).map (·.1)).getD .null))
  | "MAX", 1 => some (.ok (((extreme? (· == .gt) habit values.zipIdx).map (·.1)).getD .null))
  | "GROUP_CONCAT", 1 => some (.ok (joined (values.map (·, .text ","))))
  | "GROUP_CONCAT", 2 | "STRING_AGG", 2 => some (.ok (joined (values.zip (column rows 1))))
  | _, _ => none

/-- Whether there is a function of rows with a name and a number of arguments. -/
def isKnown (function : String) (count : Nat) : Bool :=
  (invoke? ⟨.utf8, .binary⟩ function count []).isSome

/-- The place of the row that a function takes its value from, if it takes one: the last row that
has been better than those before it, or the last one at all as long as none has a value. -/
def best? (habit : Habit) (function : String) (values : List Value) : Option Nat :=
  let isBetter : Ordering → Bool := if function == "MIN" then (· == .lt) else (· == .gt)
  match extreme? isBetter habit values.zipIdx with
  | some (_, place) => some place
  | none => if values.isEmpty then none else some (values.length - 1)

/-- Whether a function takes its value from one row. -/
def takesRow (function : String) : Bool := function == "MIN" || function == "MAX"

end SchemaPlan.Relational.Totalling
