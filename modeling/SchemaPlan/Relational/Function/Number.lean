import SchemaPlan.Relational.Collation
import SchemaPlan.Relational.Trouble

/-!
# Functions of numbers

What stands for no number counts as zero, but a missing value stays missing.
-/

set_option autoImplicit false

namespace SchemaPlan.Relational.Function

/-- A number without its sign.  The least whole number has none. -/
def absolute : Value → Except Trouble Value
  | .null => .ok .null
  | .integer number =>
    if isWhole number.natAbs then .ok (.integer number.natAbs) else .error .tooGreat
  | value => .ok (Value.ofFloat value.floatOf.abs)

/-- Whether a number is less than, equal to or greater than zero. -/
def sign (value : Value) : Value :=
  match value.exactNumber? with
  | some (.integer number) => .integer number.sign
  | some (.real bits) =>
    let number := Value.toFloat bits
    .integer (if number < 0 then -1 else if 0 < number then 1 else 0)
  | _ => .null

/-- The greatest number of digits to which a number is rounded. -/
def maxPlaces : Int := 30

/-- From here on numbers in floating point are whole. -/
def wholeBound : Float := 4503599627370496.0

/-- A number rounded to a number of digits after the point. -/
def round (value : Value) (places : Option Value) : Value :=
  if value == .null || places == some .null then .null
  else
    let places := (max 0 (min maxPlaces ((places.map Value.shortOf).getD 0))).toNat
    let number := value.floatOf
    if number < -wholeBound || wholeBound < number then Value.ofFloat number
    else if places = 0 then
      let half := if number < 0 then -0.5 else 0.5
      Value.ofFloat (Float.ofInt (Value.truncated (number + half)))
    else
      match Decimal.digits? number.toBits with
      | none => Value.ofFloat number
      | some digits =>
        let style : Decimal.Style := { layout := .fixed, precision := places, isExact := true }
        let written := (if digits.isNegative then ['-'] else []) ++ style.write digits
        match Numeral.ofChars? written with
        | some numeral => Value.ofFloat numeral.toFloat
        | none => Value.ofFloat number

/-- The least of some values, of which none may be missing.  Of equal ones it is the last. -/
def least (collation : Collation) (encoding : Encoding) (first : Value) (rest : List Value) :
    Value :=
  if (first :: rest).contains .null then .null
  else rest.foldl (fun best value =>
    if (Value.compareBy collation encoding best value).isGE then value else best) first

/-- The greatest of some values, of which none may be missing.  Of equal ones it is the first. -/
def greatest (collation : Collation) (encoding : Encoding) (first : Value) (rest : List Value) :
    Value :=
  if (first :: rest).contains .null then .null
  else rest.foldl (fun best value =>
    if Value.compareBy collation encoding best value == .lt then value else best) first

/-- Bytes that are all zero, as many as a number says. -/
def zeros (value : Value) : Except Trouble Value :=
  let count := max 0 value.wholeOf
  if 1000000 < count then .error .tooGreat else .ok (.blob (List.replicate count.toNat 0))

end SchemaPlan.Relational.Function
