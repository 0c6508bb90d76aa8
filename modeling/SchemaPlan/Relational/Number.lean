import SchemaPlan.Relational.Value

/-!
# Numbers in values

A text may begin with a number.  In arithmetic it counts as that number, and as zero if there is
none.  Digits alone make a whole number; a point or a power of ten makes one in floating point.
-/

set_option autoImplicit false

namespace SchemaPlan

/-! ## Numerals -/

namespace Numeral

/-- Whether a numeral has digits alone. -/
def isWhole (numeral : Numeral) : Bool := numeral.fraction.isNone && numeral.power.isNone

/-- A significand with as little of its power of ten as it allows, in at most as many steps. -/
def balanced : Nat → Nat × Int → Nat × Int
  | 0, found => found
  | fuel + 1, (significand, power) =>
    if 0 < power ∧ significand < 1844674407370955161 then
      balanced fuel (significand * 10, power - 1)
    else if power < 0 ∧ significand % 10 = 0 then balanced fuel (significand / 10, power + 1)
    else (significand, power)

/-- The number in floating point that a numeral stands for. -/
def toFloat (numeral : Numeral) : Float :=
  let (significand, power) := numeral.scientific
  let (significand, power) := if significand = 0 then (0, 0) else balanced 20 (significand, power)
  let magnitude := Float.ofBits ((Extended.ofQuotient significand 1).scaled power).toBits
  if numeral.negative then -magnitude else magnitude

/-- The power of ten at the front of characters, if its digits are there, and the rest. -/
def splitPower (characters : List Char) : Option Int × List Char :=
  match characters with
  | mark :: rest =>
    let (negative, digits) := splitSign rest
    let read := digits.takeWhile Char.isDigit
    if (mark == 'e' || mark == 'E') && !read.isEmpty then
      (some (withSign negative (digitsValue read)), digits.dropWhile Char.isDigit)
    else (none, characters)
  | [] => (none, [])

/-- The numeral at the front of characters, and the rest. -/
def ofPrefix? (characters : List Char) : Option (Numeral × List Char) :=
  let (negative, unsigned) := splitSign characters
  let whole := unsigned.takeWhile Char.isDigit
  let (fraction, rest) := splitFraction (unsigned.dropWhile Char.isDigit)
  if whole.isEmpty && (fraction.getD []).isEmpty then none
  else
    let (power, rest) := splitPower rest
    some (⟨negative, whole, fraction, power⟩, rest)

end Numeral

namespace Relational

/-! ## Whole numbers -/

/-- The bounds of whole numbers. -/
def isWhole (value : Int) : Bool := decide (-Numeral.bound ≤ value ∧ value < Numeral.bound)

/-- The whole number within the bounds that is nearest to a whole number. -/
def saturated (value : Int) : Int := max (-Numeral.bound) (min (Numeral.bound - 1) value)

/-- The whole number in 64 bits that is congruent to a whole number. -/
def wrapped (value : Int) : Int := Int.bmod value (Nat.pow 2 64)

namespace Value

/-- The whole number that a number in floating point is cut off to, within the bounds. -/
def truncated (number : Float) : Int := number.toInt64.toInt

/-- The whole number that a number in floating point is equal to, unless it is at the bounds. -/
def wholeOf? (number : Float) : Option Int :=
  let whole := truncated number
  if Float.ofInt whole == number && decide (-Numeral.bound < whole ∧ whole < Numeral.bound - 1) then
    some whole
  else none

/-! ## Reading -/

/-- The value that a numeral stands for. -/
def ofNumeral (numeral : Numeral) : Value :=
  let whole := Numeral.withSign numeral.negative (Numeral.digitsValue numeral.whole)
  if numeral.isWhole && isWhole whole then integer whole else ofFloat numeral.toFloat

/-- The characters of a value after the blanks in front of them. -/
def unpadded (value : Value) : List Char := value.chars.dropWhile Numeral.isPlainBlank

/-- The number that a value is, or that a whole text stands for with blanks around it. -/
def exactNumber? : Value → Option Value
  | integer value => some (integer value)
  | real bits => some (real bits)
  | text value =>
    match Numeral.ofPrefix? (value.toList.dropWhile Numeral.isPlainBlank) with
    | some (numeral, rest) =>
      if rest.all Numeral.isPlainBlank then some (ofNumeral numeral) else none
    | none => none
  | null | garbled _ | blob _ => none

/-- The number that a value counts as in arithmetic. -/
def toNumber : Value → Value
  | null => null
  | integer value => integer value
  | real bits => real bits
  | value =>
    match Numeral.ofPrefix? value.unpadded with
    | some (numeral, _) => ofNumeral numeral
    | none => integer 0

/-- The floating point of a number. -/
def floatOf (value : Value) : Float :=
  match value.toNumber with
  | integer value => Float.ofInt value
  | real bits => toFloat bits
  | _ => 0

/-- The whole number that a value counts as in operations on bits.  Of a text only the digits at the
beginning count. -/
def wholeOf : Value → Int
  | null => 0
  | integer value => value
  | real bits => truncated (toFloat bits)
  | value =>
    let (negative, digits) := Numeral.splitSign value.unpadded
    saturated (Numeral.withSign negative (Numeral.digitsValue (digits.takeWhile Char.isDigit)))

/-- The whole number of 32 bits that a value counts as where no more bits are looked at. -/
def shortOf (value : Value) : Int := Int.bmod value.wholeOf (Nat.pow 2 32)

/-- Whether a value counts as true; a missing one does not. -/
def isTrue (value : Value) : Bool :=
  match value.toNumber with
  | integer number => number != 0
  | real bits => toFloat bits != 0
  | _ => false

/-- Whether a value counts as false; a missing one does not. -/
def isFalse (value : Value) : Bool := value != null && !value.isTrue

end Value

end Relational

end SchemaPlan
