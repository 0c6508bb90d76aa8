import SchemaPlan.Text.Basic

/-!
# Numerals

A text in a column of whole numbers is read as a decimal numeral: a sign, digits, a point with
further digits and a power of ten, of which only some digit has to be there.  Digits alone stand
for exactly their number.  Any other numeral stands for the binary number of 53 digits that is
nearest to its value, and counts only if that is a whole number.
-/

set_option autoImplicit false

namespace SchemaPlan

/-- A decimal numeral. -/
structure Numeral where
  negative : Bool
  /-- The digits before the point. -/
  whole : List Char
  /-- The digits after the point, if there is a point. -/
  fraction : Option (List Char)
  /-- The power of ten, if one is written. -/
  power : Option Int
deriving DecidableEq, Repr

namespace Numeral

/-! ## Reading -/

/-- The number that a digit stands for. -/
def digitValue (digit : Char) : Nat := digit.toNat - '0'.toNat

/-- The number that digits stand for. -/
def digitsValue (digits : List Char) : Nat :=
  digits.foldl (fun value digit => value * 10 + digitValue digit) 0

/-- The sign in front of a number, and the rest.  Without a sign a number is not negative. -/
def splitSign : List Char → Bool × List Char
  | '-' :: rest => (true, rest)
  | '+' :: rest => (false, rest)
  | characters => (false, characters)

/-- The power of ten that ends a numeral: nothing, or a letter `e` with a number. -/
def readPower? : List Char → Option (Option Int)
  | [] => some none
  | mark :: rest =>
    let (negative, digits) := splitSign rest
    if (mark == 'e' || mark == 'E') && !digits.isEmpty && digits.all Char.isDigit then
      let magnitude : Int := digitsValue digits
      some (some (if negative then -magnitude else magnitude))
    else none

/-- The point of a numeral with the digits after it, and the rest. -/
def splitFraction : List Char → Option (List Char) × List Char
  | '.' :: rest => (some (rest.takeWhile Char.isDigit), rest.dropWhile Char.isDigit)
  | characters => (none, characters)

/-- The numeral that characters write. -/
def ofChars? (characters : List Char) : Option Numeral :=
  let (negative, unsigned) := splitSign characters
  let whole := unsigned.takeWhile Char.isDigit
  let (fraction, rest) := splitFraction (unsigned.dropWhile Char.isDigit)
  if whole.isEmpty && (fraction.getD []).isEmpty then none
  else (readPower? rest).map fun power => ⟨negative, whole, fraction, power⟩

/-- A blank of ASCII. -/
def isPlainBlank (character : Char) : Bool :=
  decide (character.toNat < 0x80) && Text.isBlank character

/-- The numeral that a text with blanks around it writes. -/
def ofText? (text : String) : Option Numeral :=
  ofChars? (Text.trimWhere isPlainBlank text.toList)

/-! ## Rounding -/

/-- The quotient of two numbers rounded to the nearest whole number; of two that are equally
near, to the even one. -/
def roundedQuotient (dividend divisor : Nat) : Nat :=
  let quotient := dividend / divisor
  let twice := 2 * (dividend % divisor)
  if twice < divisor then quotient
  else if divisor < twice then quotient + 1
  else quotient + quotient % 2

/-- The number of digits of the binary numbers to which values are rounded. -/
def precision : Nat := 53

/-- Below this power of one half a value is rounded to zero. -/
def vanishing : Nat := 1075

/-- The whole number to which a quotient is rounded, unless it is rounded to a number that is not
whole. -/
def wholeQuotient? (dividend divisor : Nat) : Option Nat :=
  let quotient := dividend / divisor
  if Nat.pow 2 precision ≤ quotient then
    let unit := Nat.pow 2 (quotient.log2 + 1 - precision)
    some (roundedQuotient dividend (divisor * unit) * unit)
  else
    let unit := Nat.pow 2 (if quotient = 0 then precision else precision - 1 - quotient.log2)
    let rounded := roundedQuotient (dividend * unit) divisor
    if rounded % unit = 0 ∧ rounded ≠ 0 then some (rounded / unit)
    else if dividend * Nat.pow 2 vanishing ≤ divisor then some 0
    else none

/-! ## Values -/

/-- Once a significand has reached this number no further digits are added to it. -/
def fullSignificand : Nat := 1844674407370955160

/-- Adds a digit before the point: to the significand, or else to the power of ten. -/
def addWhole (read : Nat × Int) (digit : Char) : Nat × Int :=
  if read.1 < fullSignificand then (read.1 * 10 + digitValue digit, read.2)
  else (read.1, read.2 + 1)

/-- Adds a digit after the point, unless the significand is full. -/
def addFraction (read : Nat × Int) (digit : Char) : Nat × Int :=
  if read.1 < fullSignificand then (read.1 * 10 + digitValue digit, read.2 - 1) else read

/-- The greatest power of ten that is told from greater ones. -/
def maxPower : Int := 10000

/-- The significand of a numeral with its power of ten. -/
def scientific (numeral : Numeral) : Nat × Int :=
  let (significand, power) :=
    (numeral.fraction.getD []).foldl addFraction (numeral.whole.foldl addWhole (0, 0))
  (significand, power + max (-maxPower) (min maxPower (numeral.power.getD 0)))

/-- The first number above those of a column of whole numbers. -/
def bound : Nat := 9223372036854775808

/-- A number with its sign. -/
def withSign (negative : Bool) (magnitude : Nat) : Int :=
  if negative then -magnitude else magnitude

/-- The whole number that a numeral stands for in a column of whole numbers. -/
def toInt? (numeral : Numeral) : Option Int :=
  match numeral.fraction, numeral.power with
  | none, none =>
    let value := withSign numeral.negative (digitsValue numeral.whole)
    if -bound ≤ value ∧ value < bound then some value else none
  | _, _ =>
    let (significand, power) := numeral.scientific
    let magnitude :=
      if 0 ≤ power then wholeQuotient? (significand * Nat.pow 10 power.toNat) 1
      else wholeQuotient? significand (Nat.pow 10 (-power).toNat)
    (magnitude.filter fun magnitude => decide (magnitude < bound)).map (withSign numeral.negative)

end Numeral

end SchemaPlan
