import SchemaPlan.Text.Numeral

/-!
# Decimal texts

A binary number of 53 digits has eighteen or nineteen decimal digits that count, which are rounded
further to those that are written.  Numbers that are very great or very small are written with a
power of ten.

Between a decimal text and a binary number of 53 digits there are binary numbers of 64 digits, in
which the powers of ten are multiplied up step by step.  Every step rounds to the nearest number; of
two that are equally near, to the one that is even.
-/

set_option autoImplicit false

namespace SchemaPlan

/-- A number: a significand of at most 64 binary digits times a power of two. -/
structure Extended where
  significand : Nat
  exponent : Int
deriving DecidableEq, Repr

namespace Extended

/-- The number of binary digits. -/
def precision : Nat := 64

/-- The number with a quotient of at most some binary digits that is nearest to a quotient times a
power of two. -/
def rounded (digits : Nat) (dividend divisor : Nat) (exponent : Int) : Extended :=
  if dividend = 0 then ⟨0, 0⟩
  else
    let estimate : Int := ((dividend.log2 : Int) - divisor.log2) - digits
    let shifted (shift : Int) : Nat :=
      Numeral.roundedQuotient (dividend * Nat.pow 2 (-shift).toNat)
        (divisor * Nat.pow 2 shift.toNat)
    let shift := if dividend * Nat.pow 2 (-estimate - 1).toNat <
        divisor * Nat.pow 2 (estimate + 1).toNat * Nat.pow 2 (digits - 1) then estimate
      else estimate + 1
    ⟨shifted shift, shift + exponent⟩

/-- The number that is nearest to a quotient. -/
def ofQuotient (dividend divisor : Nat) : Extended := rounded precision dividend divisor 0

/-- The number that is nearest to a power of ten. -/
def ofPower (power : Int) : Extended :=
  ofQuotient (Nat.pow 10 power.toNat) (Nat.pow 10 (-power).toNat)

/-- The product of two numbers. -/
def times (first second : Extended) : Extended :=
  rounded precision (first.significand * second.significand) 1 (first.exponent + second.exponent)

/-- Whether a number is less than another one. -/
def isLess (first second : Extended) : Bool :=
  let least := min first.exponent second.exponent
  decide (first.significand * Nat.pow 2 (first.exponent - least).toNat <
    second.significand * Nat.pow 2 (second.exponent - least).toNat)

/-- The whole part of a number. -/
def whole (number : Extended) : Nat :=
  number.significand * Nat.pow 2 number.exponent.toNat / Nat.pow 2 (-number.exponent).toNat

/-! ## Powers of ten -/

/-- Multiplies by a power of ten, in steps of a hundred, ten and one. -/
def scaled (number : Extended) (power : Int) : Extended :=
  let step : Int := if power < 0 then -1 else 1
  let repeated (count : Nat) (size : Int) (number : Extended) : Extended :=
    (List.range count).foldl (fun number _ => number.times (ofPower (step * size))) number
  repeated (power.natAbs % 10) 1
    (repeated (power.natAbs / 10 % 10) 10 (repeated (power.natAbs / 100) 100 number))

/-- Multiplies by a power of ten while a number is out of bounds, at most as often as given, and
returns the exponent of the powers together. -/
def brought (isOut : Extended → Bool) (power : Int) : Nat → Extended × Int → Extended × Int
  | 0, found => found
  | fuel + 1, (number, total) =>
    if isOut number then brought isOut power fuel (number.times (ofPower power), total - power)
    else (number, total)

/-- A number brought to seventeen or more digits before the point, and to fewer than twenty, with
the power of ten that has been taken off. -/
def leading (number : Extended) : Extended × Int :=
  let isLeast (power : Int) (number : Extended) : Bool := !number.isLess (ofPower power)
  let isBelow (power : Int) (number : Extended) : Bool := number.isLess (ofPower power)
  if isLeast 19 number then
    brought (isLeast 19) (-1) 10
      (brought (isLeast 29) (-10) 10 (brought (isLeast 119) (-100) 4 (number, 0)))
  else
    brought (isBelow 17) 1 10
      (brought (isBelow 7) 10 11 (brought (isBelow (-97)) 100 4 (number, 0)))

/-! ## Numbers in floating point -/

/-- The number of digits of a number in floating point. -/
def floatPrecision : Nat := 53

/-- The least exponent of a number in floating point. -/
def leastExponent : Int := -1074

/-- The bits of a number in floating point that is not negative, rounded to the nearest. -/
def toBits (number : Extended) : UInt64 :=
  let shift := if number.significand = 0 then leastExponent
    else max leastExponent
      (number.exponent + ((number.significand.log2 : Int) + 1 - floatPrecision))
  let change := shift - number.exponent
  let quotient := Numeral.roundedQuotient (number.significand * Nat.pow 2 (-change).toNat)
    (Nat.pow 2 change.toNat)
  let bits := quotient + (shift - leastExponent).toNat * Nat.pow 2 (floatPrecision - 1)
  (min bits (2047 * Nat.pow 2 52)).toUInt64

/-- The number that some bits of a number in floating point stand for, without its sign. -/
def ofBits (bits : UInt64) : Extended :=
  let fraction := bits.toNat % Nat.pow 2 52
  let exponent : Nat := bits.toNat / Nat.pow 2 52 % Nat.pow 2 11
  if exponent = 0 then ⟨fraction, leastExponent⟩
  else ⟨fraction + Nat.pow 2 52, leastExponent + (exponent - 1 : Nat)⟩

end Extended

end SchemaPlan

namespace SchemaPlan.Decimal

/-! ## Digits -/

/-- The decimal digits of a number, without zeros at the end. -/
structure Digits where
  isNegative : Bool
  digits : List Char
  /-- The number of digits before the point. -/
  point : Int
deriving DecidableEq, Repr

/-- Digits with the last one raised by one, and whether a digit has been added in front. -/
def raised (digits : List Char) : List Char × Bool :=
  let nines := digits.reverse.takeWhile (· == '9')
  match digits.reverse.dropWhile (· == '9') with
  | [] => ('1' :: nines.map fun _ => '0', true)
  | last :: before =>
    (before.reverse ++ Char.ofNat (last.toNat + 1) :: nines.map fun _ => '0', false)

/-- The first digits, of which the last one is rounded. -/
def roundedTo (count : Nat) (digits : List Char) : List Char × Bool :=
  if (digits.drop count).head?.any fun next => decide ('5' ≤ next) then
    raised (digits.take count)
  else (digits.take count, false)

/-- Digits without the zeros at the end. -/
def trimmed (digits : List Char) : List Char := (digits.reverse.dropWhile (· == '0')).reverse

/-- Rounds digits before a point to a number of digits after it, or to a number of digits in all,
but to no more digits than some most. -/
def Digits.round (number : Digits) (places : Option Nat) (count most : Nat) : Digits :=
  let length := number.digits.length
  let wanted : Int := match places with
    | some places => number.point + places
    | none => count
  if wanted = 0 && number.digits.head?.any fun first => decide ('5' ≤ first) then
    { number with digits := ['1'], point := number.point + 1 }
  else if 0 < wanted && (decide (wanted < length) || decide (most < length)) then
    let (digits, isLonger) := roundedTo (min wanted.toNat most) number.digits
    { number with
      digits := trimmed digits
      point := number.point + if isLonger then 1 else 0 }
  else if 0 < wanted then { number with digits := trimmed number.digits }
  else number

/-- The digits of the number in floating point of some bits, unless it is infinite. -/
def digits? (bits : UInt64) : Option Digits :=
  let isNegative := decide (Nat.pow 2 63 < bits.toNat)
  if bits.toNat / Nat.pow 2 52 % Nat.pow 2 11 = 2047 then none
  else if bits.toNat % Nat.pow 2 63 = 0 then some ⟨false, ['0'], 1⟩
  else
    let (leading, power) := (Extended.ofBits bits).leading
    let digits := (toString leading.whole).toList
    some ⟨isNegative, digits, digits.length + power⟩

/-! ## Writing -/

/-- How the digits of a number are laid out. -/
inductive Layout where
  | fixed
  | power
  /-- With a power only if the number is very great or very small. -/
  | general
deriving DecidableEq, Repr

/-- How a number is written. -/
structure Style where
  layout : Layout
  /-- The number of digits after the point, or in all for the general layout. -/
  precision : Nat
  /-- Whether the digits before the point are put in groups of three. -/
  isGrouped : Bool := false
  /-- Whether there always is a point, and zeros at the end are kept. -/
  isFull : Bool := false
  /-- Whether there always is a point with a digit after it, and more digits count. -/
  isExact : Bool := false
  /-- The letter before a power of ten. -/
  letter : Char := 'e'
deriving DecidableEq, Repr

/-- The number of digits that count. -/
def Style.most (style : Style) : Nat := if style.isExact then 26 else 16

/-- The digits of a number, rounded as they are written. -/
def Style.rounded (style : Style) (number : Digits) : Digits :=
  if number.digits = ['0'] then number
  else
    match style.layout with
    | .fixed => number.round (some style.precision) 0 style.most
    | .power => number.round none (style.precision + 1) style.most
    | .general => number.round none (max 1 style.precision) style.most

/-- Digits with a mark between groups of three. -/
def grouped : List Char → List Char
  | [] => []
  | digit :: rest =>
    if rest.length % 3 = 0 && !rest.isEmpty then digit :: ',' :: grouped rest
    else digit :: grouped rest

/-- A power of ten with its letter and its sign. -/
def powerText (letter : Char) (power : Int) : List Char :=
  let digits := (toString power.natAbs).toList
  letter :: (if power < 0 then '-' else '+') :: (List.replicate (2 - digits.length) '0' ++ digits)

/-- The digits before and after a point, of which the second ones are of a given number. -/
def laidOut (digits : List Char) (point : Int) (precision : Nat) : List Char × List Char :=
  let whole := if point ≤ 0 then ['0']
    else digits.take point.toNat ++ List.replicate (point.toNat - digits.length) '0'
  let fraction := List.replicate (-point).toNat '0' ++ digits.drop point.toNat
  (whole, (fraction ++ List.replicate precision '0').take precision)

/-- The text of a number without its sign. -/
def Style.write (style : Style) (number : Digits) : List Char :=
  let number := style.rounded number
  let power := number.point - 1
  let isGeneral := style.layout = .general
  let most := max 1 style.precision - 1
  let hasPower := style.layout = .power ∨ (isGeneral ∧ (power < -4 ∨ (most : Int) < power))
  let precision := if !isGeneral then style.precision
    else if hasPower then most
    else ((most : Int) - power).toNat
  let (whole, fraction) := laidOut number.digits (if hasPower then 1 else number.point) precision
  let isTrimmed := if isGeneral then !style.isFull else style.isExact
  let hasPoint := decide (0 < precision) || style.isFull || style.isExact
  let fraction := if isTrimmed then trimmed fraction else fraction
  let fraction := if isTrimmed && style.isExact && fraction.isEmpty then ['0'] else fraction
  let tail := if !hasPoint || (isTrimmed && fraction.isEmpty) then [] else '.' :: fraction
  (if style.isGrouped then grouped whole else whole) ++ tail ++
    (if hasPower then powerText style.letter power else [])

/-- How the numbers in columns are written as texts. -/
def plain : Style := { layout := .general, precision := 15, isExact := true }

/-- The text of the number in floating point of some bits. -/
def ofBits (bits : UInt64) : String :=
  match digits? bits with
  | none => if bits.toNat / Nat.pow 2 63 = 0 then "Inf" else "-Inf"
  | some number =>
    String.ofList ((if number.isNegative then ['-'] else []) ++ plain.write number)

end SchemaPlan.Decimal
