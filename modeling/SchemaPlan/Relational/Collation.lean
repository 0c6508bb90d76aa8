import SchemaPlan.Relational.Number

/-!
# Affinities and collations

The declared type of a column gives it an affinity, towards which values are converted when nothing
is lost.  A conversion that is asked for is made in any case.

Values of different kinds are ordered by their kinds: missing values, numbers, texts and bytes.
Texts are compared by a collation, which also depends on the encoding in which they are kept.
-/

set_option autoImplicit false

namespace SchemaPlan.Relational

/-- The kind of values that a column prefers. -/
inductive Affinity where
  | blob
  | text
  | numeric
  | integer
  | real
deriving DecidableEq, Repr

namespace Affinity

/-- Whether a word occurs in a type, in any case. -/
def names (declared word : String) : Bool :=
  let characters := (Text.upper declared).toList
  (List.range characters.length).any fun start =>
    (Text.upper word).toList.isPrefixOf (characters.drop start)

/-- The affinity that the name of a type gives. -/
def ofName (declared : String) : Affinity :=
  if names declared "INT" then integer
  else if ["CHAR", "CLOB", "TEXT"].any (names declared) then text
  else if names declared "BLOB" then blob
  else if ["REAL", "FLOA", "DOUB"].any (names declared) then real
  else numeric

/-- The affinity that the declared type of a column gives, which may be left out. -/
def ofType (declared : String) : Affinity := if declared.isEmpty then blob else ofName declared

/-- Whether numbers are preferred. -/
def isNumeric : Affinity → Bool
  | numeric | integer | real => true
  | blob | text => false

/-! ## Conversions without loss -/

/-- A number as a whole number, if it is equal to one. -/
def toWhole : Value → Value
  | .real bits => ((Value.wholeOf? (Value.toFloat bits)).map Value.integer).getD (.real bits)
  | value => value

/-- A text as a number, if it stands for one. -/
def toNumber : Value → Value
  | .text value => ((Value.text value).exactNumber?).getD (.text value)
  | value => value

/-- A value as a number in floating point, if it is a number. -/
def toReal (value : Value) : Value :=
  match toNumber value with
  | .integer whole => Value.ofFloat (Float.ofInt whole)
  | other => other

/-- A number as a text. -/
def toText : Value → Value
  | .integer value => .text (toString value)
  | .real bits => .text (Decimal.ofBits bits)
  | value => value

/-- A value converted for a column. -/
def apply (affinity : Affinity) (value : Value) : Value :=
  match affinity with
  | blob => value
  | text => toText value
  | numeric | integer => toWhole (toNumber value)
  | real => toReal value

/-! ## Conversions that are asked for -/

/-- A value as a number.  A text without a point or a power of ten in what is read of it gives a
whole number, and so does any number that floating point tells exactly. -/
def numberOf (value : Value) : Value :=
  match value with
  | .null | .integer _ | .real _ => value
  | _ =>
    match value.toNumber with
    | .real bits =>
      let whole := Value.truncated (Value.toFloat bits)
      if Float.ofInt whole == Value.toFloat bits && decide (whole.natAbs < 2251799813685248) then
        .integer whole
      else .real bits
    | other => other

/-- A value converted to the kind that an affinity prefers. -/
def cast (encoding : Encoding) (affinity : Affinity) (value : Value) : Value :=
  match affinity, value with
  | _, .null => .null
  | blob, value => .blob (value.bytes encoding)
  | text, value => value.toText encoding
  | integer, value => .integer value.wholeOf
  | real, value => Value.ofFloat value.floatOf
  | numeric, value => numberOf value

end Affinity

/-! ## Collations -/

/-- A way to compare texts. -/
inductive Collation where
  | binary
  | noCase
  | trailing
deriving DecidableEq, Repr

/-- The collation with a given name, in any case. -/
def Collation.ofName? (name : String) : Option Collation :=
  [("BINARY", binary), ("NOCASE", noCase), ("RTRIM", trailing)].lookup (Text.upper name)

namespace Value

/-- The place of a kind of values in the order of all values. -/
def rank : Value → Nat
  | null => 0
  | integer _ | real _ => 1
  | text _ | garbled _ => 2
  | blob _ => 3

/-- The bytes by which a text is compared. -/
def sortBytes (collation : Collation) (encoding : Encoding) : Value → List UInt8
  | text value =>
    match collation with
    | .binary => encoding.bytes value
    | .noCase => (value.map Char.toLower).toUTF8.toList
    | .trailing =>
      encoding.bytes
        (String.ofList (value.toList.reverse.dropWhile (· == ' ')).reverse)
  | garbled bytes | blob bytes => bytes
  | null | integer _ | real _ => []

/-- The order of a whole number and a number in floating point. -/
def compareMixed (whole : Int) (number : Float) : Ordering :=
  if number < -9223372036854775808.0 then .gt
  else if 9223372036854775808.0 ≤ number then .lt
  else
    let cut := truncated number
    if whole ≠ cut then compare whole cut
    else
      let rounded := Float.ofInt cut
      if rounded < number then .lt else if number < rounded then .gt else .eq

/-- The order of two numbers. -/
def compareNumbers (first second : Value) : Ordering :=
  match first, second with
  | integer left, integer right => compare left right
  | integer left, real right => compareMixed left (toFloat right)
  | real left, integer right => (compareMixed right (toFloat left)).swap
  | left, right =>
    if left.floatOf < right.floatOf then .lt
    else if right.floatOf < left.floatOf then .gt
    else .eq

/-- The order of two values. -/
def compareBy (collation : Collation) (encoding : Encoding) (first second : Value) : Ordering :=
  if first.rank ≠ second.rank then compare first.rank second.rank
  else if first.rank = 1 then compareNumbers first second
  else compare (first.sortBytes collation encoding) (second.sortBytes collation encoding)

/-- The order of two lists of values, each of them compared by its collation. -/
def compareAll (encoding : Encoding) : List Collation → List Value → List Value → Ordering
  | collation :: collations, first :: firsts, second :: seconds =>
    (compareBy collation encoding first second).then
      (compareAll encoding collations firsts seconds)
  | _, _, _ => .eq

end Value

end SchemaPlan.Relational
