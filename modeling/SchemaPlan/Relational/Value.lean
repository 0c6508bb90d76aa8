import SchemaPlan.Text.Decimal

/-!
# Values of columns

A column takes values of any kind, whatever its declared type.  A text has characters and, in the
encoding of its database, bytes.
-/

set_option autoImplicit false

namespace SchemaPlan.Relational

/-- The encoding in which a database keeps its texts. -/
inductive Encoding where
  | utf8
  | utf16LittleEndian
  | utf16BigEndian
deriving DecidableEq, Repr

/-- A value. -/
inductive Value where
  | null
  | integer (value : Int)
  /-- A number in floating point, given by its bits. -/
  | real (bits : UInt64)
  | text (value : String)
  /-- A text whose bytes are no text in the encoding. -/
  | garbled (bytes : List UInt8)
  | blob (bytes : List UInt8)
deriving DecidableEq, Repr

/-! ## Texts -/

namespace Encoding

/-- The two bytes of a unit, of which the lower one comes first in little-endian order. -/
def unitBytes (isLittle : Bool) (unit : Nat) : List UInt8 :=
  let low := (unit % 256).toUInt8
  let high := (unit / 256).toUInt8
  if isLittle then [low, high] else [high, low]

/-- The units of sixteen bits that stand for a character. -/
def units (character : Char) : List Nat :=
  let point := character.toNat
  if point < 0x10000 then [point]
  else [0xd800 + (point - 0x10000) / 0x400, 0xdc00 + (point - 0x10000) % 0x400]

/-- The bytes of a text. -/
def bytes (encoding : Encoding) (text : String) : List UInt8 :=
  match encoding with
  | utf8 => text.toUTF8.toList
  | utf16LittleEndian => (text.toList.flatMap units).flatMap (unitBytes true)
  | utf16BigEndian => (text.toList.flatMap units).flatMap (unitBytes false)

/-- The units that bytes make up; an odd byte at the end is left out. -/
def unitsOf (isLittle : Bool) : List UInt8 → List Nat
  | first :: second :: rest =>
    (if isLittle then first.toNat + 256 * second.toNat else 256 * first.toNat + second.toNat) ::
      unitsOf isLittle rest
  | _ => []

/-- The characters that units stand for, unless a unit lacks its partner. -/
def charsOf? : List Nat → Option (List Char)
  | [] => some []
  | [unit] => if unit < 0xd800 || 0xe000 ≤ unit then some [Char.ofNat unit] else none
  | unit :: next :: rest =>
    if unit < 0xd800 || 0xe000 ≤ unit then (charsOf? (next :: rest)).map (Char.ofNat unit :: ·)
    else if unit < 0xdc00 && 0xdc00 ≤ next && next < 0xe000 then
      (charsOf? rest).map
        (Char.ofNat (0x10000 + (unit - 0xd800) * 0x400 + (next - 0xdc00)) :: ·)
    else none

/-- The value that is the text of some bytes. -/
def textOf (encoding : Encoding) (content : List UInt8) : Value :=
  let text? := match encoding with
    | utf8 => String.fromUTF8? ⟨content.toArray⟩
    | utf16LittleEndian => (charsOf? (unitsOf true content)).map String.ofList
    | utf16BigEndian => (charsOf? (unitsOf false content)).map String.ofList
  match text? with
  | some text => .text text
  | none => .garbled content

end Encoding

/-! ## Values as texts -/

namespace Value

/-- The number in floating point of some bits. -/
def toFloat (bits : UInt64) : Float := Float.ofBits bits

/-- A number in floating point.  What is no number is missing. -/
def ofFloat (number : Float) : Value := if number.isNaN then null else real number.toBits

/-- The value of a truth. -/
def ofBool (truth : Bool) : Value := integer (if truth then 1 else 0)

/-- The text of some characters. -/
def ofChars (characters : List Char) : Value := text (String.ofList characters)

/-- The name of the kind of a value. -/
def kind : Value → String
  | null => "null"
  | integer _ => "integer"
  | real _ => "real"
  | text _ | garbled _ => "text"
  | blob _ => "blob"

/-- Whether a value is a text. -/
def isText : Value → Bool
  | text _ | garbled _ => true
  | _ => false

/-- The text that a value is converted to, if it is not missing. -/
def toText (encoding : Encoding) : Value → Value
  | integer value => text (toString value)
  | real bits => text (Decimal.ofBits bits)
  | blob bytes => encoding.textOf bytes
  | value => value

/-- The characters of a value as a text. -/
def chars (value : Value) : List Char :=
  match value.toText .utf8 with
  | text written => written.toList
  | garbled bytes => bytes.map fun byte => Char.ofNat byte.toNat
  | _ => []

/-- The bytes of a value as a text. -/
def bytes (encoding : Encoding) (value : Value) : List UInt8 :=
  match value.toText encoding with
  | text written => encoding.bytes written
  | garbled bytes | blob bytes => bytes
  | null | integer _ | real _ => []

end Value

end SchemaPlan.Relational
