import SchemaPlan.Relational.Collation
import SchemaPlan.Relational.Token

/-!
# Functions of texts

Functions that take texts apart, put them together and describe them.  Where characters are counted
a text ends at the character zero.
-/

set_option autoImplicit false

namespace SchemaPlan.Relational.Function

/-- The characters of a value up to one that ends it. -/
def counted (value : Value) : List Char := value.chars.takeWhile (· != '\x00')

/-! ## Parts -/

/-- The number of characters of a text, or of bytes. -/
def length : Value → Value
  | .null => .null
  | .blob bytes => .integer bytes.length
  | value => .integer (counted value).length

/-- The number of bytes of a value. -/
def byteLength (encoding : Encoding) : Value → Value
  | .null => .null
  | value => .integer (value.bytes encoding).length

/-- The place of a part and its length, given the length of the whole, where the part is asked for
by a place counted from one, or from the end, and a length that may count back from there. -/
def partOf (size start : Int) (length : Int) : Nat × Nat :=
  let first := if 0 < start then start - 1 else if start < 0 then size + start else -1
  let last := first + length
  let low := max 0 (min first last)
  let high := max 0 (max first last)
  (low.toNat, (high - low).toNat)

/-- A part of a list. -/
def slice {Item : Type} (items : List Item) (start length : Int) : List Item :=
  let (first, length) := partOf items.length start length
  (items.drop first).take length

/-- More than the length of any text. -/
def endless : Int := 1000000000

/-- The part of a text or of bytes, of which there must be some. -/
def substring (value start : Value) (length : Option Value) : Value :=
  if value == .null || start == .null || length == some .null then .null
  else
    let length := (length.map Value.shortOf).getD endless
    match value with
    | .blob [] => .null
    | .blob bytes => .blob (slice bytes start.shortOf length)
    | value => .ofChars (slice (counted value) start.shortOf length)

/-- The place, counted from one, of a first occurrence, or zero. -/
def placeIn {Item : Type} [BEq Item] (pattern : List Item) : List Item → Nat → Nat
  | [], count => if pattern.isEmpty then count + 1 else 0
  | item :: rest, count =>
    if pattern.isPrefixOf (item :: rest) then count + 1 else placeIn pattern rest (count + 1)

/-- The place of a first occurrence in a text or in bytes. -/
def place (value pattern : Value) : Value :=
  match value, pattern with
  | .null, _ | _, .null => .null
  | .blob bytes, .blob wanted => .integer (placeIn wanted bytes 0)
  | value, wanted => .integer (placeIn wanted.chars value.chars 0)

/-! ## Changes -/

/-- The characters with a change, unless the value is missing. -/
def changed (value : Value) (change : List Char → List Char) : Value :=
  if value == .null then .null else .ofChars (change value.chars)

/-- The characters without those of a set at the front. -/
def trimFront (set characters : List Char) : List Char := characters.dropWhile set.contains

/-- The characters without those of a set at the end. -/
def trimBack (set characters : List Char) : List Char :=
  (characters.reverse.dropWhile set.contains).reverse

/-- A value without the characters of a set at its ends, as a way to take them off says. -/
def trimmed (trim : List Char → List Char → List Char) (value : Value) : Option Value → Value
  | none => changed value (trim [' '])
  | some .null => .null
  | some set => changed value (trim set.chars)

/-- The characters with another text in the place of every occurrence of a pattern that is not
empty, where a number of characters is still to be left out. -/
def replaced (pattern other : List Char) : Nat → List Char → List Char
  | _, [] => []
  | skipped + 1, _ :: rest => replaced pattern other skipped rest
  | 0, character :: rest =>
    if pattern.isPrefixOf (character :: rest) then
      other ++ replaced pattern other (pattern.length - 1) rest
    else character :: replaced pattern other 0 rest

/-- A text with another one in the place of every occurrence of a pattern. -/
def replace (value pattern other : Value) : Value :=
  if value == .null || pattern == .null then .null
  else if (counted pattern).isEmpty then .ofChars value.chars
  else if other == .null then .null
  else .ofChars (replaced pattern.chars other.chars 0 value.chars)

/-! ## Bytes -/

/-- The hexadecimal digit of a number below sixteen. -/
def hexDigit (number : Nat) : Char :=
  if number < 10 then Char.ofNat ('0'.toNat + number) else Char.ofNat ('A'.toNat + number - 10)

/-- The two digits of a byte. -/
def hexByte (byte : UInt8) : List Char := [hexDigit (byte.toNat / 16), hexDigit (byte.toNat % 16)]

/-- The digits of the bytes of a value. -/
def hex (value : Value) : Value := .ofChars ((value.bytes .utf8).flatMap hexByte)

/-- The bytes that digits stand for, with characters that may come between pairs of them. -/
def unhexed (ignored : List Char) : List Char → Option (List UInt8)
  | [] => some []
  | high :: rest =>
    if Token.isHex high then
      match rest with
      | [] => none
      | low :: rest =>
        if Token.isHex low then
          (unhexed ignored rest).map
            ((Token.hexValue high * 16 + Token.hexValue low).toUInt8 :: ·)
        else none
    else if ignored.contains high then unhexed ignored rest
    else none

/-- The bytes that a text of digits stands for, if it is one. -/
def unhex (value : Value) (ignored : Option Value) : Value :=
  match value, ignored with
  | .null, _ | _, some .null => .null
  | value, ignored =>
    match unhexed ((ignored.map Value.chars).getD []) (counted value) with
    | some bytes => .blob bytes
    | none => .null

/-- A text with a character doubled wherever it occurs, between two of them. -/
def enclosedIn (quote : Char) (characters : List Char) : List Char :=
  quote :: characters.flatMap (fun character =>
    if character == quote then [quote, quote] else [character]) ++ [quote]

/-- A number in floating point that reads back as it is. -/
def quotedReal (bits : UInt64) : List Char :=
  match Decimal.digits? bits with
  | none => if bits.toNat / Nat.pow 2 63 = 0 then "9.0e+999".toList else "-9.0e+999".toList
  | some number =>
    let sign := if number.isNegative then ['-'] else []
    let short := Decimal.plain.write number
    let readsBack := (Numeral.ofChars? (sign ++ short)).any fun numeral =>
      numeral.toFloat == Value.toFloat bits
    if readsBack then sign ++ short
    else
      let style : Decimal.Style := { layout := .power, precision := 20, isExact := true }
      sign ++ style.write number

/-- A value as it is written in a statement. -/
def quote : Value → Value
  | .null => .text "NULL"
  | .integer value => .text (toString value)
  | .real bits => .ofChars (quotedReal bits)
  | .blob bytes => .ofChars ('X' :: enclosedIn '\x27' (bytes.flatMap hexByte))
  | value => .ofChars (enclosedIn '\x27' (counted value))

/-! ## Characters -/

/-- The bytes of a character with a number, which need not be one of Unicode. -/
def codeBytes (number : Nat) : List UInt8 :=
  let next (shift : Nat) : UInt8 := (0x80 + number / Nat.pow 2 shift % 0x40).toUInt8
  if number < 0x80 then [number.toUInt8]
  else if number < 0x800 then [(0xc0 + number / Nat.pow 2 6).toUInt8, next 0]
  else if number < 0x10000 then [(0xe0 + number / Nat.pow 2 12).toUInt8, next 6, next 0]
  else [(0xf0 + number / Nat.pow 2 18).toUInt8, next 12, next 6, next 0]

/-- The text of the characters with some numbers. -/
def characters (values : List Value) : Value :=
  Encoding.utf8.textOf (values.flatMap fun value =>
    let number := value.wholeOf
    codeBytes (if number < 0 ∨ 0x10ffff < number then 0xfffd else number.toNat))

/-- The number of the first character. -/
def codeOf (value : Value) : Value :=
  match counted value with
  | [] => .null
  | first :: _ => .integer first.toNat

/-- The group of a letter in the code of how words sound, if it has one. -/
def soundOf (letter : Char) : Option Char :=
  [("BFPV", '1'), ("CGJKQSXZ", '2'), ("DT", '3'), ("L", '4'), ("MN", '5'), ("R", '6')].findSome?
    fun (letters, group) => if letters.toList.contains letter.toUpper then some group else none

/-- The groups of letters, each only once if it comes again without another letter between. -/
def soundGroups : Option Char → List Char → List Char
  | _, [] => []
  | before, letter :: rest =>
    match soundOf letter with
    | some group =>
      if before == some group then soundGroups before rest
      else group :: soundGroups (some group) rest
    | none => soundGroups none rest

/-- The code of how a word sounds. -/
def sound (value : Value) : Value :=
  match (counted value).dropWhile (!·.isAlpha) with
  | [] => .text "?000"
  | first :: rest =>
    let groups := soundGroups (soundOf first) rest
    .ofChars (first.toUpper :: (groups ++ ['0', '0', '0']).take 3)

/-! ## Putting together -/

/-- The text of some values, of which missing ones are left out. -/
def concat (values : List Value) : Value :=
  .ofChars ((values.filter (· != .null)).flatMap Value.chars)

/-- The text of some values with a separator between them, of which empty ones are left out. -/
def concatWith (separator : Value) (values : List Value) : Value :=
  if separator == .null then .null
  else .ofChars (separator.chars.intercalate ((values.map Value.chars).filter (!·.isEmpty)))

end SchemaPlan.Relational.Function
