import SchemaPlan.Relational.Collation
import SchemaPlan.Relational.Trouble

/-!
# Formats

A format is a text in which places begin with a percent sign.  Every place takes the next value and
says how it is written: with which signs, in which width and with how many digits.  A place of an
unknown kind ends the text.
-/

set_option autoImplicit false

namespace SchemaPlan.Relational.Format

/-- How a value is written. -/
structure Place where
  isLeft : Bool := false
  /-- What stands before a number that is not negative. -/
  sign : Option Char := none
  /-- Whether a number tells its base or always has a point. -/
  isAlternate : Bool := false
  /-- Whether characters are counted and not bytes. -/
  isExact : Bool := false
  isZeroed : Bool := false
  isGrouped : Bool := false
  width : Nat := 0
  precision : Option Nat := none
deriving DecidableEq, Repr

/-- The values that are left. -/
abbrev Supply (Item : Type) : Type := StateM (List Value) Item

/-- The next value, which is missing when there is none left. -/
def next : Supply Value := do
  match ← get with
  | value :: rest =>
    set rest
    return value
  | [] => return .null

/-! ## Reading -/

/-- The greatest width and precision. -/
def maxWidth : Nat := 1000000

/-- Reads the flags in front of a width. -/
def flags (place : Place) : List Char → Place × List Char
  | '-' :: rest => flags { place with isLeft := true } rest
  | '+' :: rest => flags { place with sign := some '+' } rest
  | ' ' :: rest => flags { place with sign := some ' ' } rest
  | '#' :: rest => flags { place with isAlternate := true } rest
  | '!' :: rest => flags { place with isExact := true } rest
  | '0' :: rest => flags { place with isZeroed := true } rest
  | ',' :: rest => flags { place with isGrouped := true } rest
  | characters => (place, characters)

/-- Reads a number, which may be the next value. -/
def amount (characters : List Char) : Supply (Int × List Char) := do
  match characters with
  | '*' :: rest => return (max (-maxWidth) (min maxWidth (← next).wholeOf), rest)
  | characters =>
    return (min maxWidth (Numeral.digitsValue (characters.takeWhile Char.isDigit)),
      characters.dropWhile Char.isDigit)

/-- Reads how a value is written, up to the letter for its kind. -/
def place (characters : List Char) : Supply (Place × List Char) := do
  let (place, rest) := flags {} characters
  let (width, rest) ← amount rest
  let place := { place with
    isLeft := place.isLeft || decide (width < 0)
    width := width.natAbs }
  let (place, rest) ← match rest with
    | '.' :: rest => do
      let (precision, rest) ← amount rest
      pure ({ place with precision := some precision.natAbs }, rest)
    | rest => pure (place, rest)
  return (place, rest.dropWhile (· == 'l'))

/-! ## Writing -/

/-- Characters filled up with blanks to the width of a place. -/
def padded (place : Place) (counted : Nat) (characters : List Char) : List Char :=
  let blanks := List.replicate (place.width - counted) ' '
  if place.isLeft then characters ++ blanks else blanks ++ characters

/-- The digits of a number in a base. -/
def digitsIn (base : Nat) (number : Nat) : List Char := Nat.toDigits base number

/-- The ending of an ordinal number. -/
def ordinalEnding (number : Nat) : List Char :=
  if number / 10 % 10 = 1 then ['t', 'h']
  else
    match number % 10 with
    | 1 => ['s', 't']
    | 2 => ['n', 'd']
    | 3 => ['r', 'd']
    | _ => ['t', 'h']

/-- The text of a whole number, of which the digits are given, with its sign and with what tells
its base. -/
def ofWhole (place : Place) (sign : Option Char) (lead digits : List Char) : List Char :=
  let sign := sign.toList
  let least :=
    max (place.precision.getD 0) (if place.isZeroed then place.width - sign.length else 0)
  let digits := List.replicate (least - digits.length) '0' ++ digits
  let digits := if place.isGrouped then Decimal.grouped digits else digits
  let written := sign ++ lead ++ digits
  padded place written.length written

/-- The text of a number in floating point. -/
def ofReal (place : Place) (layout : Decimal.Layout) (letter : Char) (number : Float) :
    List Char :=
  let style : Decimal.Style :=
    { layout, letter
      precision := place.precision.getD 6
      isGrouped := place.isGrouped
      isFull := place.isAlternate
      isExact := place.isExact }
  match Decimal.digits? number.toBits with
  | none =>
    let sign := if number < 0 then some '-' else place.sign
    let written :=
      if place.isZeroed then
        sign.toList ++ style.write ⟨false, ['9'], 1000⟩
      else sign.toList ++ "Inf".toList
    padded place written.length written
  | some digits =>
    let sign := (if digits.isNegative then some '-' else place.sign).toList
    let written := style.write digits
    let zeros := if place.isZeroed && !place.isLeft then
      List.replicate (place.width - sign.length - written.length) '0' else []
    let written := sign ++ zeros ++ written
    padded place written.length written

/-- The first characters of a text, as many as a place says.  They are counted by their bytes unless
the place is exact. -/
def cut (place : Place) (characters : List Char) : List Char :=
  let rec within (bytes : Nat) : List Char → List Char
    | [] => []
    | character :: rest =>
      if character.utf8Size ≤ bytes then character :: within (bytes - character.utf8Size) rest
      else []
  match place.precision with
  | none => characters
  | some precision =>
    if place.isExact then characters.take precision else within precision characters

/-- The width that characters take at a place. -/
def widthOf (place : Place) (characters : List Char) : Nat :=
  if place.isExact then characters.length else Text.byteLength characters

/-- The text of a value that is one. -/
def ofText (place : Place) (characters : List Char) : List Char :=
  padded place (widthOf place characters) characters

/-- The text of a character as often as a place says. -/
def ofChar (place : Place) (character : Option Char) : List Char :=
  let written := List.replicate (max 1 (place.precision.getD 1)) (character.getD '\x00')
  padded place written.length written

/-- The text of a value between quotes, or with the quotes in it doubled. -/
def ofQuoted (place : Place) (quote : Char) (isEnclosed : Bool) (value : Value) : List Char :=
  let isMissing := value == .null
  let missing := if isEnclosed then "NULL" else "(NULL)"
  let characters := cut place (if isMissing then missing.toList else value.chars)
  let doubled := characters.flatMap fun character =>
    if character == quote then [quote, quote] else [character]
  ofText place (if isEnclosed && !isMissing then quote :: doubled ++ [quote] else doubled)

/-- The whole number in 64 bits without a sign that a value counts as. -/
def unsigned (value : Value) : Nat := (value.wholeOf % Nat.pow 2 64).toNat

/-- The text of the next value for a letter that tells its kind, if there is such a kind. -/
def written? (place : Place) (letter : Char) : Supply (Option (List Char)) := do
  match letter with
  | '%' => return some (padded place 1 ['%'])
  | 'd' | 'i' | 'r' =>
    let number := (← next).wholeOf
    let sign := if number < 0 then some '-' else place.sign
    let digits := (toString number.natAbs).toList
    return some <|
      if letter == 'r' then
        ofWhole { place with isGrouped := false } sign [] (digits ++ ordinalEnding number.natAbs)
      else ofWhole place sign [] digits
  | 'u' => return some (ofWhole place none [] (toString (unsigned (← next))).toList)
  | 'o' | 'x' | 'X' | 'p' =>
    let number := unsigned (← next)
    let base := if letter == 'o' then 8 else 16
    let digits := digitsIn base number
    let digits := if letter == 'X' then digits.map Char.toUpper else digits
    let lead := if !place.isAlternate || number = 0 || letter == 'p' then []
      else if letter == 'o' then ['0'] else ['0', letter]
    return some (ofWhole { place with isGrouped := false } none lead digits)
  | 'f' => return some (ofReal place .fixed 'e' (← next).floatOf)
  | 'e' | 'E' => return some (ofReal place .power letter (← next).floatOf)
  | 'g' => return some (ofReal place .general 'e' (← next).floatOf)
  | 'G' => return some (ofReal place .general 'E' (← next).floatOf)
  | 'c' =>
    return some (ofChar { place with isExact := true } (← next).chars.head?)
  | 's' | 'z' => return some (ofText place (cut place (← next).chars))
  | 'q' => return some (ofQuoted place '\x27' false (← next))
  | 'Q' => return some (ofQuoted place '\x27' true (← next))
  | 'w' => return some (ofQuoted place '\x22' false (← next))
  | 'n' => return some []
  | _ => return none

/-- Fills in the places of a format, of which there are at most as many as given. -/
def fill : Nat → List Char → Supply (List Char)
  | 0, characters => return characters
  | fuel + 1, characters => do
    let before := characters.takeWhile (· != '%')
    match characters.dropWhile (· != '%') with
    | [] => return before
    | [_] => return before ++ ['%']
    | _ :: rest =>
      let (place, rest) ← place rest
      match rest with
      | [] => return before
      | letter :: rest =>
        match ← written? place letter with
        | some written => return before ++ written ++ (← fill fuel rest)
        | none => return before

/-- The text of a format with the values in its places. -/
def value : List Value → Except Trouble Value
  | [] => .ok .null
  | .null :: _ => .ok .null
  | format :: values =>
    let characters := format.chars.takeWhile (· != '\x00')
    .ok (.ofChars ((fill (characters.length + 1) characters).run values).1)

end SchemaPlan.Relational.Format
