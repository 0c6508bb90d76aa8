import SchemaPlan.Json.Basic

/-!
# Reading JSON

A document is one value with blanks around it.  Every reader takes the characters that are left
and returns what it has read together with the rest; the nesting of values is bounded by the
number of characters.
-/

set_option autoImplicit false

namespace SchemaPlan.Json

/-- Blanks between the tokens of JSON. -/
def isSpace (character : Char) : Bool :=
  character == ' ' || character == '\n' || character == '\t' || character == '\r'

/-- The rest after blanks. -/
def skipSpace (characters : List Char) : List Char := characters.dropWhile isSpace

/-- The rest after an expected text. -/
def expect? : List Char → List Char → Option (List Char)
  | [], rest => some rest
  | expected :: more, character :: rest =>
    if expected == character then expect? more rest else none
  | _ :: _, [] => none

/-- The value of a hexadecimal digit. -/
def hexValue? (character : Char) : Option Nat :=
  if character.isDigit then some (character.toNat - '0'.toNat)
  else if 'a' ≤ character ∧ character ≤ 'f' then some (character.toNat - 'a'.toNat + 10)
  else if 'A' ≤ character ∧ character ≤ 'F' then some (character.toNat - 'A'.toNat + 10)
  else none

/-- The value of digits in a base, on top of what has been read. -/
def digitsValue (base : Nat) (start : Nat) (digits : List Char) : Nat :=
  digits.foldl (fun value digit => value * base + (hexValue? digit).getD 0) start

/-! ## Strings -/

/-- Four hexadecimal digits. -/
def readCodeUnit? : List Char → Option (Nat × List Char)
  | first :: second :: third :: fourth :: rest => do
    let first ← hexValue? first
    let second ← hexValue? second
    let third ← hexValue? third
    let fourth ← hexValue? fourth
    some (((first * 16 + second) * 16 + third) * 16 + fourth, rest)
  | _ => none

/-- The character of a simple escape. -/
def simpleEscape? (character : Char) : Option Char :=
  if character == '\x22' then some '\x22'
  else if character == '\\' then some '\\'
  else if character == '/' then some '/'
  else if character == 'b' then some '\x08'
  else if character == 'f' then some '\x0c'
  else if character == 'n' then some '\n'
  else if character == 'r' then some '\r'
  else if character == 't' then some '\t'
  else none

/-- A unit that opens a surrogate pair. -/
def isLeading (unit : Nat) : Bool := decide (0xd800 ≤ unit) && decide (unit ≤ 0xdbff)

/-- A unit that closes a surrogate pair. -/
def isTrailing (unit : Nat) : Bool := decide (0xdc00 ≤ unit) && decide (unit ≤ 0xdfff)

/-- The second half of a surrogate pair, escaped, right here. -/
def readTrailing? : List Char → Option (Nat × List Char)
  | '\\' :: 'u' :: rest =>
    match readCodeUnit? rest with
    | some (unit, rest) => if isTrailing unit then some (unit, rest) else none
    | none => none
  | _ => none

/-- Reads the inside of a string up to its closing quote.  `read` is the text so far in reverse,
or nothing once an escape has named no character. -/
def readString (fuel : Nat) (read : Option (List Char)) (characters : List Char) :
    Option (Option (List Char) × List Char) :=
  match fuel, characters with
  | 0, _ => none
  | _, [] => none
  | _, '\x22' :: rest => some (read.map List.reverse, rest)
  | fuel + 1, '\\' :: 'u' :: rest =>
    match readCodeUnit? rest with
    | none => none
    | some (unit, rest) =>
      if isLeading unit then
        match readTrailing? rest with
        | some (trailing, rest) =>
          let point := 0x10000 + (unit - 0xd800) * 0x400 + (trailing - 0xdc00)
          readString fuel (read.map (Char.ofNat point :: ·)) rest
        | none => readString fuel none rest
      else if isTrailing unit then readString fuel none rest
      else readString fuel (read.map (Char.ofNat unit :: ·)) rest
  | fuel + 1, '\\' :: character :: rest =>
    match simpleEscape? character with
    | some meant => readString fuel (read.map (meant :: ·)) rest
    | none => none
  | fuel + 1, character :: rest =>
    if character.toNat < 0x20 then none
    else readString fuel (read.map (character :: ·)) rest

/-! ## Numbers -/

/-- The digits at the front, and the rest. -/
def readDigits (characters : List Char) : List Char × List Char :=
  (characters.takeWhile Char.isDigit, characters.dropWhile Char.isDigit)

/-- The digits of the whole part: a zero, or digits that do not begin with a zero. -/
def readWhole? : List Char → Option (List Char × List Char)
  | '0' :: rest => if rest.head?.any Char.isDigit then none else some (['0'], rest)
  | characters =>
    let (digits, rest) := readDigits characters
    if digits.isEmpty then none else some (digits, rest)

/-- The rest after a decimal part, if there is one. -/
def skipDecimals? : List Char → Option (Bool × List Char)
  | '.' :: rest =>
    let (digits, rest) := readDigits rest
    if digits.isEmpty then none else some (true, rest)
  | rest => some (false, rest)

/-- The rest after an exponent, if there is one. -/
def skipExponent? : List Char → Option (Bool × List Char)
  | character :: rest =>
    if character == 'e' || character == 'E' then
      let unsigned := match rest with
        | sign :: more => if sign == '+' || sign == '-' then more else rest
        | [] => rest
      let (digits, rest) := readDigits unsigned
      if digits.isEmpty then none else some (true, rest)
    else some (false, character :: rest)
  | [] => some (false, [])

/-- The number that a sign and whole digits stand for.  A negative zero is not whole. -/
def wholeNumber (negative : Bool) (digits : List Char) : Json :=
  let magnitude := digitsValue 10 0 digits
  if negative then
    if magnitude = 0 ∨ -(magnitude : Int) < minSigned then fraction
    else integer (-(magnitude : Int))
  else if magnitude ≤ maxUnsigned then integer magnitude else fraction

/-- A number. -/
def readNumber? (characters : List Char) : Option (Json × List Char) := do
  let negative := characters.head? == some '-'
  let (digits, rest) ← readWhole? (if negative then characters.drop 1 else characters)
  let (hasDecimals, rest) ← skipDecimals? rest
  let (hasExponent, rest) ← skipExponent? rest
  if hasDecimals || hasExponent then some (fraction, rest)
  else some (wholeNumber negative digits, rest)

/-! ## Values -/

mutual

/-- A value, with no blanks before it. -/
def readValue (fuel : Nat) (characters : List Char) : Option (Json × List Char) :=
  match fuel, characters with
  | 0, _ => none
  | _, [] => none
  | fuel + 1, '\x22' :: rest =>
    match readString fuel (some []) rest with
    | some (some read, rest) => some (string (String.ofList read), rest)
    | some (none, rest) => some (unpaired, rest)
    | none => none
  | fuel + 1, '[' :: rest =>
    match skipSpace rest with
    | ']' :: rest => some (array [], rest)
    | rest => (readItems fuel rest).map fun (items, rest) => (array items, rest)
  | fuel + 1, '\x7b' :: rest =>
    match skipSpace rest with
    | '\x7d' :: rest => some (object [], rest)
    | rest => (readMembers fuel rest).map fun (entries, rest) =>
      ((entries.map object).getD unpaired, rest)
  | _, 't' :: rest => (expect? "rue".toList rest).map (bool true, ·)
  | _, 'f' :: rest => (expect? "alse".toList rest).map (bool false, ·)
  | _, 'n' :: rest => (expect? "ull".toList rest).map (null, ·)
  | _, characters => readNumber? characters

/-- The items of an array up to its end, at least one. -/
def readItems (fuel : Nat) (characters : List Char) : Option (List Json × List Char) :=
  match fuel with
  | 0 => none
  | fuel + 1 =>
    match readValue fuel characters with
    | none => none
    | some (item, rest) =>
      match skipSpace rest with
      | ',' :: rest =>
        (readItems fuel (skipSpace rest)).map fun (items, rest) => (item :: items, rest)
      | ']' :: rest => some ([item], rest)
      | _ => none

/-- The members of an object up to its end, at least one, or nothing if the name of a member is no
text. -/
def readMembers (fuel : Nat) (characters : List Char) :
    Option (Option (List (String × Json)) × List Char) :=
  match fuel, characters with
  | 0, _ => none
  | fuel + 1, '\x22' :: rest =>
    match readString fuel (some []) rest with
    | none => none
    | some (name, rest) =>
      match skipSpace rest with
      | ':' :: rest =>
        match readValue fuel (skipSpace rest) with
        | none => none
        | some (value, rest) =>
          let entry := name.map fun name => (String.ofList name, value)
          match skipSpace rest with
          | ',' :: rest =>
            (readMembers fuel (skipSpace rest)).map fun (entries, rest) =>
              (entry.bind fun entry => entries.map (entry :: ·), rest)
          | '\x7d' :: rest => some (entry.map fun entry => [entry], rest)
          | _ => none
      | _ => none
  | _, _ => none

end

/-- The value of a document. -/
def parse? (text : String) : Option Json := do
  let characters := text.toList
  let (value, rest) ← readValue (2 * characters.length + 2) (skipSpace characters)
  if (skipSpace rest).isEmpty then some value else none

end SchemaPlan.Json
