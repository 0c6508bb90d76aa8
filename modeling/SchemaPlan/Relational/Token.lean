import SchemaPlan.Relational.Number

/-!
# Tokens of statements

A statement is a text of words, quoted names, texts, bytes, numbers and symbols.  Blanks and
comments only separate tokens.
-/

set_option autoImplicit false

namespace SchemaPlan.Relational

/-- A token of a statement. -/
inductive Token where
  /-- A name or a keyword. -/
  | word (name : String)
  /-- A name in quotes, which are double or others. -/
  | quoted (name : String) (isDouble : Bool)
  | constant (value : Value)
  /-- The number after the greatest whole number. -/
  | edge
  /-- The place of a value that is given later, by a number or a name if there is one. -/
  | parameter (name : String)
  | symbol (text : String)
deriving DecidableEq, Repr

namespace Token

/-! ## Characters -/

/-- A character that only separates tokens. -/
def isBlank (character : Char) : Bool :=
  character == ' ' || character == '\t' || character == '\n' || character == '\r' ||
    character == '\x0c' || character == '\uFEFF'

/-- A character that a word may begin with. -/
def startsWord (character : Char) : Bool :=
  character.isAlpha || character == '_' || decide (0x80 ≤ character.toNat)

/-- A character that a word may go on with. -/
def continuesWord (character : Char) : Bool :=
  startsWord character || character.isDigit || character == '$'

/-- The symbols, the longer ones first. -/
def symbols : List (List Char) :=
  [['-', '>', '>'], ['-', '>'], ['|', '|'], ['=', '='], ['!', '='], ['<', '>'], ['<', '='],
    ['>', '='], ['<', '<'], ['>', '>'], ['<'], ['>'], ['='], ['+'], ['-'], ['*'], ['/'], ['%'],
    ['&'], ['|'], ['~'], ['('], [')'], [','], [';'], ['.']]

/-- The characters up to a closing quote, which is doubled to stand for itself, and the rest. -/
def readQuoted? (quote : Char) : List Char → Option (List Char × List Char)
  | [] => none
  | [character] => if character == quote then some ([], []) else none
  | character :: next :: rest =>
    if character == quote then
      if next == quote then
        (readQuoted? quote rest).map fun (read, rest) => (quote :: read, rest)
      else some ([], next :: rest)
    else (readQuoted? quote (next :: rest)).map fun (read, rest) => (character :: read, rest)

/-- The rest after the end of a comment between a slash and a star. -/
def skipComment : List Char → List Char
  | '*' :: '/' :: rest => rest
  | _ :: rest => skipComment rest
  | [] => []

/-! ## Bytes -/

/-- The value of a hexadecimal digit. -/
def hexValue (digit : Char) : Nat :=
  if digit.isDigit then digit.toNat - '0'.toNat else digit.toUpper.toNat - 'A'.toNat + 10

/-- Whether a character is a hexadecimal digit. -/
def isHex (character : Char) : Bool :=
  character.isDigit || (decide ('A' ≤ character.toUpper) && decide (character.toUpper ≤ 'F'))

/-- The bytes that pairs of hexadecimal digits stand for. -/
def bytesOf? : List Char → Option (List UInt8)
  | [] => some []
  | high :: low :: rest =>
    if isHex high && isHex low then
      (bytesOf? rest).map ((hexValue high * 16 + hexValue low).toUInt8 :: ·)
    else none
  | [_] => none

/-! ## Numbers -/

/-- Whether a character goes on with a number: a digit, or a mark between two digits. -/
def continuesNumber (isDigit : Char → Bool) (character : Char) : Bool :=
  isDigit character || character == '_'

/-- The digits of the power of ten at the front of characters, with the letter and the sign. -/
def powerPrefix : List Char → List Char
  | mark :: sign :: rest =>
    if mark != 'e' && mark != 'E' then []
    else if sign.isDigit then
      mark :: (sign :: rest).takeWhile (continuesNumber Char.isDigit)
    else if (sign == '+' || sign == '-') && rest.head?.any Char.isDigit then
      mark :: sign :: rest.takeWhile (continuesNumber Char.isDigit)
    else []
  | _ => []

/-- The characters of a decimal number at the front of characters. -/
def decimalPrefix (characters : List Char) : List Char :=
  let whole := characters.takeWhile (continuesNumber Char.isDigit)
  let fraction := match characters.drop whole.length with
    | '.' :: rest => '.' :: rest.takeWhile (continuesNumber Char.isDigit)
    | _ => []
  let read := whole ++ fraction
  read ++ powerPrefix (characters.drop read.length)

/-- The digits of a number without the marks between them, unless a mark is not between two
digits. -/
def unmarked? (isDigit : Char → Bool) (before : Char) : List Char → Option (List Char)
  | [] => some []
  | '_' :: rest =>
    if isDigit before && rest.head?.any isDigit then unmarked? isDigit '_' rest else none
  | character :: rest => (unmarked? isDigit character rest).map (character :: ·)

/-- The token of a decimal number. -/
def ofDecimal? (digits : List Char) : Option Token := do
  let numeral ← Numeral.ofChars? (← unmarked? Char.isDigit ' ' digits)
  if numeral.isWhole && Numeral.digitsValue numeral.whole == Numeral.bound then return edge
  return constant (Value.ofNumeral numeral)

/-- The token of a hexadecimal number, which has at most sixteen digits that count. -/
def ofHex? (digits : List Char) : Option Token := do
  let digits ← unmarked? isHex ' ' digits
  if 16 < (digits.dropWhile (· == '0')).length then none
  let number := digits.foldl (fun value digit => value * 16 + hexValue digit) 0
  return constant (.integer (wrapped number))

/-- The token of a number at the front of characters, and the rest. -/
def readNumber? (characters : List Char) : Option (Token × List Char) := do
  let isMarked := characters.head? == some '0' &&
    ((characters.drop 1).head?.any fun mark => mark == 'x' || mark == 'X') &&
    (characters.drop 2).head?.any isHex
  let digits := if isMarked then (characters.drop 2).takeWhile (continuesNumber isHex)
    else decimalPrefix characters
  let rest := characters.drop (digits.length + if isMarked then 2 else 0)
  if rest.head?.any continuesWord then none
  return (← if isMarked then ofHex? digits else ofDecimal? digits, rest)

/-! ## Reading -/

/-- The token at the front of characters that are neither blank nor a comment, and the rest. -/
def readOne? (character : Char) (rest : List Char) : Option (Token × List Char) :=
  let characters := character :: rest
  if character == '\x27' then
    (readQuoted? '\x27' rest).map fun (read, rest) => (constant (Value.ofChars read), rest)
  else if (character == 'x' || character == 'X') && rest.head? == some '\x27' then do
    let (digits, rest) ← readQuoted? '\x27' (rest.drop 1)
    return (constant (.blob (← bytesOf? digits)), rest)
  else if character == '\x22' || character == '\x60' then
    (readQuoted? character rest).map fun (read, rest) =>
      (quoted (String.ofList read) (character == '\x22'), rest)
  else if character == '[' then
    if rest.contains ']' then
      some (quoted (String.ofList (rest.takeWhile (· != ']'))) false,
        (rest.dropWhile (· != ']')).drop 1)
    else none
  else if startsWord character then
    some (word (String.ofList (characters.takeWhile continuesWord)),
      characters.dropWhile continuesWord)
  else if character.isDigit || (character == '.' && rest.head?.any Char.isDigit) then
    readNumber? characters
  else if character == '?' then
    some (parameter (String.ofList (character :: rest.takeWhile Char.isDigit)),
      rest.dropWhile Char.isDigit)
  else if [':', '@', '$', '#'].contains character && rest.head?.any continuesWord then
    some (parameter (String.ofList (character :: rest.takeWhile continuesWord)),
      rest.dropWhile continuesWord)
  else
    (symbols.find? (·.isPrefixOf characters)).map fun found =>
      (symbol (String.ofList found), characters.drop found.length)

/-- The tokens of characters, of which there are at most as many as characters.  Each comes with
the characters from its beginning on. -/
def readAll? : Nat → List Char → Option (List (Token × List Char))
  | _, [] => some []
  | 0, _ => none
  | fuel + 1, '-' :: '-' :: rest => readAll? fuel (rest.dropWhile (· != '\n'))
  | fuel + 1, '/' :: '*' :: next :: rest => readAll? fuel (skipComment (next :: rest))
  | fuel + 1, character :: rest =>
    if isBlank character then readAll? fuel rest
    else do
      let (token, after) ← readOne? character rest
      return (token, character :: rest) :: (← readAll? fuel after)

/-- The tokens of a text. -/
def ofText? (text : String) : Option (List (Token × List Char)) :=
  readAll? text.length text.toList

/-! ## Parameters -/

/-- The greatest number of a parameter. -/
def maxParameter : Nat := 32766

/-- Gives a place to every parameter: a new one, that of its number, or that of the first one with
its name.  The names of the places so far are given. -/
def numbered? (names : List String) :
    List (Token × List Char) → Option (List (Token × List Char) × Nat)
  | [] => some ([], names.length)
  | (parameter name, characters) :: rest => do
    let number := (name.drop 1).toNat?
    let isNumber := name.startsWith "?" && number.isSome
    let place := if isNumber then number.getD 0
      else if name == "?" then names.length + 1
      else names.idxOf name + 1
    if place = 0 || maxParameter < place then none
    let names := names ++ List.replicate (place - 1 - names.length) "?" ++
      (if names.length < place then [name] else [])
    let (tokens, count) ← numbered? names rest
    return ((parameter (toString place), characters) :: tokens, count)
  | token :: rest => do
    let (tokens, count) ← numbered? names rest
    return (token :: tokens, count)

end Token

end SchemaPlan.Relational
