import SchemaPlan.Json.Reader
import SchemaPlan.Toml.Document

/-!
# Numbers, moments and strings of TOML

Every reader takes the characters that are left and returns what it has read with the rest, or
nothing if there is no such value at the front.
-/

set_option autoImplicit false

namespace SchemaPlan.Toml

/-- A blank within a line. -/
def isGap (character : Char) : Bool := character == ' ' || character == '\t'

/-- The rest after blanks within the line. -/
def skipGap (characters : List Char) : List Char := characters.dropWhile isGap

/-- The rest after the end of a line. -/
def newline? : List Char → Option (List Char)
  | '\n' :: rest => some rest
  | '\r' :: '\n' :: rest => some rest
  | _ => none

/-- A character that may stand in a comment or, quotes and backslashes aside, in a string. -/
def isTextChar (character : Char) : Bool :=
  character == '\t' || (decide (0x20 ≤ character.toNat) && decide (character.toNat ≠ 0x7f))

/-! ## Numbers -/

/-- The digits at the front, each but the first after one underscore at most, and the rest. -/
def digitsFrom (isDigit : Char → Bool) : List Char → List Char × List Char
  | '_' :: digit :: rest =>
    if isDigit digit then
      let (digits, rest) := digitsFrom isDigit rest
      (digit :: digits, rest)
    else ([], '_' :: digit :: rest)
  | digit :: rest =>
    if isDigit digit then
      let (digits, rest) := digitsFrom isDigit rest
      (digit :: digits, rest)
    else ([], digit :: rest)
  | [] => ([], [])

/-- One digit or more. -/
def digits? (isDigit : Char → Bool) : List Char → Option (List Char × List Char)
  | first :: rest =>
    if isDigit first then
      let (digits, rest) := digitsFrom isDigit rest
      some (first :: digits, rest)
    else none
  | [] => none

/-- Whether a minus stands at the front, and the rest after a sign. -/
def sign : List Char → Bool × List Char
  | '-' :: rest => (true, rest)
  | '+' :: rest => (false, rest)
  | rest => (false, rest)

/-- The digits of a whole number without needless zeros. -/
def whole? : List Char → Option (List Char × List Char)
  | '0' :: rest => some (['0'], rest)
  | characters => digits? Char.isDigit characters

/-- A whole number of 64 bits. -/
def bounded? (value : Int) : Option Toml :=
  if -9223372036854775808 ≤ value ∧ value ≤ 9223372036854775807 then some (integer value) else none

/-- A number in a base other than ten, without its opening. -/
def inBase? (base : Nat) (isDigit : Char → Bool) (characters : List Char) :
    Option (Toml × List Char) := do
  let (digits, rest) ← digits? isDigit characters
  return (← bounded? (Json.digitsValue base 0 digits : Nat), rest)

/-- A whole number. -/
def integer? : List Char → Option (Toml × List Char)
  | '0' :: 'x' :: rest => inBase? 16 (fun digit => (Json.hexValue? digit).isSome) rest
  | '0' :: 'o' :: rest => inBase? 8 (fun digit => decide ('0' ≤ digit ∧ digit ≤ '7')) rest
  | '0' :: 'b' :: rest => inBase? 2 (fun digit => digit == '0' || digit == '1') rest
  | characters => do
    let (negative, unsigned) := sign characters
    let (digits, rest) ← whole? unsigned
    let magnitude : Nat := Json.digitsValue 10 0 digits
    return (← bounded? (if negative then -magnitude else magnitude), rest)

/-- The exponent of a float. -/
def exponent? : List Char → Option (Int × List Char)
  | character :: rest =>
    if character == 'e' || character == 'E' then do
      let (negative, unsigned) := sign rest
      let (digits, rest) ← digits? Char.isDigit unsigned
      let magnitude : Nat := Json.digitsValue 10 0 digits
      return (if negative then -magnitude else magnitude, rest)
    else none
  | [] => none

/-- The digits behind the point of a float. -/
def decimals? : List Char → Option (List Char × List Char)
  | '.' :: rest => digits? Char.isDigit rest
  | _ => none

/-- Whether the number with some digits and a power of ten is too great for a float: not less than
the middle between the greatest float and the next power of two. -/
def isTooGreat (digits : List Char) (power : Int) : Bool :=
  let significant := digits.dropWhile (· == '0')
  let places : Int := significant.length + power
  if significant.isEmpty || decide (places < 300) then false
  else if 310 < places then true
  else
    let magnitude := Json.digitsValue 10 0 significant
    let tens (count : Nat) : Nat := Nat.pow 10 count
    decide ((Nat.pow 2 1024 - Nat.pow 2 970) * tens (-power).toNat ≤ magnitude * tens power.toNat)

/-- A float with digits. -/
def decimal? (characters : List Char) : Option (Toml × List Char) := do
  let (negative, unsigned) := sign characters
  let (wholeDigits, rest) ← whole? unsigned
  let (fraction, rest) ← match decimals? rest with
    | some (fraction, rest) => some (fraction, rest)
    | none => if (exponent? rest).isSome then some ([], rest) else none
  let (power, rest) := (exponent? rest).getD (0, rest)
  if !negative && isTooGreat (wholeDigits ++ fraction) (power - fraction.length) then none
  else return (float, rest)

/-- A float that is no number or not finite. -/
def special? (characters : List Char) : Option (Toml × List Char) :=
  let (_, unsigned) := sign characters
  match Json.expect? "inf".toList unsigned with
  | some rest => some (float, rest)
  | none => (Json.expect? "nan".toList unsigned).map (float, ·)

/-! ## Moments -/

/-- A number with exactly so many digits, between two bounds. -/
def fixedDigits? (count least greatest : Nat) (characters : List Char) :
    Option (Nat × List Char) :=
  let digits := characters.take count
  let value := Json.digitsValue 10 0 digits
  if digits.length = count ∧ digits.all Char.isDigit ∧ least ≤ value ∧ value ≤ greatest then
    some (value, characters.drop count)
  else none

/-- The number of days in a month. -/
def daysIn (year month : Nat) : Nat :=
  if month = 2 then
    if year % 4 = 0 ∧ (year % 100 ≠ 0 ∨ year % 400 = 0) then 29 else 28
  else if month = 4 ∨ month = 6 ∨ month = 9 ∨ month = 11 then 30
  else 31

/-- The rest after a date. -/
def date? (characters : List Char) : Option (List Char) := do
  let (year, rest) ← fixedDigits? 4 0 9999 characters
  let rest ← Json.expect? ['-'] rest
  let (month, rest) ← fixedDigits? 2 1 12 rest
  let rest ← Json.expect? ['-'] rest
  let (_, rest) ← fixedDigits? 2 1 (daysIn year month) rest
  return rest

/-- The rest after hours and minutes. -/
def clock? (characters : List Char) : Option (List Char) := do
  let (_, rest) ← fixedDigits? 2 0 23 characters
  let rest ← Json.expect? [':'] rest
  let (_, rest) ← fixedDigits? 2 0 59 rest
  return rest

/-- The rest after a time of the day. -/
def time? (characters : List Char) : Option (List Char) := do
  let rest ← Json.expect? [':'] (← clock? characters)
  let (_, rest) ← fixedDigits? 2 0 60 rest
  match rest with
  | '.' :: fraction =>
    let after := fraction.dropWhile Char.isDigit
    if after.length = fraction.length then none else return after
  | _ => return rest

/-- The rest after an offset from universal time, if there is one. -/
def skipOffset : List Char → List Char
  | character :: rest =>
    if character == 'Z' || character == 'z' then rest
    else if character == '+' || character == '-' then (clock? rest).getD (character :: rest)
    else character :: rest
  | [] => []

/-- A date, a time or both. -/
def moment? (characters : List Char) : Option (Toml × List Char) :=
  match date? characters with
  | some (delimiter :: rest) =>
    if delimiter == 'T' || delimiter == 't' || delimiter == ' ' then
      match time? rest with
      | some rest => some (moment, skipOffset rest)
      | none => some (moment, delimiter :: rest)
    else some (moment, delimiter :: rest)
  | some [] => some (moment, [])
  | none => (time? characters).map (moment, ·)

/-- A number or a moment. -/
def numeric? (characters : List Char) : Option (Toml × List Char) :=
  (moment? characters).or ((decimal? characters).or ((special? characters).or
    (integer? characters)))

/-! ## Strings -/

/-- A character named by so many hexadecimal digits. -/
def namedChar? (count : Nat) (characters : List Char) : Option (Char × List Char) :=
  let digits := characters.take count
  let point := Json.digitsValue 16 0 digits
  if digits.length = count ∧ (digits.all fun digit => (Json.hexValue? digit).isSome) ∧
      point.isValidChar then
    some (Char.ofNat point, characters.drop count)
  else none

/-- The character of an escape, without its backslash. -/
def escape? : List Char → Option (Char × List Char)
  | 'u' :: rest => namedChar? 4 rest
  | 'U' :: rest => namedChar? 8 rest
  | '/' :: _ => none
  | character :: rest => (Json.simpleEscape? character).map (·, rest)
  | [] => none

/-- The inside of a string in double quotes up to its end.  `read` is the text so far in
reverse. -/
def basicText (fuel : Nat) (read characters : List Char) : Option (List Char × List Char) :=
  match fuel, characters with
  | 0, _ => none
  | _, [] => none
  | _, '\x22' :: rest => some (read.reverse, rest)
  | fuel + 1, '\\' :: rest =>
    match escape? rest with
    | some (character, rest) => basicText fuel (character :: read) rest
    | none => none
  | fuel + 1, character :: rest =>
    if isTextChar character then basicText fuel (character :: read) rest else none

/-- The inside of a string in single quotes up to its end. -/
def literalText (read : List Char) : List Char → Option (List Char × List Char)
  | [] => none
  | '\x27' :: rest => some (read.reverse, rest)
  | character :: rest =>
    if isTextChar character then literalText (character :: read) rest else none

/-- The rest after blanks and line breaks. -/
def skipBreaks : List Char → List Char
  | '\n' :: rest => skipBreaks rest
  | '\r' :: '\n' :: rest => skipBreaks rest
  | character :: rest => if isGap character then skipBreaks rest else character :: rest
  | [] => []

/-- The rest after a line break that a backslash takes back, with all blanks that follow. -/
def skipBreak? (characters : List Char) : Option (List Char) :=
  (newline? (skipGap characters)).map skipBreaks

/-- The number of times that a quote stands at the front. -/
def quotesAt (quote : Char) (characters : List Char) : Nat :=
  (characters.takeWhile (· == quote)).length

/-- The inside of a string of several lines up to its end.  Three quotes end the string; up to two
more quotes before them belong to it. -/
def blockText (fuel : Nat) (quote : Char) (read characters : List Char) :
    Option (List Char × List Char) :=
  match fuel with
  | 0 => none
  | fuel + 1 =>
    let quotes := quotesAt quote characters
    if 3 ≤ quotes then
      let kept := min (quotes - 3) 2
      some (read.reverse ++ List.replicate kept quote, characters.drop (kept + 3))
    else match newline? characters with
      | some rest => blockText fuel quote ('\n' :: read) rest
      | none =>
        match characters with
        | [] => none
        | '\\' :: rest =>
          if quote == '\x27' then blockText fuel quote ('\\' :: read) rest
          else match skipBreak? rest with
            | some rest => blockText fuel quote read rest
            | none =>
              match escape? rest with
              | some (character, rest) => blockText fuel quote (character :: read) rest
              | none => none
        | character :: rest =>
          if isTextChar character then blockText fuel quote (character :: read) rest else none

/-- The rest after an empty first line. -/
def skipFirstBreak (characters : List Char) : List Char := (newline? characters).getD characters

/-- A string of one line, as it may also stand for a key. -/
def quoted? : List Char → Option (String × List Char)
  | '\x22' :: rest =>
    (basicText (rest.length + 1) [] rest).map fun (text, rest) => (String.ofList text, rest)
  | '\x27' :: rest =>
    (literalText [] rest).map fun (text, rest) => (String.ofList text, rest)
  | _ => none

/-- A string. -/
def string? : List Char → Option (String × List Char)
  | '\x22' :: '\x22' :: '\x22' :: rest =>
    (blockText (rest.length + 1) '\x22' [] (skipFirstBreak rest)).map
      fun (text, rest) => (String.ofList text, rest)
  | '\x27' :: '\x27' :: '\x27' :: rest =>
    (blockText (rest.length + 1) '\x27' [] (skipFirstBreak rest)).map
      fun (text, rest) => (String.ofList text, rest)
  | characters => quoted? characters

end SchemaPlan.Toml
