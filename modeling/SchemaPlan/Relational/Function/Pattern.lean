import SchemaPlan.Relational.Collation
import SchemaPlan.Relational.Trouble

/-!
# Patterns for texts

In a pattern of `LIKE` a percent sign stands for any characters and a low line for a single one,
and letters of ASCII match in any case.  In a pattern of `GLOB` they are a star and a question mark,
and a set of characters in square brackets stands for one of them.
-/

set_option autoImplicit false

namespace SchemaPlan.Relational.Pattern

/-- A part of a pattern. -/
inductive Part where
  /-- Any characters. -/
  | many
  /-- A single character. -/
  | one
  | exact (character : Char)
  /-- A character between two others, or one that is not. -/
  | set (isInverted : Bool) (ranges : List (Char × Char))
  /-- What no text has. -/
  | never
deriving DecidableEq, Repr

/-- Whether characters match a pattern. -/
def matches? (isSame : Char → Char → Bool) : List Part → List Char → Bool
  | [], characters => characters.isEmpty
  | .many :: pattern, [] => matches? isSame pattern []
  | .many :: pattern, character :: rest =>
    matches? isSame pattern (character :: rest) || matches? isSame (.many :: pattern) rest
  | _ :: _, [] => false
  | .one :: pattern, _ :: rest => matches? isSame pattern rest
  | .exact wanted :: pattern, character :: rest =>
    isSame wanted character && matches? isSame pattern rest
  | .set isInverted ranges :: pattern, character :: rest =>
    (ranges.any (fun (first, last) => decide (first ≤ character ∧ character ≤ last)) !=
      isInverted) && matches? isSame pattern rest
  | .never :: _, _ => false
termination_by pattern characters => pattern.length + characters.length

/-- The characters of a text up to one that ends it. -/
def ended (characters : List Char) : List Char := characters.takeWhile (· != '\x00')

/-! ## Reading -/

/-- The parts of a pattern of `LIKE` with a character that takes the next one as it is. -/
def likeParts (escape : Option Char) : List Char → List Part
  | [] => []
  | character :: rest =>
    if escape == some character then
      match rest with
      | [] => [.never]
      | next :: rest => .exact next :: likeParts escape rest
    else if character == '%' then .many :: likeParts escape rest
    else if character == '_' then .one :: likeParts escape rest
    else .exact character :: likeParts escape rest

/-- The ranges of a set up to its end, after a character that may begin a range. -/
def setRanges (before : Option Char) : List Char → Option (List (Char × Char) × List Char)
  | [] => none
  | ']' :: rest => some ([], rest)
  | '-' :: last :: rest =>
    match before with
    | some first =>
      if last == ']' then
        (setRanges none (last :: rest)).map fun (ranges, rest) => (('-', '-') :: ranges, rest)
      else (setRanges none rest).map fun (ranges, rest) => ((first, last) :: ranges, rest)
    | none =>
      (setRanges (some '-') (last :: rest)).map fun (ranges, rest) => (('-', '-') :: ranges, rest)
  | character :: rest =>
    (setRanges (some character) rest).map fun (ranges, rest) =>
      ((character, character) :: ranges, rest)

/-- The set after its opening bracket, and the rest. -/
def readSet (characters : List Char) : Option (Part × List Char) :=
  let isInverted := characters.head? == some '^'
  let characters := if isInverted then characters.drop 1 else characters
  let ranges? : Option (List (Char × Char) × List Char) := match characters with
    | ']' :: rest => (setRanges none rest).map fun (ranges, rest) => ((']', ']') :: ranges, rest)
    | characters => setRanges none characters
  ranges?.map fun (ranges, rest) => (.set isInverted ranges, rest)

/-- The parts of a pattern of `GLOB`, at most as many as given. -/
def globParts : Nat → List Char → List Part
  | 0, _ | _, [] => []
  | fuel + 1, character :: rest =>
    if character == '*' then .many :: globParts fuel rest
    else if character == '?' then .one :: globParts fuel rest
    else if character == '[' then
      match readSet rest with
      | some (part, rest) => part :: globParts fuel rest
      | none => [.never]
    else .exact character :: globParts fuel rest

/-! ## Matching -/

/-- The greatest number of bytes of a pattern. -/
def maxLength : Nat := 50000

/-- Whether two characters are the same apart from their case. -/
def sameLetter (first second : Char) : Bool := first.toLower == second.toLower

/-- Whether a text matches a pattern of `LIKE`. -/
def likes (escape : Option Char) (pattern characters : List Char) : Bool :=
  matches? sameLetter (likeParts escape (ended pattern)) (ended characters)

/-- Whether a text matches a pattern of `GLOB`. -/
def globs (pattern characters : List Char) : Bool :=
  let pattern := ended pattern
  matches? (· == ·) (globParts pattern.length pattern) (ended characters)

/-- The value of a match of two values, which may be missing. -/
def value (pattern text : Value) (test : List Char → List Char → Bool) : Except Trouble Value :=
  if maxLength < (pattern.bytes .utf8).length then .error .tooGreat
  else if pattern == .null || text == .null then .ok .null
  else .ok (Value.ofBool (test pattern.chars text.chars))

/-- The value of `LIKE` with a character that takes the next one as it is. -/
def escapedValue (pattern text escape : Value) : Except Trouble Value :=
  if maxLength < (pattern.bytes .utf8).length then .error .tooGreat
  else if escape == .null then .ok .null
  else
    match ended escape.chars with
    | [character] => value pattern text (likes (some character))
    | _ => .error (.unfit "LIKE")

end SchemaPlan.Relational.Pattern
