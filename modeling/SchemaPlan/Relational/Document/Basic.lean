import SchemaPlan.Relational.Function.Text

/-!
# Documents

A document is a value of the notation for data with braces and brackets.  Numbers and texts are kept
as they have been written; some ways to write them are only allowed in the relaxed form of the
notation.
-/

set_option autoImplicit false

namespace SchemaPlan.Relational

/-! ## Documents -/

/-- How the content of a text is to be taken. -/
inductive Wording where
  /-- As it is, without anything that must be escaped. -/
  | plain
  /-- With escapes. -/
  | escaped
  /-- With escapes and characters of the relaxed form. -/
  | relaxed
  /-- As it is. -/
  | raw
deriving DecidableEq, Repr

/-- A text as it is written. -/
structure Label where
  wording : Wording
  content : List Char
deriving DecidableEq, Repr

mutual

/-- A document. -/
inductive Document where
  | null
  | truth (value : Bool)
  /-- A number with its digits, which may be in floating point or in relaxed form. -/
  | number (isReal isRelaxed : Bool) (digits : List Char)
  | text (label : Label)
  | array (items : List Document)
  | object (members : List Member)

/-- A member of an object. -/
structure Member where
  label : Label
  document : Document

end

namespace Document

/-! ## Characters -/

/-- Whether a character has a meaning of its own in a text. -/
def isSpecial (character : Char) : Bool :=
  character == '\x22' || character == '\\' || decide (character.toNat < 0x20)

/-- The escape of a character that controls. -/
def control (character : Char) : List Char :=
  match character with
  | '\x08' => ['\\', 'b']
  | '\x0c' => ['\\', 'f']
  | '\n' => ['\\', 'n']
  | '\r' => ['\\', 'r']
  | '\t' => ['\\', 't']
  | character =>
    let digits := Function.hexByte character.toNat.toUInt8
    '\\' :: 'u' :: '0' :: '0' :: digits.map Char.toLower

/-- A character as it is written in a text. -/
def escape (character : Char) : List Char :=
  if character.toNat < 0x20 then control character
  else if isSpecial character then ['\\', character]
  else [character]

/-- The number of four hexadecimal digits at the front of characters. -/
def hexFour? (characters : List Char) : Option Nat :=
  let digits := characters.take 4
  if digits.length = 4 && digits.all Token.isHex then
    some (digits.foldl (fun number digit => number * 16 + Token.hexValue digit) 0)
  else none

/-- The characters after breaks of a line, each of which follows a backslash.  How many characters
have been passed over is returned with them. -/
def skipBreaks : List Char → Nat × List Char
  | '\\' :: '\r' :: '\n' :: rest =>
    let (count, rest) := skipBreaks rest
    (count + 3, rest)
  | '\\' :: character :: rest =>
    if character == '\n' || character == '\r' || character == '\u2028' || character == '\u2029'
    then
      let (count, rest) := skipBreaks rest
      (count + 2, rest)
    else (0, '\\' :: character :: rest)
  | characters => (0, characters)

/-- The numbers of the characters that a text with escapes stands for, of which there are at most as
many as given. -/
def codes : Nat → List Char → List Nat
  | 0, _ | _, [] => []
  | fuel + 1, '\\' :: mark :: rest =>
    let plain (number : Nat) : List Nat := number :: codes fuel rest
    match mark with
    | 'b' => plain 8
    | 'f' => plain 12
    | 'n' => plain 10
    | 'r' => plain 13
    | 't' => plain 9
    | 'v' => plain 11
    | '0' => plain 0
    | '\x27' | '\x22' | '/' | '\\' => plain mark.toNat
    | 'u' =>
      match hexFour? rest with
      | none => codes fuel rest
      | some high =>
        let after := rest.drop 4
        let low? := if after.take 2 == ['\\', 'u'] then hexFour? (after.drop 2) else none
        match low? with
        | some low =>
          if 0xd800 ≤ high ∧ high < 0xdc00 ∧ 0xdc00 ≤ low ∧ low < 0xe000 then
            (0x10000 + (high - 0xd800) * 0x400 + (low - 0xdc00)) :: codes fuel (after.drop 6)
          else high :: codes fuel after
        | none => high :: codes fuel after
    | 'x' =>
      let digits := rest.take 2
      digits.foldl (fun number digit => number * 16 + Token.hexValue digit) 0 ::
        codes fuel (rest.drop 2)
    | _ =>
      let (count, after) := skipBreaks ('\\' :: mark :: rest)
      if count = 0 then codes fuel rest
      else if after.isEmpty then [0]
      else codes fuel after
  | fuel + 1, character :: rest => character.toNat :: codes fuel rest

end Document

namespace Label

/-- The numbers of the characters of a text. -/
def codes (label : Label) : List Nat :=
  match label.wording with
  | .plain | .raw => label.content.map Char.toNat
  | .escaped | .relaxed => Document.codes label.content.length label.content

/-- Whether two texts have the same characters. -/
def isSame (first second : Label) : Bool := first.codes == second.codes

/-- The value of a text. -/
def value (label : Label) : Value :=
  match label.wording with
  | .plain | .raw => .ofChars label.content
  | .escaped | .relaxed => Encoding.utf8.textOf (label.codes.flatMap Function.codeBytes)

/-- The text of characters as they are. -/
def ofChars (characters : List Char) : Label := ⟨.raw, characters⟩

/-- A content in relaxed form, written in the plain form. -/
def unrelaxed : List Char → List Char
  | [] => []
  | '\\' :: '\r' :: '\n' :: rest => unrelaxed rest
  | '\\' :: 'x' :: first :: second :: rest => "\\u00".toList ++ first :: second :: unrelaxed rest
  | '\\' :: mark :: rest =>
    match mark with
    | '\x27' => '\x27' :: unrelaxed rest
    | 'v' => "\\u0009".toList ++ unrelaxed rest
    | '0' => "\\u0000".toList ++ unrelaxed rest
    | '\r' | '\n' | '\u2028' | '\u2029' => unrelaxed rest
    | mark => '\\' :: mark :: unrelaxed rest
  | character :: rest => Document.escape character ++ unrelaxed rest

/-- A text as it is written. -/
def write (label : Label) : List Char :=
  let content := match label.wording with
    | .plain | .escaped => label.content
    | .relaxed => unrelaxed label.content
    | .raw => label.content.flatMap Document.escape
  '\x22' :: content ++ ['\x22']

end Label

namespace Document

/-! ## Numbers -/

/-- What stands for a number that is too great. -/
def endless : List Char := "9.0e999".toList

/-- A whole number in hexadecimal digits, written in decimal ones. -/
def writeHex (digits : List Char) : List Char :=
  let (negative, digits) := Numeral.splitSign digits
  let number := (digits.drop 2).foldl (fun number digit => number * 16 + Token.hexValue digit) 0
  let sign := if negative then ['-'] else []
  sign ++ if number < Nat.pow 2 64 then (toString number).toList else endless

/-- A number in floating point that may lack digits at its point, with these digits. -/
def fillPoint (before : Bool) : List Char → List Char
  | [] => []
  | '.' :: rest =>
    (if before then [] else ['0']) ++ '.' ::
      (if rest.head?.any Char.isDigit then [] else ['0']) ++ fillPoint true rest
  | character :: rest => character :: fillPoint character.isDigit rest

/-- A number as it is written. -/
def writeNumber (isReal isRelaxed : Bool) (digits : List Char) : List Char :=
  match isReal, isRelaxed with
  | _, false => digits
  | false, true => writeHex digits
  | true, true => fillPoint false digits

/-- The value of a number. -/
def numberValue (isReal : Bool) (digits : List Char) : Value :=
  let (negative, unsigned) := Numeral.splitSign digits
  let isHex := unsigned.take 2 == ['0', 'x'] || unsigned.take 2 == ['0', 'X']
  if isHex then
    let number := (unsigned.drop 2).foldl (fun number digit => number * 16 + Token.hexValue digit) 0
    .integer (if negative then -wrapped number else wrapped number)
  else
    match Numeral.ofPrefix? digits with
    | some (numeral, _) => if isReal then Value.ofFloat numeral.toFloat else Value.ofNumeral numeral
    | none => .null

/-! ## Writing -/

/-- Lists of characters with commas between them. -/
def joined (parts : List (List Char)) : List Char := [','].intercalate parts

mutual

/-- A document as it is written without blanks. -/
def write : Document → List Char
  | null => "null".toList
  | truth value => (if value then "true" else "false").toList
  | number isReal isRelaxed digits => writeNumber isReal isRelaxed digits
  | text label => label.write
  | array items => '[' :: joined (writeItems items) ++ [']']
  | object members => '{' :: joined (writeMembers members) ++ ['}']

/-- Documents as they are written. -/
def writeItems : List Document → List (List Char)
  | [] => []
  | item :: rest => write item :: writeItems rest

/-- A member of an object as it is written. -/
def writeMember : Member → List Char
  | ⟨label, document⟩ => label.write ++ ':' :: write document

/-- Members of an object as they are written. -/
def writeMembers : List Member → List (List Char)
  | [] => []
  | member :: rest => writeMember member :: writeMembers rest

end

/-- Parts on lines of their own, with indents. -/
def onLines (indent : List Char) (depth : Nat) (first last : Char) (parts : List (List Char)) :
    List Char :=
  let space (depth : Nat) : List Char := (List.replicate depth indent).flatten
  if parts.isEmpty then [first, last]
  else
    let lines := parts.map fun part => '\n' :: space (depth + 1) ++ part
    first :: joined lines ++ '\n' :: space depth ++ [last]

mutual

/-- A document as it is written on several lines. -/
def pretty (indent : List Char) (depth : Nat) : Document → List Char
  | array items => onLines indent depth '[' ']' (prettyItems indent (depth + 1) items)
  | object members => onLines indent depth '{' '}' (prettyMembers indent (depth + 1) members)
  | null => write null
  | truth value => write (truth value)
  | number isReal isRelaxed digits => write (number isReal isRelaxed digits)
  | text label => write (text label)

/-- Documents as they are written on several lines. -/
def prettyItems (indent : List Char) (depth : Nat) : List Document → List (List Char)
  | [] => []
  | item :: rest => pretty indent depth item :: prettyItems indent depth rest

/-- A member of an object as it is written on several lines. -/
def prettyMember (indent : List Char) (depth : Nat) : Member → List Char
  | ⟨label, document⟩ => label.write ++ ':' :: ' ' :: pretty indent depth document

/-- Members of an object as they are written on several lines. -/
def prettyMembers (indent : List Char) (depth : Nat) : List Member → List (List Char)
  | [] => []
  | member :: rest => prettyMember indent depth member :: prettyMembers indent depth rest

end

/-! ## Values -/

/-- The name of the kind of a document. -/
def kind : Document → String
  | null => "null"
  | truth true => "true"
  | truth false => "false"
  | number false _ _ => "integer"
  | number true _ _ => "real"
  | text _ => "text"
  | array _ => "array"
  | object _ => "object"

/-- Whether a document has others inside. -/
def isNesting : Document → Bool
  | array _ | object _ => true
  | _ => false

/-- A document as a text. -/
def written (document : Document) : Value := .ofChars document.write

/-- The value of a document.  What has others inside is a text. -/
def value : Document → Value
  | null => .null
  | truth value => .ofBool value
  | number isReal _ digits => numberValue isReal digits
  | text label => label.value
  | document => document.written

end Document

end SchemaPlan.Relational
