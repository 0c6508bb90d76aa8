import SchemaPlan.Json.Basic

/-!
# Written JSON

The compact form has no blanks at all; characters that only strings can hold may be escaped in
it, so that it is plain ASCII.  The indented form puts every item on a line of its own,
two blanks deeper than its container; an empty container stays on one line.
-/

set_option autoImplicit false

namespace SchemaPlan.Json

/-- A hexadecimal digit in small letters. -/
def hexDigit (value : Nat) : Char := (Nat.digitChar value)

/-- The written form of one character in a string. -/
def escapedChar (character : Char) : List Char :=
  if character == '\x22' then ['\\', '\x22']
  else if character == '\\' then ['\\', '\\']
  else if character == '\n' then ['\\', 'n']
  else if character == '\r' then ['\\', 'r']
  else if character == '\t' then ['\\', 't']
  else if character == '\x08' then ['\\', 'b']
  else if character == '\x0c' then ['\\', 'f']
  else if character.toNat < 0x20 then
    ['\\', 'u', '0', '0', hexDigit (character.toNat / 16), hexDigit (character.toNat % 16)]
  else [character]

/-- A text as a JSON string. -/
def writtenString (text : String) : String :=
  String.ofList ('\x22' :: text.toList.flatMap escapedChar ++ ['\x22'])

/-- The written form of a value without items. -/
def writtenScalar : Json → String
  | null => "null"
  | bool true => "true"
  | bool false => "false"
  | integer value => toString value
  | fraction => "0.0"
  | string text => writtenString text
  | unpaired => writtenString ""
  | array _ => "[]"
  | object _ => "\x7b\x7d"

mutual

/-- The compact form of a value. -/
def compact : Json → String
  | array items => "[" ++ compactItems items ++ "]"
  | object entries => "\x7b" ++ compactMembers entries ++ "\x7d"
  | scalar => writtenScalar scalar

/-- The compact forms of items, separated by commas. -/
def compactItems : List Json → String
  | [] => ""
  | [item] => item.compact
  | item :: rest => item.compact ++ "," ++ compactItems rest

/-- The compact forms of members, separated by commas. -/
def compactMembers : List (String × Json) → String
  | [] => ""
  | [(name, value)] => writtenString name ++ ":" ++ value.compact
  | (name, value) :: rest =>
    writtenString name ++ ":" ++ value.compact ++ "," ++ compactMembers rest

end

/-! ## ASCII -/

/-- A 16-bit unit as an escape. -/
def escapedUnit (unit : Nat) : List Char :=
  '\\' :: 'u' :: [unit / 4096, unit / 256 % 16, unit / 16 % 16, unit % 16].map hexDigit

/-- A character, escaped unless it is a printable one of ASCII: beyond 16 bits as a pair of
surrogates. -/
def asciiChar (character : Char) : List Char :=
  let point := character.toNat
  if point < 0x7f then [character]
  else if point < 0x10000 then escapedUnit point
  else escapedUnit (0xd800 + (point - 0x10000) / 0x400) ++
    escapedUnit (0xdc00 + (point - 0x10000) % 0x400)

/-- The compact form of a value in ASCII. -/
def ascii (value : Json) : String :=
  String.ofList (value.compact.toList.flatMap asciiChar)

/-! ## Indentation -/

/-- The start of a line at a depth. -/
def lineAt (depth : Nat) : String := "\n" ++ String.ofList (List.replicate (2 * depth) ' ')

mutual

/-- The indented form of a value whose container stands at a depth. -/
def indentedAt (depth : Nat) : Json → String
  | array (item :: rest) =>
    "[" ++ indentedItems (depth + 1) (item :: rest) ++ lineAt depth ++ "]"
  | object (entry :: rest) =>
    "\x7b" ++ indentedMembers (depth + 1) (entry :: rest) ++ lineAt depth ++ "\x7d"
  | scalar => writtenScalar scalar

/-- The indented forms of items, each on a line of its own. -/
def indentedItems (depth : Nat) : List Json → String
  | [] => ""
  | [item] => lineAt depth ++ item.indentedAt depth
  | item :: rest => lineAt depth ++ item.indentedAt depth ++ "," ++ indentedItems depth rest

/-- The indented forms of members, each on a line of its own. -/
def indentedMembers (depth : Nat) : List (String × Json) → String
  | [] => ""
  | [(name, value)] => lineAt depth ++ writtenString name ++ ": " ++ value.indentedAt depth
  | (name, value) :: rest =>
    lineAt depth ++ writtenString name ++ ": " ++ value.indentedAt depth ++ "," ++
      indentedMembers depth rest

end

/-- The indented form of a value. -/
def indented (value : Json) : String := value.indentedAt 0

end SchemaPlan.Json
