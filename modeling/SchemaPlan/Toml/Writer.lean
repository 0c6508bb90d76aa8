import SchemaPlan.Json.Writer

/-!
# Written TOML

A string is written in double quotes if nothing in it needs an escape.  Otherwise single quotes
are tried, then three double quotes, then three single quotes; if none of them can hold the text
as it is, it is written with escapes.  A list of two items or more takes one line for each.
-/

set_option autoImplicit false

namespace SchemaPlan.Toml

/-- The length of the longest run of a character. -/
def longestRun (wanted : Char) (characters : List Char) : Nat :=
  (characters.foldl (fun (longest, current) character =>
    if character == wanted then (max longest (current + 1), current + 1) else (longest, 0))
    (0, 0)).1

/-- A character that can only be written as an escape. -/
def isControl (character : Char) : Bool :=
  character != '\t' && character != '\n' &&
    (decide (character.toNat ≤ 0x1f) || decide (character.toNat = 0x7f))

/-- A character with its number as an escape. -/
def numberedEscape (character : Char) : List Char :=
  let digit (value : Nat) : Char := (Nat.digitChar value).toUpper
  ['\\', 'u', '0', '0', digit (character.toNat / 16), digit (character.toNat % 16)]

/-- A character in double quotes, other than a double quote itself. -/
def escaped (inBlock : Bool) (character : Char) : List Char :=
  if character == '\n' then if inBlock then ['\n'] else ['\\', 'n']
  else if character == '\t' then ['\\', 't']
  else if character == '\\' then ['\\', '\\']
  else if character == '\x08' then ['\\', 'b']
  else if character == '\x0c' then ['\\', 'f']
  else if character == '\r' then ['\\', 'r']
  else if isControl character then numberedEscape character
  else [character]

/-- The inside of a string in double quotes.  Up to `allowed` double quotes in a row stand for
themselves; `run` of them have just been written. -/
def basicInside (inBlock : Bool) (allowed run : Nat) : List Char → List Char
  | [] => []
  | character :: rest =>
    if character == '\x22' then
      if run < allowed then '\x22' :: basicInside inBlock allowed (run + 1) rest
      else '\\' :: '\x22' :: basicInside inBlock allowed 0 rest
    else escaped inBlock character ++ basicInside inBlock allowed 0 rest

/-- Some characters between delimiters. -/
def delimited (delimiter : List Char) (inside : List Char) : String :=
  String.ofList (delimiter ++ inside ++ delimiter)

/-- A text as a TOML string. -/
def writtenString (text : String) : String :=
  let characters := text.toList
  let hasControls := characters.any isControl
  let hasBackslash := characters.contains '\\'
  let hasBreak := characters.contains '\n'
  let doubles := longestRun '\x22' characters
  let singles := longestRun '\x27' characters
  let opening : List Char := if hasBreak then ['\n'] else []
  let threeDoubles := List.replicate 3 '\x22'
  if !hasControls && !hasBackslash && !hasBreak && doubles == 0 then
    delimited ['\x22'] (basicInside false 0 0 characters)
  else if !hasControls && !hasBreak && singles == 0 then delimited ['\x27'] characters
  else if !hasControls && !hasBackslash && decide (doubles ≤ 2) then
    delimited threeDoubles (opening ++ basicInside true 2 0 characters)
  else if !hasControls && decide (singles ≤ 2) then
    delimited (List.replicate 3 '\x27') (opening ++ characters)
  else if hasBreak then delimited threeDoubles (opening ++ basicInside true 2 0 characters)
  else delimited ['\x22'] (basicInside false 0 0 characters)

/-- A list of texts. -/
def writtenList : List String → String
  | [] => "[]"
  | [text] => "[" ++ writtenString text ++ "]"
  | texts =>
    "[\n" ++ String.join (texts.map fun text => "    " ++ writtenString text ++ ",\n") ++ "]"

/-- A section: its header and its settings that are written. -/
def writtenSection (name : String) (settings : List (String × Option String)) : String :=
  "[" ++ name ++ "]\n" ++ String.join (settings.filterMap fun setting =>
    setting.2.map fun value => setting.1 ++ " = " ++ value ++ "\n")

end SchemaPlan.Toml
