import SchemaPlan.Toml.Scalar

/-!
# Reading TOML

A document is read line by line: entries, headers, comments and blank lines.  Values may be nested,
and keys dotted, to a limited depth only.
-/

set_option autoImplicit false

namespace SchemaPlan.Toml

/-- How deep values may be nested and into how many names a key may be divided, exclusively. -/
def maxDepth : Nat := 80

/-! ## Keys -/

/-- A character of a key without quotes. -/
def isKeyChar (character : Char) : Bool :=
  character.isAlphanum || character == '_' || character == '-'

/-- One name of a key. -/
def name? : List Char → Option (String × List Char)
  | [] => none
  | first :: rest =>
    if first == '\x22' || first == '\x27' then quoted? (first :: rest)
    else
      let name := (first :: rest).takeWhile isKeyChar
      if name.isEmpty then none
      else some (String.ofList name, (first :: rest).drop name.length)

/-- The names of a key with dots between them, at most as many as `limit` says. -/
def names? (limit : Nat) (characters : List Char) : Option (List String × List Char) :=
  match limit with
  | 0 => none
  | limit + 1 =>
    match name? (skipGap characters) with
    | none => none
    | some (name, rest) =>
      match skipGap rest with
      | '.' :: rest => (names? limit rest).map fun (names, rest) => (name :: names, rest)
      | rest => some ([name], rest)

/-- A key: the names of the tables that it passes through and its last name. -/
def key? (characters : List Char) : Option (List String × String × List Char) :=
  match names? (maxDepth - 1) characters with
  | some (names, rest) => names.getLast?.map fun last => (names.dropLast, last, rest)
  | none => none

/-! ## Values -/

/-- The rest after blanks, line breaks and comments. -/
def skipFiller (inComment : Bool) : List Char → List Char
  | [] => []
  | '\n' :: rest => skipFiller false rest
  | '\r' :: '\n' :: rest => skipFiller false rest
  | character :: rest =>
    if inComment then
      if isTextChar character then skipFiller true rest else character :: rest
    else if isGap character then skipFiller false rest
    else if character == '#' then skipFiller true rest
    else character :: rest

mutual

/-- A value, at a depth of nesting. -/
def value? (fuel depth : Nat) (characters : List Char) : Option (Toml × List Char) :=
  match fuel, characters with
  | 0, _ => none
  | _, [] => none
  | fuel + 1, '[' :: rest =>
    if maxDepth ≤ depth + 1 then none
    else (items? fuel (depth + 1) rest).map fun (items, rest) => (array items, rest)
  | fuel + 1, '\x7b' :: rest =>
    if maxDepth ≤ depth + 1 then none
    else match skipGap rest with
      | '\x7d' :: rest => some (table .braces [], rest)
      | rest =>
        match pieces? fuel (depth + 1) rest with
        | some (pieces, rest) => (ofBraces? pieces).map (·, rest)
        | none => none
  | _, 't' :: rest => (Json.expect? "rue".toList rest).map (bool true, ·)
  | _, 'f' :: rest => (Json.expect? "alse".toList rest).map (bool false, ·)
  | _, first :: rest =>
    if first == '\x22' || first == '\x27' then
      (string? (first :: rest)).map fun (text, rest) => (string text, rest)
    else numeric? (first :: rest)

/-- The items of an array up to its end. -/
def items? (fuel depth : Nat) (characters : List Char) : Option (List Toml × List Char) :=
  match fuel with
  | 0 => none
  | fuel + 1 =>
    match skipFiller false characters with
    | ']' :: rest => some ([], rest)
    | start =>
      match value? fuel depth start with
      | none => none
      | some (item, rest) =>
        match skipFiller false rest with
        | ',' :: rest =>
          (items? fuel depth rest).map fun (items, rest) => (item :: items, rest)
        | ']' :: rest => some ([item], rest)
        | _ => none

/-- The entries of a table in braces up to its end, at least one. -/
def pieces? (fuel depth : Nat) (characters : List Char) :
    Option (List (List String × String × Toml) × List Char) :=
  match fuel with
  | 0 => none
  | fuel + 1 =>
    match key? characters with
    | some (path, key, '=' :: rest) =>
      match value? fuel depth (skipGap rest) with
      | none => none
      | some (value, rest) =>
        match skipGap rest with
        | ',' :: rest =>
          (pieces? fuel depth rest).map fun (pieces, rest) => ((path, key, value) :: pieces, rest)
        | '\x7d' :: rest => some ([(path, key, value)], rest)
        | _ => none
    | _ => none

end

/-! ## Documents -/

/-- The rest after the end of a line, with blanks and a comment before it. -/
def endOfLine? (characters : List Char) : Option (List Char) :=
  let rest := match skipGap characters with
    | '#' :: comment => comment.dropWhile isTextChar
    | rest => rest
  if rest.isEmpty then some [] else newline? rest

/-- A header up to its closing brackets. -/
def header? (closing : List Char) (characters : List Char) :
    Option (List String × String × List Char) := do
  let (path, name, rest) ← key? characters
  return (path, name, ← Json.expect? closing rest)

/-- A line that says something, up to the end of what it says. -/
def statement? : List Char → Option (Statement × List Char)
  | '[' :: '[' :: rest =>
    (header? [']', ']'] rest).map fun (path, name, rest) => (.elementHeader path name, rest)
  | '[' :: rest => (header? [']'] rest).map fun (path, name, rest) => (.header path name, rest)
  | characters =>
    match key? characters with
    | some (path, key, '=' :: rest) =>
      (value? (2 * rest.length + 2) 0 (skipGap rest)).map fun (value, rest) =>
        (.entry path key value, rest)
    | _ => none

/-- The lines of a document that say something, at most `limit` lines. -/
def statements? (limit : Nat) (characters : List Char) : Option (List Statement) :=
  match limit with
  | 0 => none
  | limit + 1 =>
    match endOfLine? characters with
    | some [] => some []
    | some rest => statements? limit rest
    | none =>
      match statement? (skipGap characters) with
      | none => none
      | some (statement, rest) =>
        match endOfLine? rest with
        | some [] => some [statement]
        | some rest => (statements? limit rest).map (statement :: ·)
        | none => none

/-- The document that a text holds, as JSON. -/
def parse? (text : String) : Option Json :=
  let characters := match text.toList with
    | '\ufeff' :: rest => rest
    | all => all
  ((statements? (characters.length + 2) characters).bind ofStatements?).map
    fun entries => (table .header entries).toJson

end SchemaPlan.Toml
