import SchemaPlan.Text.Basic

/-!
# Cleaning source text

Before references are looked for, comments are removed, the contents of string literals are
dropped, double quotes around identifiers disappear, runs of blanks become one blank, and ASCII
letters become capitals.  Lines that hold nothing after that are left out.  A block comment may
span lines; a string literal ends with its line.
-/

set_option autoImplicit false

namespace SchemaPlan.Source

/-- What the reader of a line is inside of. -/
inductive Region where
  | code
  | literal
  | comment
deriving DecidableEq, Repr

/-- Adds a blank to the text read so far (in reverse), unless it would open the text or follow
another blank. -/
def addBlank : List Char → List Char
  | [] => []
  | ' ' :: read => ' ' :: read
  | read => ' ' :: read

/-- Reads one line.  `read` is the cleaned text so far in reverse.  The answer is the cleaned text
in reverse and whether a block comment is still open. -/
def readLine : Region → List Char → List Char → List Char × Bool
  | .comment, read, '*' :: '/' :: rest => readLine .code (' ' :: read) rest
  | .comment, read, _ :: rest => readLine .comment read rest
  | .comment, read, [] => (read, true)
  | .literal, read, '\x27' :: '\x27' :: rest => readLine .literal read rest
  | .literal, read, '\x27' :: rest => readLine .code ('\x27' :: read) rest
  | .literal, read, _ :: rest => readLine .literal read rest
  | .literal, read, [] => ('\x27' :: read, false)
  | .code, read, '-' :: '-' :: _ => (read, false)
  | .code, read, '/' :: '*' :: rest => readLine .comment read rest
  | .code, read, '\x27' :: rest => readLine .literal ('\x27' :: read) rest
  | .code, read, '\x22' :: rest => readLine .code read rest
  | .code, read, character :: rest =>
    if Text.isBlank character then readLine .code (addBlank read) rest
    else readLine .code (character.toUpper :: read) rest
  | .code, read, [] => (read, false)

/-- The cleaned form of one line, and whether a block comment is open behind it. -/
def cleanLine (inComment : Bool) (line : List Char) : List Char × Bool :=
  let (read, stillOpen) := readLine (if inComment then .comment else .code) [] line
  (Text.trimChars read.reverse, stillOpen)

/-- The cleaned forms of successive lines, empty ones included. -/
def cleanLines (inComment : Bool) : List String → List (List Char)
  | [] => []
  | line :: rest =>
    let (cleaned, stillOpen) := cleanLine inComment line.toList
    cleaned :: cleanLines stillOpen rest

/-- The cleaned text of a routine, every line closed by a line feed. -/
def cleanChars (lines : List String) : List Char :=
  ((cleanLines false lines).filter fun line => !line.isEmpty).flatMap (· ++ ['\n'])

/-- The cleaned text of a routine. -/
def clean (lines : List String) : String := String.ofList (cleanChars lines)

end SchemaPlan.Source
