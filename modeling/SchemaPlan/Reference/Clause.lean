import SchemaPlan.Pattern.Basic

/-!
# Clause shapes

Each kind of clause that refers to an object has a pattern of its own.  The patterns expect
cleaned text in capitals; the first group holds the name or the list of names.
-/

set_option autoImplicit false

namespace SchemaPlan.Clause

open Pattern

/-! ## Names -/

/-- The characters that open an identifier. -/
def opensIdentifier (character : Char) : Bool :=
  decide ('A' ≤ character) && decide (character ≤ 'Z')

/-- The characters that go on with an identifier. -/
def continuesIdentifier (character : Char) : Bool :=
  opensIdentifier character || character.isDigit ||
    character == '_' || character == '$' || character == '#'

/-- One identifier. -/
def identifier : Pattern := both (one opensIdentifier) (most continuesIdentifier)

/-- A further segment of a dotted name. -/
def dottedSegment : Pattern := both (character '.') identifier

/-- A name of one to three identifiers joined by dots. -/
def name : Pattern :=
  both identifier (optional (both dottedSegment (optional dottedSegment)))

/-- A keyword that starts at a word boundary. -/
def keyword (text : String) : Pattern := both boundary (literal text)

/-- A keyword with a word boundary on both sides. -/
def wholeWord (text : String) : Pattern := sequence [boundary, literal text, boundary]

/-- A second name after a table name, by which a statement refers to the table. -/
def otherName : Pattern := optional (both someBlanks identifier)

/-! ## Tables -/

/-- One item of a list of tables. -/
def tableItem : Pattern := both name otherName

/-- The list of tables after FROM. -/
def fromList : Pattern :=
  sequence [keyword "FROM", someBlanks,
    group 1 (both tableItem
      (repeated (sequence [blanks, character ',', blanks, tableItem])))]

/-- The table after JOIN. -/
def join : Pattern := sequence [keyword "JOIN", someBlanks, group 1 name]

/-- The table after INSERT INTO. -/
def insertInto : Pattern :=
  sequence [keyword "INSERT", someBlanks, literal "INTO", someBlanks, group 1 name]

/-- The table between UPDATE and SET. -/
def updateSet : Pattern :=
  sequence
    [keyword "UPDATE", someBlanks, group 1 name, otherName, someBlanks, literal "SET", boundary]

/-- The table after DELETE, with or without FROM. -/
def deleteFrom : Pattern :=
  sequence [keyword "DELETE", someBlanks, optional (both (literal "FROM") someBlanks),
    group 1 name]

/-- The table after MERGE INTO. -/
def mergeInto : Pattern :=
  sequence [keyword "MERGE", someBlanks, literal "INTO", someBlanks, group 1 name]

/-- The table of a column whose type is taken over. -/
def typeAnchor : Pattern :=
  sequence [boundary, group 1 name, dottedSegment, literal "%TYPE", boundary]

/-- The table whose row type is taken over. -/
def rowtypeAnchor : Pattern := sequence [boundary, group 1 name, literal "%ROWTYPE", boundary]

/-! ## Sequences and calls -/

/-- The sequence whose next or current value is taken. -/
def sequenceValue : Pattern :=
  sequence [boundary, group 1 name, character '.',
    choice [literal "NEXTVAL", literal "CURRVAL"], boundary]

/-- The routine called on the right of an assignment. -/
def assignmentCall : Pattern :=
  sequence [literal ":=", blanks, group 1 name, blanks, character '(']

/-- The routine called as a statement: where a statement may begin, followed by its arguments or
by nothing. -/
def statementCall : Pattern :=
  sequence [choice [textStart, wholeWord "BEGIN", wholeWord "THEN", wholeWord "ELSE",
      wholeWord "LOOP"],
    blanks, group 1 name, blanks, choice [character '(', textEnd]]

/-! ## Declarations and dotted names -/

/-- The declaration of a routine.  The groups are the text before the keyword on its line, the
keyword, and the name. -/
def declaration : Pattern :=
  sequence [lineStart, group 1 (fewest (· != '\n')), boundary,
    group 2 (choice [literal "FUNCTION", literal "PROCEDURE"]), someBlanks, group 3 name]

/-- What may stand before the keyword of a declaration that is not nested in another routine. -/
def topLevelOpening : Pattern :=
  sequence [textStart,
    optional (sequence [literal "CREATE",
      optional (sequence [someBlanks, literal "OR", someBlanks, literal "REPLACE"]),
      optional (sequence [someBlanks, optional (literal "NON"), literal "EDITIONABLE"])]),
    textEnd]

/-- Two or more identifiers joined by dots. -/
def dottedChain : Pattern := sequence [boundary, identifier, several dottedSegment]

/-! ## Arguments of a call -/

/-- The characters of a plain word. -/
def isPlainWord (character : Char) : Bool := character.isAlphanum || character == '_'

/-- The text between an open parenthesis and here holds the word SELECT. -/
def holdsSelect (inner : List Char) : Bool :=
  (Text.splitWhere (fun character => !isPlainWord character) inner).any (· == "SELECT".toList)

/-- Reads the text before a place backwards.  `depth` counts the parentheses closed and not yet
opened, and `inner` is the text already passed. -/
def insideCallFrom (depth : Nat) (inner : List Char) : List Char → Bool
  | [] => false
  | character :: rest =>
    if character == ';' then false
    else if character == ')' then insideCallFrom (depth + 1) (character :: inner) rest
    else if character == '(' then
      match depth with
      | 0 => !holdsSelect inner
      | depth + 1 => insideCallFrom depth (character :: inner) rest
    else insideCallFrom depth (character :: inner) rest

/-- Whether the end of a text, given backwards, lies within the arguments of a call.  Parentheses
around a subquery are no call. -/
def insideCall (before : List Char) : Bool := insideCallFrom 0 [] before

/-- The characters that take up the first bytes of a text, backwards, or nothing when the bytes
end within a character or beyond the text. -/
def charactersBefore? (read : List Char) : Nat → List Char → Option (List Char)
  | 0, _ => some read
  | _ + 1, [] => none
  | bytes + 1, character :: rest =>
    if character.utf8Size ≤ bytes + 1 then
      charactersBefore? (character :: read) (bytes + 1 - character.utf8Size) rest
    else none

/-- Whether a byte offset of a text lies within the arguments of a call. -/
def insideCallAt (text : List Char) (offset : Nat) : Bool :=
  (charactersBefore? [] offset text).any insideCall

end SchemaPlan.Clause
