/-!
# Names as text

Object names are compared after their surrounding blanks are removed and their ASCII letters
are capitalised.  Letters beyond ASCII keep their case.  A blank is any character with the
Unicode property White_Space.
-/

set_option autoImplicit false

namespace SchemaPlan.Text

/-- A character with the Unicode property White_Space. -/
def isBlank (character : Char) : Bool :=
  let point := character.toNat
  if point < 0x80 then point == 0x20 || (decide (0x9 ≤ point) && decide (point ≤ 0xd))
  else point == 0x85 || point == 0xa0 || point == 0x1680 ||
    (decide (0x2000 ≤ point) && decide (point ≤ 0x200a)) ||
    point == 0x2028 || point == 0x2029 || point == 0x202f || point == 0x205f || point == 0x3000

/-- The text with its ASCII letters capitalised. -/
def upper (text : String) : String :=
  String.ofList (text.toList.map Char.toUpper)

/-- The characters without those at both ends that pass a test. -/
def trimWhere (isOuter : Char → Bool) (characters : List Char) : List Char :=
  ((characters.dropWhile isOuter).reverse.dropWhile isOuter).reverse

/-- The characters without the blanks at both ends. -/
def trimChars (characters : List Char) : List Char := trimWhere isBlank characters

/-- The text without the blanks at both ends. -/
def trim (text : String) : String :=
  String.ofList (trimChars text.toList)

/-- The form in which a name is stored and compared. -/
def canonical (text : String) : String :=
  upper (trim text)

/-- Two texts that differ at most in the case of their ASCII letters. -/
def sameIgnoringCase (left right : String) : Bool :=
  upper left == upper right

/-- The number of bytes that the characters take in UTF-8. -/
def byteLength : List Char → Nat
  | [] => 0
  | character :: rest => character.utf8Size + byteLength rest

/-! ## Splitting -/

/-- The pieces between separators; there is one more piece than separators. -/
def splitWhere (isSeparator : Char → Bool) : List Char → List (List Char)
  | [] => [[]]
  | character :: rest =>
    if isSeparator character then [] :: splitWhere isSeparator rest
    else match splitWhere isSeparator rest with
      | [] => [[character]]
      | piece :: pieces => (character :: piece) :: pieces

/-- The pieces of a text between occurrences of one separator. -/
def splitOn (separator : Char) (text : String) : List String :=
  (splitWhere (· == separator) text.toList).map String.ofList

/-- The maximal runs of characters that are not blank. -/
def words (characters : List Char) : List (List Char) :=
  (splitWhere isBlank characters).filter fun piece => !piece.isEmpty

/-- Ends the line held in reverse; a carriage return before the line feed belongs to the end. -/
def endedLine : List Char → List Char
  | '\r' :: reversed => reversed.reverse
  | reversed => reversed.reverse

/-- The lines of a text whose current line has been read, in reverse, up to here. -/
def linesFrom : List Char → List Char → List (List Char)
  | [], [] => []
  | current, [] => [current.reverse]
  | current, '\n' :: rest => endedLine current :: linesFrom [] rest
  | current, character :: rest => linesFrom (character :: current) rest

/-- The lines of a text.  A final line feed does not open another line. -/
def lines (text : String) : List String :=
  (linesFrom [] text.toList).map String.ofList

end SchemaPlan.Text
