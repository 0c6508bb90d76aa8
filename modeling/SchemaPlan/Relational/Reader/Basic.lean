import SchemaPlan.Relational.Token

/-!
# Readers of tokens

Every reader takes the tokens that are left and returns what it has read together with the rest.  A
name may also be written as a text; most keywords are names as well.
-/

set_option autoImplicit false

namespace SchemaPlan.Relational

/-- A reader of tokens, each of which comes with the characters from its beginning on. -/
abbrev Reader (Value : Type) : Type := StateT (List (Token × List Char)) Option Value

namespace Reader

variable {Item : Type}

/-! ## Tokens -/

/-- The next token, which is left where it is. -/
def peek? : Reader (Option Token) := do return (← get).head?.map (·.1)

/-- The next token. -/
def next : Reader Token := do
  match ← get with
  | (token, _) :: rest =>
    set rest
    return token
  | [] => failure

/-- Whether a token is a keyword. -/
def isWord (keyword : String) : Token → Bool
  | .word name => Text.sameIgnoringCase name keyword
  | _ => false

/-- Whether a keyword comes next. -/
def seesWord (keyword : String) : Reader Bool := do return (← peek?).any (isWord keyword)

/-- Whether keywords come next. -/
def seesWords (keywords : List String) : Reader Bool := do
  let tokens ← get
  return tokens.length ≥ keywords.length &&
    (keywords.zip tokens).all fun (keyword, token, _) => isWord keyword token

/-- Whether a symbol comes next. -/
def seesSymbol (text : String) : Reader Bool := do return (← peek?) == some (.symbol text)

/-- Reads a keyword if it comes next. -/
def skipWord (keyword : String) : Reader Bool := do
  if ← seesWord keyword then
    modify (·.drop 1)
    return true
  else return false

/-- Reads keywords if all of them come next. -/
def skipWords (keywords : List String) : Reader Bool := do
  let isNext ← seesWords keywords
  if isNext then modify (·.drop keywords.length)
  return isNext

/-- Reads a symbol if it comes next. -/
def skipSymbol (text : String) : Reader Bool := do
  if ← seesSymbol text then
    modify (·.drop 1)
    return true
  else return false

/-- Reads a keyword. -/
def word (keyword : String) : Reader Unit := do if !(← skipWord keyword) then failure

/-- Reads keywords. -/
def words (keywords : List String) : Reader Unit := do if !(← skipWords keywords) then failure

/-- Reads a symbol. -/
def symbol (text : String) : Reader Unit := do if !(← skipSymbol text) then failure

/-! ## Names -/

/-- The keywords of joins, which are names only where no join can come. -/
def joinWords : List String := ["CROSS", "FULL", "INNER", "LEFT", "NATURAL", "OUTER", "RIGHT"]

/-- The keywords that are no names. -/
def reserved : List String :=
  ["ADD", "ALL", "ALTER", "AND", "AS", "AUTOINCREMENT", "BETWEEN", "CASE", "CHECK", "COLLATE",
    "COMMIT", "CONSTRAINT", "CREATE", "DEFAULT", "DEFERRABLE", "DELETE", "DISTINCT", "DROP", "ELSE",
    "ESCAPE", "EXCEPT", "EXISTS", "FOREIGN", "FROM", "GROUP", "HAVING", "IN", "INDEX", "INSERT",
    "INTERSECT", "INTO", "IS", "ISNULL", "JOIN", "LIMIT", "NOT", "NOTHING", "NOTNULL", "NULL",
    "ON", "OR", "ORDER", "PRIMARY", "REFERENCES", "RETURNING", "SELECT", "SET", "TABLE", "THEN",
    "TO", "TRANSACTION", "UNION", "UNIQUE", "UPDATE", "USING", "VALUES", "WHEN", "WHERE"]

/-- Whether a word is a name. -/
def isName (name : String) : Bool := !reserved.contains (Text.upper name)

/-- Reads a name. -/
def name : Reader String := do
  match ← next with
  | .word name => if isName name then return name else failure
  | .quoted name _ | .constant (.text name) => return name
  | _ => failure

/-- Whether the definition of a window comes next, which begins with a keyword and a name. -/
def seesWindowName : Reader Bool := do
  match ← get with
  | (first, _) :: _ :: (third, _) :: _ => return isWord "WINDOW" first && isWord "AS" third
  | _ => return false

/-- Reads a name that is not a keyword of a join, if one comes next. -/
def plainName? : Reader (Option String) := do
  if ← seesWindowName then return none
  match ← peek? with
  | some (.word found) =>
    if isName found && !joinWords.contains (Text.upper found) then some <$> name else return none
  | some (.quoted _ _) | some (.constant (.text _)) => some <$> name
  | _ => return none

/-! ## Lists -/

/-- Reads a list with commas between its items. -/
def list (item : Reader Item) : Nat → Reader (List Item)
  | 0 => failure
  | fuel + 1 => do
    let first ← item
    if ← skipSymbol "," then return first :: (← list item fuel)
    else return [first]

/-- Reads a list in brackets. -/
def bracketed (item : Reader Item) : Reader (List Item) := do
  symbol "("
  let items ← list item (← get).length
  symbol ")"
  return items

/-- Reads something in brackets. -/
def enclosing (item : Reader Item) : Reader Item := do
  symbol "("
  let inner ← item
  symbol ")"
  return inner

/-- Reads something if a keyword comes before it. -/
def after (keyword : String) (item : Reader Item) : Reader (Option Item) := do
  if ← skipWord keyword then some <$> item else return none

/-- Reads something and returns it with its text. -/
def withText (item : Reader Item) : Reader (Item × String) := do
  let characters := ((← get).head?.map (·.2)).getD []
  let inner ← item
  let rest := ((← get).head?.map (·.2)).getD []
  let written := characters.take (characters.length - rest.length)
  return (inner, String.ofList (Text.trimWhere Token.isBlank written))

end Reader

end SchemaPlan.Relational
