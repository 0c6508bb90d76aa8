import SchemaPlan.Relational.Expression
import SchemaPlan.Relational.Reader.Basic

/-!
# Reading expressions

Operators have levels, from those that bind most to those that bind least; an operator takes the
operands of its level from the left.  What is nested in an expression is read by given readers.
-/

set_option autoImplicit false

namespace SchemaPlan.Relational.Reader

/-- Readers of what can be nested in an expression. -/
structure Nested where
  expression : Reader Expression
  /-- An expression without the operators that put conditions together. -/
  condition : Reader Expression
  operand : Reader Expression
  query : Reader Query

variable (nested : Nested)

/-! ## Parts -/

/-- Reads a keyword for what becomes of a change. -/
def resolution : Reader Resolution := do
  let keyword ← name
  match [("ABORT", Resolution.abort), ("FAIL", .fail), ("ROLLBACK", .rollback),
      ("IGNORE", .ignore), ("REPLACE", .replace)].lookup (Text.upper keyword) with
  | some resolution => return resolution
  | none => failure

/-- Reads the words of a type. -/
def typeWords : Nat → Reader (List String)
  | 0 => failure
  | fuel + 1 => do
    if ← seesWord "GENERATED" then return []
    match ← plainName? with
    | some first => return first :: (← typeWords fuel)
    | none => return []

/-- Reads a number with a sign. -/
def signed : Reader Unit := do
  if !(← skipSymbol "-") then
    let _ ← skipSymbol "+"
  match ← next with
  | .constant (.integer _) | .constant (.real _) | .edge => return
  | _ => failure

/-- Reads a type, which may have lengths after it. -/
def typeName : Reader String := do
  let words ← typeWords (← get).length
  if words.isEmpty then return ""
  if ← skipSymbol "(" then
    signed
    if ← skipSymbol "," then signed
    symbol ")"
  return String.intercalate " " words

/-- Whether a query comes next. -/
def seesQuery : Reader Bool := do
  return (← seesWord "SELECT") || (← seesWord "VALUES") || (← seesWord "WITH")

/-- Reads expressions, of which there may be none, up to a closing bracket. -/
def arguments : Reader (List Expression) := do
  let found ← if ← seesSymbol ")" then pure [] else list nested.expression (← get).length
  symbol ")"
  return found

/-- Reads the direction in which a term is put in order, and returns whether it is descending. -/
def isDescending : Reader Bool := do
  if ← skipWord "DESC" then return true
  else
    let _ ← skipWord "ASC"
    return false

/-- Reads an expression by which rows are put in order. -/
def orderTerm : Reader OrderTerm := do
  let expression ← nested.expression
  let isDescending ← isDescending
  let nullsFirst ←
    if ← skipWords ["NULLS", "FIRST"] then pure (some true)
    else if ← skipWords ["NULLS", "LAST"] then pure (some false)
    else pure none
  return { expression, isDescending, nullsFirst }

/-- Reads the expressions by which rows are put in order, if there are any. -/
def orderTerms : Reader (List OrderTerm) := do
  if ← skipWords ["ORDER", "BY"] then list (orderTerm nested) (← get).length else return []

/-! ## Windows -/

/-- Reads an end of a part of a window. -/
def bound : Reader Bound := do
  if ← skipWords ["UNBOUNDED", "PRECEDING"] then return .start
  else if ← skipWords ["UNBOUNDED", "FOLLOWING"] then return .finish
  else if ← skipWords ["CURRENT", "ROW"] then return .current
  else
    let distance ← nested.expression
    if ← skipWord "PRECEDING" then return .preceding distance
    else
      word "FOLLOWING"
      return .following distance

/-- Reads which rows are left out of a window. -/
def exclusion : Reader Exclusion := do
  if ← skipWord "EXCLUDE" then
    if ← skipWords ["NO", "OTHERS"] then return .nothing
    else if ← skipWords ["CURRENT", "ROW"] then return .current
    else if ← skipWord "GROUP" then return .group
    else
      word "TIES"
      return .ties
  else return .nothing

/-- Reads the part of a window around a row, if it is given. -/
def frame? : Reader (Option Frame) := do
  let unit ←
    if ← skipWord "ROWS" then pure (some FrameUnit.rows)
    else if ← skipWord "RANGE" then pure (some .range)
    else if ← skipWord "GROUPS" then pure (some .groups)
    else pure none
  match unit with
  | none => return none
  | some unit =>
    let (first, last) ←
      if ← skipWord "BETWEEN" then
        let first ← bound nested
        word "AND"
        pure (first, ← bound nested)
      else pure (← bound nested, .current)
    let isWrong := match first, last with
      | .finish, _ | _, .start => true
      | .following _, .preceding _ | .following _, .current | .current, .preceding _ => true
      | _, _ => false
    if isWrong then failure
    return some { unit, first, last, exclusion := ← exclusion }

/-- Whether the next token begins the rules of a window. -/
def seesWindowRule : Reader Bool := do
  return (← seesWord "PARTITION") || (← seesWord "ORDER") || (← seesWord "ROWS") ||
    (← seesWord "RANGE") || (← seesWord "GROUPS") || (← seesSymbol ")")

/-- Reads a window in brackets. -/
def window : Reader Window := do
  symbol "("
  let base ← if ← seesWindowRule then pure none else some <$> name
  let partition ←
    if ← skipWords ["PARTITION", "BY"] then list nested.expression (← get).length else pure []
  let order ← orderTerms nested
  let frame ← frame? nested
  symbol ")"
  return { base, partition, order, frame }

/-- Reads what comes after the arguments of a function. -/
def afterCall (call : Call) : Reader Expression := do
  let seesBracket := match (← get).drop 1 with
    | (.symbol "(", _) :: _ => true
    | _ => false
  let call ←
    if (← seesWord "FILTER") && seesBracket then
      word "FILTER"
      symbol "("
      word "WHERE"
      let condition ← nested.expression
      symbol ")"
      pure { call with filter := some condition }
    else pure call
  let seesWindow := match (← get).drop 1 with
    | (.symbol "(", _) :: _ | (.quoted _ _, _) :: _ => true
    | (.word following, _) :: _ => isName following
    | _ => false
  if (← seesWord "OVER") && seesWindow then
    word "OVER"
    if ← seesSymbol "(" then return .call { call with window := some (← window nested) }
    else return .call { call with window := some { base := some (← name) } }
  else return .call call

/-- Reads the call of a function after its opening bracket. -/
def called (function : String) : Reader Expression := do
  if ← skipSymbol "*" then
    symbol ")"
    afterCall nested { function, arguments := [], isStar := true }
  else
    let isDistinct ← skipWord "DISTINCT"
    if !isDistinct then
      let _ ← skipWord "ALL"
    let isBare := (← seesSymbol ")") || (← seesWord "ORDER")
    let arguments ← if isBare then pure [] else list nested.expression (← get).length
    let order ← orderTerms nested
    symbol ")"
    afterCall nested { function, arguments, isDistinct, order }

/-! ## Operands -/

/-- Reads the rest of a name that may be the name of a table or a database, with a column after
it. -/
def qualified (first : String) (isDouble : Bool) : Reader Expression := do
  if ← skipSymbol "." then
    let second ← name
    if ← skipSymbol "." then return .column [first, second] (← name) false
    else return .column [first] second false
  else return .column [] first isDouble

/-- Reads the alternatives of a choice up to its end. -/
def alternatives : Nat → Reader (List Expression)
  | 0 => failure
  | fuel + 1 => do
    if ← skipWord "WHEN" then
      let condition ← nested.expression
      word "THEN"
      let value ← nested.expression
      if ← seesWord "WHEN" then return condition :: value :: (← alternatives fuel)
      let otherwise ← if ← skipWord "ELSE" then pure [← nested.expression] else pure []
      word "END"
      return condition :: value :: otherwise
    else failure

/-- Reads what is in brackets: a query, an expression or several of them. -/
def enclosedOperand : Reader Expression := do
  if ← seesQuery then
    let query ← nested.query
    symbol ")"
    return .scalar query
  else
    let items ← list nested.expression (← get).length
    symbol ")"
    match items with
    | [item] => return item
    | items => return .tuple items

/-- Reads an operand that begins with a word. -/
def worded (found : String) : Reader Expression := do
  let keyword := Text.upper found
  let isCall ← seesSymbol "("
  if keyword == "NULL" then return .literal .null
  else if keyword == "CASE" then
    let subject ← if ← seesWord "WHEN" then pure none else some <$> nested.expression
    return .choose subject (← alternatives nested (← get).length)
  else if keyword == "EXISTS" then .exists <$> enclosing nested.query
  else if keyword == "NOT" then .invert <$> nested.condition
  else if keyword == "CAST" && isCall then
    enclosing do
      let inner ← nested.expression
      word "AS"
      return .cast inner (← typeName)
  else if keyword == "RAISE" && isCall then
    enclosing do
      let resolution ← resolution
      if resolution = .ignore then return .raise resolution ""
      symbol ","
      return .raise resolution (← name)
  else if !isName found then failure
  else if isCall then
    symbol "("
    called nested found
  else if ["CURRENT_DATE", "CURRENT_TIME", "CURRENT_TIMESTAMP"].contains keyword &&
      !(← seesSymbol ".") then
    return .ofCall found []
  else qualified found false

/-- Reads an operand with the signs before it. -/
def signedOperand : Reader Expression := do
  match ← next with
  | .symbol "-" => .negate <$> nested.operand
  | .symbol "+" => .plus <$> nested.operand
  | .symbol "~" => .complement <$> nested.operand
  | .symbol "(" => enclosedOperand nested
  | .constant (.text first) =>
    if ← seesSymbol "." then qualified first false else return .literal (.text first)
  | .constant value => return .literal value
  | .edge => return .edge
  | .parameter place => return .parameter (place.toNat?.getD 0)
  | .quoted first isDouble =>
    if ← skipSymbol "(" then called nested first else qualified first isDouble
  | .word keyword => worded nested keyword
  | .symbol _ => failure

/-- Reads the collations after an operand. -/
def collated : Nat → Expression → Reader Expression
  | 0, _ => failure
  | fuel + 1, operand => do
    if ← skipWord "COLLATE" then
      match ← plainName? with
      | some collation => collated fuel (.collate operand collation)
      | none => failure
    else return operand

/-! ## Levels -/

/-- The operators of the levels, from the ones that bind most. -/
def operators : Nat → List (String × (Expression → Expression → Expression))
  | 1 => [("||", .apply .join), ("->", fun left right => .ofCall "->" [left, right]),
      ("->>", fun left right => .ofCall "->>" [left, right])]
  | 2 => [("*", .apply .multiply), ("/", .apply .divide), ("%", .apply .remainder)]
  | 3 => [("+", .apply .add), ("-", .apply .subtract)]
  | 4 => [("<<", .apply .shiftLeft), (">>", .apply .shiftRight), ("&", .apply .bitAnd),
      ("|", .apply .bitOr)]
  | 5 => [("<", .apply .less), ("<=", .apply .atMost), (">", .apply .greater),
      (">=", .apply .atLeast)]
  | 7 => [("AND", .both)]
  | 8 => [("OR", .apply .or)]
  | _ => []

/-- The level of equality and of what binds like it. -/
def equalityLevel : Nat := 6

/-- The level of the operators that bind least. -/
def lastLevel : Nat := 8

/-- Reads an operator of a level. -/
def operator? (level : Nat) : Reader (Option (Expression → Expression → Expression)) := do
  let text := match ← peek? with
    | some (.symbol text) => text
    | some (.word keyword) => Text.upper keyword
    | _ => ""
  let found := (operators level).lookup text
  if found.isSome then modify (·.drop 1)
  return found

/-- Reads what follows an operand on a level. -/
def operations (level : Nat) (operand : Reader Expression) : Nat → Expression → Reader Expression
  | 0, _ => failure
  | fuel + 1, left => do
    match ← operator? level with
    | some make => operations level operand fuel (make left (← operand))
    | none => return left

/-- Reads the symbol of an equality. -/
def equality? : Reader (Option Operator) := do
  if (← skipSymbol "=") || (← skipSymbol "==") then return some .equal
  else if (← skipSymbol "<>") || (← skipSymbol "!=") then return some .unequal
  else if ← skipWord "IS" then
    let isInverted ← skipWord "NOT"
    let isDistinct ← skipWords ["DISTINCT", "FROM"]
    return some (if isInverted == isDistinct then .same else .different)
  else return none

/-- Reads the choices for a value: expressions, a query, or the rows of a table. -/
def choices (left : Expression) : Reader Expression := do
  if ← skipSymbol "(" then
    if ← seesQuery then
      let query ← nested.query
      symbol ")"
      return .within left query
    else
      match ← arguments nested with
      | [] => return .ofBool false
      | [.scalar query] => return .within left query
      | choices => return .among left choices
  else
    let first ← name
    let (database, table) ← if ← skipSymbol "." then pure (some first, ← name)
      else pure (none, first)
    let source ← if ← skipSymbol "(" then pure (Source.function table (← arguments nested) none)
      else pure (.table database table none)
    return .within left { first := { wanted := [.all none], source := some source } }

/-- The functions that test a text against a pattern. -/
def patterns : List String := ["LIKE", "GLOB", "REGEXP", "MATCH"]

/-- Reads a test after its left operand, which is inverted if the keyword for it has come. -/
def tested? (operand condition : Reader Expression) (left : Expression) :
    Reader (Option Expression) := do
  let isInverted ← skipWord "NOT"
  let turn (found : Expression) : Expression := if isInverted then .invert found else found
  match ← peek? with
  | some (.word keyword) =>
    let keyword := Text.upper keyword
    if keyword == "NULL" && isInverted then
      word "NULL"
      return some (.invert (.isNull left))
    else if patterns.contains keyword then
      word keyword
      let pattern ← operand
      let escape ← after "ESCAPE" operand
      return some (turn (.ofCall keyword (pattern :: left :: escape.toList)))
    else if keyword == "BETWEEN" then
      word keyword
      let low ← condition
      word "AND"
      return some (turn (.between left low (← operand)))
    else if keyword == "IN" then
      word keyword
      let found ← choices nested left
      return some (if found.isFalse then .ofBool isInverted else turn found)
    else if isInverted then failure
    else return none
  | _ => if isInverted then failure else return none

/-- Reads what follows an operand on the level of equality. -/
def equalities (operand : Reader Expression) : Nat → Expression → Reader Expression
  | 0, _ => failure
  | fuel + 1, left => do
    match ← equality? with
    | some operator => equalities operand fuel (.apply operator left (← operand))
    | none =>
      if ← skipWord "ISNULL" then equalities operand fuel (.isNull left)
      else if ← skipWord "NOTNULL" then equalities operand fuel (.invert (.isNull left))
      else
        match ← tested? nested operand nested.condition left with
        | some found => equalities operand fuel found
        | none => return left

/-- Reads an expression of operators of a level and of those that bind more. -/
def level : Nat → Reader Expression
  | 0 => do collated (← get).length (← signedOperand nested)
  | place + 1 => do
    let left ← level place
    let fuel := (← get).length + 1
    if place + 1 = equalityLevel then equalities nested (level place) fuel left
    else operations (place + 1) (level place) fuel left

end SchemaPlan.Relational.Reader
