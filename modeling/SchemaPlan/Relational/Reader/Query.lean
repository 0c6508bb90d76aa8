import SchemaPlan.Relational.Reader.Expression

/-!
# Reading queries

A query is a selection or some rows of values, put together with others.  Expressions and queries
are nested in each other up to a depth.
-/

set_option autoImplicit false

namespace SchemaPlan.Relational.Reader

variable (nested : Nested)

/-! ## Selections -/

/-- Reads another name for something, which need not come after a keyword. -/
def otherName : Reader (Option String) := do
  if ← skipWord "AS" then some <$> name else plainName?

/-- Reads what a selection returns. -/
def wanted : Reader Wanted := do
  match ← get with
  | (.symbol "*", _) :: rest =>
    set rest
    return .all none
  | (.word table, _) :: (.symbol ".", _) :: (.symbol "*", _) :: rest
  | (.quoted table _, _) :: (.symbol ".", _) :: (.symbol "*", _) :: rest =>
    set rest
    return .all (some table)
  | _ =>
    let (expression, written) ← withText nested.expression
    return .value expression (← otherName) written

/-- The kind of a join that keywords tell. -/
def joinKind? (keywords : List String) : Option JoinKind :=
  let has (keyword : String) : Bool := keywords.contains keyword
  let isInner := has "INNER" || has "CROSS"
  let isSided := has "LEFT" || has "RIGHT" || has "FULL"
  if !keywords.all joinWords.contains || 3 < keywords.length then none
  else if (isInner && (isSided || has "OUTER")) || (has "OUTER" && !isSided) then none
  else some ⟨has "NATURAL", has "LEFT" || has "FULL", has "RIGHT" || has "FULL"⟩

/-- Reads what joins two sources, if there is another one. -/
def joining? : Reader (Option JoinKind) := do
  if (← skipSymbol ",") || (← skipWord "JOIN") then return some {}
  let keywords := ((← get).take 4).filterMap fun
    | (.word keyword, _) => some (Text.upper keyword)
    | _ => none
  let before := keywords.takeWhile (· != "JOIN")
  if keywords.contains "JOIN" && before.head?.any joinWords.contains then
    words (before ++ ["JOIN"])
    match joinKind? before with
    | some kind => return some kind
    | none => failure
  else return none

/-- Reads which index is to be used, which makes no difference. -/
def indexed : Reader Unit := do
  if ← skipWords ["INDEXED", "BY"] then
    let _ ← name
  else
    let _ ← skipWords ["NOT", "INDEXED"]

/-- Reads the name of something that may have the name of its database before it. -/
def located : Reader (Option String × String) := do
  let first ← name
  if ← skipSymbol "." then return (some first, ← name) else return (none, first)

/-- Reads what a joined source must have in common with those before it. -/
def link : Reader Link := do
  if ← skipWord "ON" then return .condition (← nested.expression)
  else if ← skipWord "USING" then return .columns (← bracketed name)
  else return .always

/-- A name given to a source in brackets. -/
def renamed (source : Source) : Option String → Source
  | none => source
  | some byname =>
    match source with
    | .table database name _ => .table database name byname
    | .function name arguments _ => .function name arguments byname
    | .query query _ => .query query byname
    | source => .query { first := { wanted := [.all none], source := some source } } byname

/-- Reads the name of a source, unless the next word says which index is to be used. -/
def sourceName : Reader (Option String) := do
  if ← seesWords ["INDEXED", "BY"] then return none else otherName

mutual

/-- Reads a single source, where brackets are nested up to a depth. -/
def source : Nat → Reader Source
  | 0 => failure
  | fuel + 1 => do
    if ← skipSymbol "(" then
      let inner ←
        if ← seesQuery then pure (Source.query (← nested.query) none)
        else joined fuel
      symbol ")"
      return renamed inner (← otherName)
    else
      let (database, table) ← located
      if ← skipSymbol "(" then
        let arguments ← arguments nested
        return .function table arguments (← otherName)
      else
        let byname ← sourceName
        indexed
        return .table database table byname

/-- Reads sources that are joined. -/
def joined : Nat → Reader Source
  | 0 => failure
  | fuel + 1 => do joinedTo fuel (← source fuel)

/-- Reads the sources that are joined to one. -/
def joinedTo : Nat → Source → Reader Source
  | 0, _ => failure
  | fuel + 1, left => do
    match ← joining? with
    | none => return left
    | some kind =>
      let right ← source fuel
      joinedTo fuel (.join kind left right (← link nested))

end

/-- Reads a window with its name. -/
def namedWindow : Reader (String × Window) := do
  let name ← name
  word "AS"
  return (name, ← window nested)

/-- Reads a selection. -/
def selection : Reader Selection := do
  word "SELECT"
  let isDistinct ← skipWord "DISTINCT"
  if !isDistinct then
    let _ ← skipWord "ALL"
  let wanted ← list (wanted nested) (← get).length
  let fuel := 2 * (← get).length + 2
  let source ← after "FROM" (joined nested fuel)
  let condition ← after "WHERE" nested.expression
  let groups ←
    if ← skipWords ["GROUP", "BY"] then list nested.expression (← get).length else pure []
  let having ← after "HAVING" nested.expression
  let windows ← after "WINDOW" (do list (namedWindow nested) (← get).length)
  return { isDistinct, wanted, source, condition, groups, having, windows := windows.getD [] }

/-! ## Queries -/

/-- Reads rows of values.  Several rows are put together as a query of their own. -/
def rows : Reader Selection := do
  match ← list (bracketed nested.expression) (← get).length with
  | [] => failure
  | [row] => return .ofRow row
  | first :: others =>
    let query : Query :=
      { first := .ofRow first, others := others.map fun row => (.all, .ofRow row) }
    return { wanted := [.all none], source := some (.query query none) }

/-- Reads how a further selection is put together with the ones before. -/
def combination? : Reader (Option Combination) := do
  if ← skipWords ["UNION", "ALL"] then return some .all
  else if ← skipWord "UNION" then return some .union
  else if ← skipWord "INTERSECT" then return some .common
  else if ← skipWord "EXCEPT" then return some .difference
  else return none

/-- Reads a selection or rows of values, and returns whether they are rows of values. -/
def core : Reader (Selection × Bool) := do
  if ← skipWord "VALUES" then return (← rows nested, true)
  else return (← selection nested, false)

/-- Reads the selections that are put together with the ones before, and returns whether the last
one is rows of values. -/
def combined : Nat → Bool → Reader (List (Combination × Selection) × Bool)
  | 0, isLastRows => return ([], isLastRows)
  | fuel + 1, isLastRows => do
    match ← combination? with
    | some combination =>
      let (selection, isRows) ← core nested
      let (others, isLastRows) ← combined fuel isRows
      return ((combination, selection) :: others, isLastRows)
    | none => return ([], isLastRows)

/-- Reads a query that others can take rows from by its name. -/
def shared : Reader Shared := do
  let name ← name
  let columns ← if ← seesSymbol "(" then some <$> bracketed Reader.name else pure none
  word "AS"
  if !(← skipWord "MATERIALIZED") then
    let _ ← skipWords ["NOT", "MATERIALIZED"]
  return { name, columns, query := ← enclosing nested.query }

/-- Reads the queries that others can take rows from, if there are any. -/
def sharedQueries : Reader (List Shared) := do
  if ← skipWord "WITH" then
    let _ ← skipWord "RECURSIVE"
    list (shared nested) (← get).length
  else return []

/-- Reads how many rows are returned and how many are left out before them. -/
def limits : Reader (Option Expression × Option Expression) := do
  if ← skipWord "LIMIT" then
    let first ← nested.expression
    if ← skipSymbol "," then return (some (← nested.expression), some first)
    else return (some first, ← after "OFFSET" nested.expression)
  else return (none, none)

/-- Reads a query. -/
def queryOf : Reader Query := do
  let shared ← sharedQueries nested
  let (first, isRows) ← core nested
  let (others, isLastRows) ← combined nested (← get).length isRows
  if isLastRows then return { shared, first, others }
  let order ← orderTerms nested
  let (limit, offset) ← limits nested
  return { shared, first, others, order, limit, offset }

/-! ## Nesting -/

/-- The readers of what is nested up to a depth. -/
def nestedTo : Nat → Nested
  | 0 => ⟨failure, failure, failure, failure⟩
  | depth + 1 =>
    let inner := nestedTo depth
    { expression := level inner lastLevel
      condition := level inner equalityLevel
      operand := signedOperand inner
      query := queryOf inner }

/-- Uses the readers of what is nested, up to the depth that the tokens allow. -/
def nesting {Item : Type} (item : Nested → Reader Item) : Reader Item := do
  item (nestedTo ((← get).length + 1))

/-- Reads an expression. -/
def expression : Reader Expression := nesting (·.expression)

/-- Reads an expression in brackets. -/
def enclosed : Reader Expression := enclosing expression

/-- Reads a query. -/
def query : Reader Query := nesting (·.query)

end SchemaPlan.Relational.Reader
