import SchemaPlan.Relational.RowChange

/-!
# Changes of relations

A statement finds the rows that it concerns first and goes through them then one by one.  A
statement that fails takes its changes back, as a rule.

A table or an index is only created if it is missing.  An index needs a table with its columns, and
a unique one rows that do not repeat each other.
-/

set_option autoImplicit false

namespace SchemaPlan.Relational

namespace Change

variable {Result : Type}

/-! ## Views -/

/-- The rows of a table or of a view. -/
def rowsOf (ground : Ground) (goal : Goal) : Change (List Row) := do
  match goal.definition? with
  | some _ => rows goal.name
  | none =>
    let wanted : Query :=
      { first := { wanted := [.all none], source := some (.table (some "main") goal.name none) } }
    return (← ofExcept (ground.answer [] wanted)).map fun values => ⟨0, values⟩

/-- Runs the triggers of a view instead of a change of a row. -/
def insteadOf (run : Runner) (setting : Setting) (occasion : Occasion) : Change Unit := do
  let _ ← setOff run setting .instead occasion

/-- The row of a view with some values. -/
def viewRow (goal : Goal) (row : Row) (given : List (String × Value)) : Row :=
  let valueOf (head : Head) (value : Value) : Value :=
    let found := given.find? fun (column, _) => Text.sameIgnoringCase column head.name
    (found.map (·.2)).getD value
  { row with values := (goal.heads.zip row.values).map fun (head, value) => valueOf head value }

/-! ## Insertions -/

/-- Runs an insertion. -/
def insert (run : Runner) (setting : Setting) (insertion : Insertion) : Change Nat := do
  let goal ← ask (·.goal insertion.subject)
  let ground := setting.ground (← get) insertion.shared
  let columns := if insertion.rows.isSome then insertion.columns.getD goal.given else []
  let found ← match insertion.rows with
    | some rows => ofExcept (ground.answer setting.levels rows)
    | none => pure [[]]
  match goal.definition? with
  | none =>
    found.forM fun values => do
      let row := viewRow goal goal.blank (columns.zip values)
      insteadOf run setting ⟨goal, .insertion, none, some row⟩
    return 0
  | some definition =>
    found.foldlM (fun count values => do
      let given := columns.zip values
      return count + (← insertRow run setting insertion goal definition given)) 0

/-! ## Updates -/

/-- A row that is to be updated, with what is assigned to it if that is known beforehand. -/
structure Chosen where
  row : Row
  given : Option (List (String × Value)) := none

/-- The rows that are to be updated.  Of several rows of other sources for one row the last one
counts. -/
def chosenRows (goal : Goal) (supply : Option Supply) (condition : Option Meaning)
    (assigned : List (String × Meaning)) (rows : List Row) : Except Trouble (List Chosen) :=
  rows.filterMapM fun row => do
    let stand := goal.stand row
    match supply with
    | none => return if ← Meaning.allows condition stand then some { row } else none
    | some supply =>
      let stands := (← supply.rows stand).map (Supply.extended stand)
      match (← stands.filterM (Meaning.allows condition)).getLast? with
      | some stand => return some { row, given := ← Assignment.values assigned stand }
      | none => return none

/-- Runs an update. -/
def update (run : Runner) (setting : Setting) (updating : Updating) : Change Nat := do
  let goal ← ask (·.goal updating.subject)
  let ground := setting.ground (← get) updating.shared
  let ((supply, condition, assigned), _) ← ofExcept
    ((Relations.updateMeaning ground updating).run (goal.level :: setting.levels))
  let chosen ← ofExcept (chosenRows goal supply condition assigned (← rowsOf ground goal))
  let given (chosen : Chosen) (row : Row) : Except Trouble (List (String × Value)) :=
    (chosen.given.map .ok).getD (Assignment.values assigned (goal.stand row))
  let columns := updating.columns
  match goal.definition? with
  | none =>
    chosen.forM fun chosen => do
      let after := viewRow goal chosen.row (← ofExcept (given chosen chosen.row))
      insteadOf run setting ⟨goal, .update columns, some chosen.row, some after⟩
    return 0
  | some definition =>
    chosen.foldlM (fun count chosen => do
      return count + (← updateRow run setting setting.resolution goal definition columns
        (fun row => some <$> given chosen row) chosen.row)) 0

/-! ## Deletions -/

/-- Runs a deletion. -/
def delete (run : Runner) (setting : Setting) (deletion : Deletion) : Change Nat := do
  let goal ← ask (·.goal deletion.subject)
  let ground := setting.ground (← get) deletion.shared
  let (condition, _) ← ofExcept
    ((Interpreter.full.expression? ground deletion.condition).run (goal.level :: setting.levels))
  let found ← ofExcept <| (← rowsOf ground goal).filterM fun row =>
    Meaning.allows condition (goal.stand row)
  match goal.definition? with
  | none =>
    found.forM fun row => insteadOf run setting ⟨goal, .deletion, some row, none⟩
    return 0
  | some definition =>
    found.foldlM (fun count row => do
      return count + (← deleteRow run setting goal definition row)) 0

/-! ## Statements -/

/-- Takes back the changes of a statement that fails, unless they are to be kept. -/
def takingBack (change : Change Result) : Change Result :=
  ExceptT.mk fun relations =>
    match (change.run).run relations with
    | (.ok result, after) => (.ok result, after)
    | (.error trouble, after) =>
      (.error trouble, if trouble.keepsChanges || isLeftOut trouble then after else relations)

/-- Fails for rows that a statement returns, once they have been changed. -/
def returning (returned : List Wanted) (count : Nat) : Change Nat :=
  if returned.isEmpty || count = 0 then return count else throw .returned

/-- Runs a statement, where triggers may set off each other up to a depth, and returns the number
of rows changed. -/
def runWithin : Nat → Setting → Statement → Change Nat
  | 0, _, _ => throw (.unreadable "trigger")
  | depth + 1, setting, statement =>
    let run (setting : Setting) (statement : Statement) : Change Unit := do
      let _ ← runWithin depth setting statement
    let resolved (resolution : Option Resolution) : Setting :=
      { setting with resolution := setting.resolution.or resolution }
    takingBack <| match statement with
      | .query query => do
        let ground := setting.ground (← get) []
        let _ ← ofExcept (ground.answer setting.levels query)
        return 0
      | .insert insertion => do
        returning insertion.returned (← insert run (resolved insertion.resolution) insertion)
      | .update updating => do
        returning updating.returned (← update run (resolved updating.resolution) updating)
      | .delete deletion => do
        returning deletion.returned (← delete run setting deletion)

end Change

namespace Relations

/-- The number of rows that a statement changes, and the relations after it.  A statement with an
unknown name, or one that leaves a row without the row that it refers to, changes nothing. -/
def run (relations : Relations) (statement : Statement) (parameters : List Value) :
    Except Trouble Nat × Relations :=
  let setting : Setting := { parameters }
  let (answer, after) := ((Change.runWithin relations.depth setting statement).run).run relations
  match relations.check setting statement, relations.checkLinks after with
  | .ok (), .ok () => (answer, after)
  | .error trouble, _ | .ok (), .error trouble => (.error trouble, relations)

/-! ## Creating -/

/-- The relations with one more item, which grows from a new page. -/
def add (relations : Relations) (item : Item) : Relations :=
  let root := relations.pageCount + 1
  { relations with items := relations.items ++ [{ item with root }], pageCount := root }

/-- The names of the indexes that come with the keys of a table. -/
def automaticNames (definition : TableDefinition) : List String :=
  let keys := definition.keys.filter fun key => !(definition.hasNumber && key.isPrimary)
  (List.range keys.length).map fun place =>
    "sqlite_autoindex_" ++ definition.name ++ "_" ++ toString (place + 1)

/-- The relations with a new table and the indexes that come with it. -/
def addTable (relations : Relations) (definition : TableDefinition) (text : String) : Relations :=
  let table := definition.name
  let relations := relations.add { kind := .table, name := table, table, definition := text }
  (automaticNames definition).foldl (fun relations name =>
    relations.add { kind := .index, name, table, definition := "" }) relations

/-- Checks that the rows of a table do not repeat each other. -/
def checkDistinct (encoding : Encoding) (definition : TableDefinition) (lock : Change.Lock) :
    List Row → Except Trouble Unit
  | [] => .ok ()
  | row :: rest => do
    if !(← lock.repeating encoding definition row rest).isEmpty then
      throw (.broken .abort "UNIQUE constraint failed")
    checkDistinct encoding definition lock rest

/-- Checks that a table can have an index. -/
def checkIndex (relations : Relations) (table : String) (isUnique : Bool) (key : Key) :
    Except Trouble Unit := do
  let (definition, rows) ← relations.table table
  let lock ← Change.Lock.ofKey relations.ground definition key
  if isUnique then checkDistinct relations.encoding definition lock rows

/-- The relations with what a text defines, if it is missing. -/
def create (relations : Relations) (text : String) : Except Trouble Relations := do
  match Definition.ofText? text with
  | some (.table definition) =>
    let name := definition.name
    if relations.hasTable name then return relations
    if (relations.item? .index name).isSome then throw (.taken name)
    return relations.addTable definition text
  | some (.index name table isUnique key) =>
    if (relations.item? .view table).isSome then throw (.fixed table)
    let _ ← relations.table table
    if relations.hasTable name then throw (.taken name)
    if (relations.item? .index name).isSome then return relations
    relations.checkIndex table isUnique key
    return relations.add { kind := .index, name, table, definition := text }
  | _ => throw (.unreadable text)

/-! ## Dropping -/

/-- The relations with the rows of others. -/
def withRowsOf (relations others : Relations) : Relations :=
  { relations with items := relations.items.map fun item =>
      { item with rows := ((others.item? item.kind item.name).map (·.rows)).getD item.rows } }

/-- The relations with a table emptied to which other rows refer.  No triggers run for this.  Every
link to a table that is not there makes up for a row that is left dangling, and must do so. -/
def emptied (relations : Relations) (name : String) : Except Trouble Relations := do
  if (← relations.referencesTo name).isEmpty then return relations
  let silent := { relations with items := relations.items.filter (·.kind != Kind.trigger) }
  let deletion : Deletion := { subject := { table := name } }
  let (answer, after) :=
    ((Change.runWithin relations.depth {} (.delete deletion)).run).run silent
  let _ ← answer
  if (← newlyDangling silent after) ≠ (← silent.linksToNowhere name) then throw brokenLink
  return relations.withRowsOf after

/-- The relations without what has been counted for a table. -/
def uncounted (relations : Relations) (name : String) : Relations :=
  match relations.table Change.counters with
  | .ok (_, rows) =>
    relations.withRows Change.counters (rows.filter fun row =>
      row.values.head? != some (.text name))
  | .error _ => relations

/-- Whether a name is one of tables that cannot be removed. -/
def isKept (name : String) : Bool :=
  let name := Text.upper name
  name.startsWith "SQLITE_" && !name.startsWith "SQLITE_STAT"

/-- The relations without a table and what belongs to it. -/
def remove (relations : Relations) (removal : Removal) : Except Trouble Relations := do
  let name := removal.subject.table
  let isHere := removal.subject.database.all (Text.sameIgnoringCase "main")
  if isHere && (relations.item? .view name).isSome then throw (.fixed name)
  if isHere && (isList name || (relations.item? .table name).isSome && isKept name) then
    throw (.fixed name)
  match if isHere then relations.item? .table name else none with
  | none => if removal.isOptional then return relations else throw (.unknownTable name)
  | some item =>
    let relations := (← relations.emptied name).uncounted item.name
    return { relations with items := relations.items.filter fun item =>
      !Text.sameIgnoringCase item.table name }

end Relations

end SchemaPlan.Relational
