import SchemaPlan.Relational.Goal

/-!
# Checks of statements

Before a statement runs, its names and those in the triggers that it may set off must be known.
This is so even where there are no rows.
-/

set_option autoImplicit false

namespace SchemaPlan.Relational.Relations

/-- The depth up to which triggers may set off each other and references may be followed. -/
def depth (relations : Relations) : Nat :=
  relations.items.length + (relations.items.map (·.rows.length)).foldl (· + ·) 0 + 1

/-! ## Parts -/

/-- Checks the names of columns to which values are given. -/
def checkColumns (goal : Goal) (columns : List String) : Except Trouble Unit :=
  columns.forM fun column =>
    if goal.takes column then .ok () else .error (.unknownColumn (goal.name ++ "." ++ column))

/-- Checks expressions on given levels. -/
def checkExpressions (ground : Ground) (levels : List Level) (expressions : List Expression) :
    Except Trouble Unit :=
  expressions.forM fun expression => do
    let _ ← ground.meaning levels expression

/-- Checks assignments on given levels. -/
def checkAssignments (ground : Ground) (levels : List Level) (goal : Goal)
    (assignments : List Assignment) : Except Trouble Unit := do
  checkColumns goal (assignments.flatMap (·.columns))
  let _ ← (Assignment.allMeanings ground assignments).run levels

/-- Checks what a statement returns of the rows that it changes. -/
def checkReturned (ground : Ground) (levels : List Level) (returned : List Wanted) :
    Except Trouble Unit :=
  returned.forM fun wanted => do
    let _ ← (Interpreter.full.returned ground 0 wanted).run levels

/-- Checks what is to be done with rows that repeat others, given a way to check the change of
columns. -/
def checkUpsert (relations : Relations) (ground : Ground) (levels : List Level) (goal : Goal)
    (checkUpdate : List String → Except Trouble Unit) (upsert : Upsert) :
    Except Trouble Unit := do
  match goal.definition? with
  | none => throw (.fixed goal.name)
  | some definition =>
    let keys := definition.keysWith (← relations.indexKeys definition.name)
    if upsert.target.isSome && !keys.any (upsert.concerns definition) then
      throw (.misplaced "ON CONFLICT")
    let own := goal.level :: levels
    if let some (terms, condition) := upsert.target then
      checkExpressions ground own (terms ++ condition.toList)
    if let some (assignments, condition) := upsert.update then
      let inner := goal.level :: Upsert.level goal goal.blank :: levels
      checkAssignments ground inner goal assignments
      checkExpressions ground inner condition.toList
      checkUpdate (assignments.flatMap (·.columns))

/-! ## Statements -/

/-- Checks that something can be changed at an event, with a way to check the triggers. -/
def checkChange (relations : Relations)
    (checkTrigger : Occasion → TriggerDefinition → Except Trouble Unit) (goal : Goal)
    (event : Event) : Except Trouble Unit := do
  let isView := goal.definition?.isNone
  let waiting := (← relations.triggers goal.name).filter fun trigger =>
    trigger.waitsFor event && (trigger.moment == .instead) == isView
  if isView && waiting.isEmpty then throw (.fixed goal.name)
  if !isView then relations.checkReferences goal.name event
  waiting.forM (checkTrigger (.blank goal event))

/-- Checks an insertion, with a way to check changes. -/
def checkInsertion (relations : Relations) (setting : Setting)
    (check : Goal → Event → Except Trouble Unit) (insertion : Insertion) :
    Except Trouble Unit := do
  let goal ← relations.goal insertion.subject
  let ground := setting.ground relations insertion.shared
  let columns := insertion.columns.getD goal.given
  checkColumns goal columns
  if let some rows := insertion.rows then
    if (← ground.plan setting.levels rows).columns.length ≠ columns.length then
      throw (.wrongWidth goal.name)
  check goal .insertion
  insertion.upserts.forM
    (relations.checkUpsert ground setting.levels goal fun columns => check goal (.update columns))
  checkReturned ground (goal.level :: setting.levels) insertion.returned

/-- The meaning of an update: where it takes rows from beside those of the table, which rows are
meant, and what is assigned to them. -/
def updateMeaning (ground : Ground) (updating : Updating) :
    Scoped (Option Supply × Option Meaning × List (String × Meaning)) := do
  let supply ← updating.source.mapM fun source =>
    Interpreter.full.source ground (Interpreter.depthOf source) source
  let condition ← Interpreter.full.expression? ground updating.condition
  return (supply, condition, ← Assignment.allMeanings ground updating.assignments)

/-- Checks an update, with a way to check changes. -/
def checkUpdating (relations : Relations) (setting : Setting)
    (check : Goal → Event → Except Trouble Unit) (updating : Updating) :
    Except Trouble Unit := do
  let goal ← relations.goal updating.subject
  let ground := setting.ground relations updating.shared
  checkColumns goal updating.columns
  let levels := goal.level :: setting.levels
  let _ ← (updateMeaning ground updating).run levels
  check goal (.update updating.columns)
  checkReturned ground levels updating.returned

/-- Checks a deletion, with a way to check changes. -/
def checkDeletion (relations : Relations) (setting : Setting)
    (check : Goal → Event → Except Trouble Unit) (deletion : Deletion) :
    Except Trouble Unit := do
  let goal ← relations.goal deletion.subject
  let ground := setting.ground relations deletion.shared
  let levels := goal.level :: setting.levels
  checkExpressions ground levels deletion.condition.toList
  check goal .deletion
  checkReturned ground levels deletion.returned

/-- Checks a statement, where triggers may set off each other up to a depth.  A trigger that is
being checked is not checked again. -/
def checkWithin (relations : Relations) : Nat → Setting → Statement → Except Trouble Unit
  | 0, _, _ => .ok ()
  | depth + 1, setting, statement => do
    let checkTrigger (occasion : Occasion) (trigger : TriggerDefinition) : Except Trouble Unit := do
      if trigger.name ∉ setting.running then
        let inner := setting.inside occasion trigger
        let ground := inner.ground relations []
        checkExpressions ground inner.levels trigger.condition.toList
        trigger.body.forM (relations.checkWithin depth inner)
    let check := relations.checkChange checkTrigger
    match statement with
    | .query query =>
      let _ ← (setting.ground relations []).plan setting.levels query
    | .insert insertion => relations.checkInsertion setting check insertion
    | .update updating => relations.checkUpdating setting check updating
    | .delete deletion => relations.checkDeletion setting check deletion

/-- Checks a statement. -/
def check (relations : Relations) (setting : Setting) (statement : Statement) :
    Except Trouble Unit :=
  relations.checkWithin relations.depth setting statement

/-- Whether rows can be inserted into a table with values for some columns. -/
def takesRows (relations : Relations) (table : String) (columns : List String) : Bool :=
  let rows := Query.ofValues (columns.map fun _ => .null)
  (relations.check {} (.insert { subject := { table }, columns, rows })).toOption.isSome

end SchemaPlan.Relational.Relations
