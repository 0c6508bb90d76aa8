import SchemaPlan.Relational.Rule

/-!
# Changes of rows

A row is inserted, updated or deleted with the triggers that run before and after it.  A trigger
does not set off itself.  What refers to a row follows it before the triggers after it.
-/

set_option autoImplicit false

namespace SchemaPlan.Relational.Change

variable {Result : Type}

/-! ## Numbers -/

/-- The table of the greatest numbers that have been used, by the names of tables. -/
def counters : String := "sqlite_sequence"

/-- The greatest number that has been used in a table whose numbers are never used again. -/
def lastCounted (relations : Relations) (table : String) : Int :=
  match relations.table counters with
  | .ok (_, rows) =>
    (rows.findSome? fun row =>
      match row.values with
      | [.text name, .integer number] => if name == table then some number else none
      | _ => none).getD 0
  | .error _ => 0

/-- Notes a number that is never to be used again. -/
def count (table : String) (number : Int) : Change Unit := do
  let relations ← get
  if let .ok (_, rows) := relations.table counters then
    let noted (row : Row) : Bool := row.values.head? == some (.text table)
    let greatest := max number (lastCounted relations table)
    let values : List Value := [.text table, .integer greatest]
    if rows.any noted then
      setRows counters (rows.map fun row => if noted row then { row with values } else row)
    else
      let next := ((rows.map (·.number)).max?.map (· + 1)).getD 1
      setRows counters (rows ++ [⟨next, values⟩])

/-- The number that a value gives to a row, if it is not missing. -/
def numberOf? (given : Value) : Except Trouble (Option Int) :=
  match Affinity.toWhole (Affinity.toNumber given) with
  | .integer number => .ok (some number)
  | .null => .ok none
  | _ => .error .mismatch

/-- The number of a new row: the given one, or the one after the last. -/
def numberFor (definition : TableDefinition) (given : Option Int) : Change Int := do
  let relations ← get
  let next := (((← rows definition.name).map (·.number)).max?.map (· + 1)).getD 1
  let next := if definition.isCounted then max next (lastCounted relations definition.name + 1)
    else next
  let number := given.getD next
  if !isWhole number then breakOff .abort "database or disk is full"
  if definition.isCounted then count definition.name number
  return number

/-- A row with a number, also in the column for it. -/
def withNumber (definition : TableDefinition) (number : Int) (row : Row) : Row :=
  match definition.numberPlace? with
  | some place => ⟨number, row.values.set place (.integer number)⟩
  | none => { row with number }

/-! ## New values -/

/-- The value that a row gives to a column, or the standard value. -/
def valueOf (ground : Ground) (definition : TableDefinition) (given : List (String × Value))
    (column : ColumnDefinition) : Except Trouble Value := do
  let value ← match given.find? fun (name, _) => Text.sameIgnoringCase name column.name with
    | some (_, value) => pure value
    | none => ground.value [] column.standard
  return Affinity.apply (definition.affinity column) value

/-- The value that is given to the number of a row, if any is. -/
def givenNumber? (definition : TableDefinition) (given : List (String × Value)) : Option Value :=
  (given.reverse.find? fun (name, _) => definition.isNumber name).map (·.2)

/-- A new row of a table with the given values and a number. -/
def newRow (ground : Ground) (definition : TableDefinition) (given : List (String × Value))
    (number : Int) : Except Trouble Row := do
  let values ← definition.columns.mapM (valueOf ground definition given)
  let row : Row := if definition.isUnnumbered then ⟨0, values⟩
    else withNumber definition number ⟨number, values⟩
  definition.calculated ground row fun _ => true

/-- A row with other values for some columns. -/
def updatedRow (ground : Ground) (definition : TableDefinition) (row : Row)
    (given : List (String × Value)) : Except Trouble Row := do
  let assign (values : List Value) (assignment : String × Value) : List Value :=
    match definition.place? assignment.1 with
    | some place =>
      let affinity := (definition.columns[place]?.map definition.affinity).getD .blob
      values.set place (Affinity.apply affinity assignment.2)
    | none => values
  let row := { row with values := given.foldl assign row.values }
  let row ← match givenNumber? definition given with
    | none => pure row
    | some value =>
      match ← numberOf? value with
      | some number => pure (withNumber definition number row)
      | none => throw .mismatch
  definition.calculated ground row fun _ => true

/-! ## Triggers -/

/-- A way to run statements. -/
abbrev Runner : Type := Setting → Statement → Change Unit

/-- Whether a trigger breaks off so that the row is left out. -/
def isLeftOut : Trouble → Bool
  | .broken .ignore _ => true
  | _ => false

/-- Runs the triggers of a row at a moment and returns whether the row remains. -/
def setOff (run : Runner) (setting : Setting) (moment : Moment) (occasion : Occasion) :
    Change Bool := do
  let triggers ← ask (·.triggers occasion.goal.name)
  let runTrigger (trigger : TriggerDefinition) : Change Unit := do
    if trigger.moment = moment ∧ trigger.waitsFor occasion.event ∧
        trigger.name ∉ setting.running then
      let inner := setting.inside occasion trigger
      let ground := inner.ground (← get) []
      if ← ofExcept (ground.allows inner.levels trigger.condition) then
        trigger.body.forM (run inner)
  let (result, relations) := ((triggers.forM runTrigger).run).run (← get)
  set relations
  match result with
  | .ok () => return true
  | .error trouble => if isLeftOut trouble then return false else throw trouble

/-- Runs the triggers before a change of a row, for which its new values must already have the
declared types, and returns whether the row remains. -/
def setOffBefore (run : Runner) (setting : Setting) (definition : TableDefinition)
    (occasion : Occasion) : Change Bool := do
  let waiting := (← ask (·.triggers occasion.goal.name)).filter fun trigger =>
    trigger.moment == .before && trigger.waitsFor occasion.event
  if !waiting.isEmpty then
    checkTypes definition ((occasion.after.map (·.values)).getD [])
  setOff run setting .before occasion

/-- Runs what follows a change of a row, and the triggers after it. -/
def setOffAfter (run : Runner) (setting : Setting) (occasion : Occasion) : Change Unit := do
  if let some before := occasion.before then
    let name := occasion.goal.name
    (← ask (·.following name before.values (occasion.after.map (·.values)))).forM
      (run { running := setting.running })
  let _ ← setOff run setting .after occasion

/-! ## Changes -/

/-- A row of a table as it is now, if it is still there. -/
def current? (definition : TableDefinition) (row : Row) (rows : List Row) : Option Row :=
  rows.find? fun other =>
    if definition.isUnnumbered then other == row else other.number == row.number

/-- Updates a row, if it is still there and something is to be assigned to it, and returns the
number of rows changed. -/
def updateRow (run : Runner) (setting : Setting) (resolution : Option Resolution) (goal : Goal)
    (definition : TableDefinition) (columns : List String)
    (given? : Row → Except Trouble (Option (List (String × Value)))) (row : Row) :
    Change Nat := do
  match current? definition row (← rows goal.name) with
  | none => return 0
  | some row =>
    match ← ofExcept (given? row) with
    | none => return 0
    | some given =>
      let drafted ← ofExcept (updatedRow (← get).ground definition row given)
      let occasion : Occasion := ⟨goal, .update columns, some row, some drafted⟩
      if !(← setOffBefore run setting definition occasion) then return 0
      let rows ← rows goal.name
      match current? definition row rows with
      | none => return 0
      | some current =>
        let updated ← ofExcept (updatedRow (← get).ground definition current given)
        match ← judge resolution [] definition updated (rows.erase current) with
        | (.admitted others, updated) =>
          add definition updated others
          setOffAfter run setting { occasion with after := some updated }
          return 1
        | _ => return 0

/-- Does what is provided for a row that repeats another one, and returns the number of rows
changed. -/
def merge (run : Runner) (setting : Setting) (ground : Ground) (goal : Goal)
    (definition : TableDefinition) (upsert : Upsert) (row other : Row) : Change Nat := do
  match upsert.update with
  | none => return 0
  | some (assignments, condition) =>
    let levels := goal.level :: Upsert.level goal row :: setting.levels
    let (condition, _) ← ofExcept ((Interpreter.full.expression? ground condition).run levels)
    let (assigned, _) ← ofExcept ((Assignment.allMeanings ground assignments).run levels)
    updateRow run setting none goal definition (assignments.flatMap (·.columns)) (fun row => do
      if ← Meaning.allows condition (goal.stand row) then
        return some (← Assignment.values assigned (goal.stand row))
      else return none) other

/-- Inserts a row and returns the number of rows changed. -/
def insertRow (run : Runner) (setting : Setting) (insertion : Insertion) (goal : Goal)
    (definition : TableDefinition) (given : List (String × Value)) : Change Nat := do
  let ground := setting.ground (← get) insertion.shared
  let number ← ofExcept (((givenNumber? definition given).map numberOf?).getD (.ok none))
  let drafted ← ofExcept (newRow ground definition given (number.getD (-1)))
  let occasion : Occasion := ⟨goal, .insertion, none, some drafted⟩
  if !(← setOffBefore run setting definition occasion) then return 0
  let number ← if definition.isUnnumbered then pure 0 else numberFor definition number
  let row ← ofExcept (newRow ground definition given number)
  let resolution := setting.resolution
  match ← judge resolution insertion.upserts definition row (← rows goal.name) with
  | (.admitted others, row) =>
    add definition row others
    setOffAfter run setting { occasion with after := some row }
    return 1
  | (.leftOut, _) => return 0
  | (.repeated upsert other, row) =>
    merge run setting (setting.ground (← get) insertion.shared) goal definition upsert row other

/-- Deletes a row, if it is still there, and returns the number of rows deleted. -/
def deleteRow (run : Runner) (setting : Setting) (goal : Goal) (definition : TableDefinition)
    (row : Row) : Change Nat := do
  match current? definition row (← rows goal.name) with
  | none => return 0
  | some row =>
    let occasion : Occasion := ⟨goal, .deletion, some row, none⟩
    if !(← setOff run setting .before occasion) then return 0
    let rows ← rows goal.name
    match current? definition row rows with
    | none => return 0
    | some current =>
      setRows goal.name (rows.erase current)
      setOffAfter run setting { occasion with before := some current }
      return 1

end SchemaPlan.Relational.Change
