import SchemaPlan.Relational.Linkage

/-!
# What statements change

A statement changes a table, or a view in the place of which triggers run.  A row that is changed
sets off triggers, which know it by the names `NEW` and `OLD`.
-/

set_option autoImplicit false

namespace SchemaPlan.Relational

/-! ## Tables and views -/

/-- A table or a view that a statement changes. -/
structure Goal where
  name : String
  /-- The name that its rows have in the statement. -/
  byname : String
  /-- What a table is; a view has rows of its own only as long as a statement runs. -/
  definition? : Option TableDefinition
  heads : List Head

namespace Goal

/-- Whether rows have numbers. -/
def isNumbered (goal : Goal) : Bool := goal.definition?.any (!·.isUnnumbered)

/-- The source of the rows, by a name. -/
def seat (goal : Goal) (name : String) : Seat where
  database := some "main"
  name
  heads := goal.heads
  isNumbered := goal.isNumbered

/-- The level on which expressions about a row stand. -/
def level (goal : Goal) : Level := { seats := [goal.seat goal.byname] }

/-- The cells of a row. -/
def cells (goal : Goal) (row : Row) : Array Cell :=
  let values := row.values.map .ok
  (if goal.isNumbered then values ++ [.ok (.integer row.number)] else values).toArray

/-- Where expressions about a row stand. -/
def stand (goal : Goal) (row : Row) : Stand := [{ row := goal.cells row }]

/-- A row of missing values. -/
def blank (goal : Goal) : Row := ⟨0, goal.heads.map fun _ => .null⟩

/-- The columns that values can be given to. -/
def given (goal : Goal) : List String :=
  match goal.definition? with
  | some definition => definition.given.map (·.name)
  | none => goal.heads.map (·.name)

/-- Whether a value can be given to a column. -/
def takes (goal : Goal) (column : String) : Bool :=
  goal.given.any (Text.sameIgnoringCase column) || goal.definition?.any (·.isNumber column)

end Goal

namespace Relations

/-- What a statement changes. -/
def goal (relations : Relations) (subject : Subject) : Except Trouble Goal := do
  let name := subject.table
  if !subject.database.all (Text.sameIgnoringCase "main") then throw (.unknownTable name)
  let byname := subject.byname.getD name
  if (← relations.view? name).isSome then
    return { name, byname, definition? := none, heads := ← relations.headsIn name }
  else
    let (definition, _) ← relations.table name
    return { name, byname, definition? := some definition, heads := definition.heads }

end Relations

/-! ## Occasions -/

/-- Whether a trigger waits for an event. -/
def TriggerDefinition.waitsFor (trigger : TriggerDefinition) (event : Event) : Bool :=
  match trigger.event, event with
  | .update wanted, .update columns =>
    wanted.isEmpty || wanted.any fun name => columns.any (Text.sameIgnoringCase name)
  | first, second => first == second

/-- A row that sets off triggers, as it is before and after. -/
structure Occasion where
  goal : Goal
  event : Event
  before : Option Row
  after : Option Row

namespace Occasion

/-- The level with the row, which has the names that triggers know it by. -/
def level (occasion : Occasion) : Level :=
  let goal := occasion.goal
  let seen := [("NEW", occasion.after), ("OLD", occasion.before)].filterMap fun (name, row) =>
    row.map (name, ·)
  let width := (goal.seat "").width
  { seats := seen.mapIdx fun place (name, _) =>
      { goal.seat name with database := none, start := place * width, isStrict := true }
    row? := some (seen.foldl (fun cells (_, row) => cells ++ goal.cells row) #[]) }

/-- The occasion of a row of missing values. -/
def blank (goal : Goal) (event : Event) : Occasion :=
  let row := some goal.blank
  ⟨goal, event, if event = .insertion then none else row,
    if event = .deletion then none else row⟩

end Occasion

/-! ## Settings -/

/-- Where statements run. -/
structure Setting where
  /-- The row that has set off a trigger. -/
  levels : List Level := []
  /-- The triggers that are running. -/
  running : List String := []
  /-- What becomes of changes that break a rule, if a trigger is running. -/
  resolution : Option Resolution := none
  parameters : List Value := []

namespace Setting

/-- What expressions stand on, with queries that are known by name. -/
def ground (setting : Setting) (relations : Relations) (shared : List Shared) : Ground where
  relations
  shared := if shared.isEmpty then [] else [shared]
  parameters := setting.parameters
  isTriggered := !setting.running.isEmpty

/-- The setting of a trigger that a row sets off. -/
def inside (setting : Setting) (occasion : Occasion) (trigger : TriggerDefinition) : Setting :=
  { setting with
    levels := [occasion.level]
    running := trigger.name :: setting.running
    parameters := [] }

end Setting

/-! ## Assignments -/

namespace Assignment

/-- The columns of an assignment with the meanings of their values. -/
def meanings (ground : Ground) (assignment : Assignment) : Scoped (List (String × Meaning)) := do
  match assignment.columns with
  | [column] => return [(column, ← Interpreter.full.expression ground assignment.value)]
  | columns =>
    let parts ← Interpreter.full.parts ground assignment.value
    if parts.length ≠ columns.length then throw (.wrongWidth "SET")
    return columns.zip parts

/-- The columns of assignments with the meanings of their values. -/
def allMeanings (ground : Ground) (assignments : List Assignment) :
    Scoped (List (String × Meaning)) := do
  return (← assignments.mapM (meanings ground)).flatten

/-- The columns of assignments with their values. -/
def values (meanings : List (String × Meaning)) (stand : Stand) :
    Except Trouble (List (String × Value)) :=
  meanings.mapM fun (column, meaning) => do return (column, ← meaning.value stand)

end Assignment

/-! ## Keys -/

/-- The keys of a table in the order in which they are looked at: first the number of a row, then
the others from the last one back, and those at the end by which rows are replaced. -/
def TableDefinition.keysWith (definition : TableDefinition) (unique : List Key) : List Key :=
  let hidden := numberNames.filter fun name =>
    !definition.isUnnumbered && !definition.hasNumber && (definition.place? name).isNone
  let numbers := (hidden.take 1).map fun name : String => ({ terms := [.ofColumn name] } : Key)
  let isNumber (key : Key) : Bool := definition.hasNumber && key.isPrimary
  let others := (definition.keys.filter fun key => !isNumber key) ++ unique
  let keys := numbers ++ definition.keys.filter isNumber ++ others.reverse
  keys.filter (·.onRepeated != .replace) ++ keys.filter (·.onRepeated == .replace)

namespace Upsert

/-- The level with the row that is not inserted. -/
def level (goal : Goal) (row : Row) : Level where
  seats := [{ goal.seat "excluded" with database := none, isStrict := true }]
  row? := some (goal.cells row)

/-- Whether a term of a target stands for a term of a key. -/
def matchesTerm (definition : TableDefinition) (wanted term : Expression) : Bool :=
  let isFitting := match wanted, term with
    | .collate _ first, .collate _ second => Text.sameIgnoringCase first second
    | _, _ => true
  isFitting && match wanted.uncollated, term.uncollated with
    | .column [] first _, .column [] second _ =>
      Text.sameIgnoringCase first second ||
        (definition.isNumber first && definition.isNumber second)
    | .column .., _ | _, .column .. => false
    | _, _ => true

/-- Whether what is to be done concerns the rows that repeat a key. -/
def concerns (upsert : Upsert) (definition : TableDefinition) (key : Key) : Bool :=
  match upsert.target with
  | none => true
  | some (terms, _) =>
    terms.length == key.terms.length &&
      key.terms.all fun term => terms.any (matchesTerm definition · term)

end Upsert

end SchemaPlan.Relational
