import SchemaPlan.Relational.Interpreting.Source
import SchemaPlan.Relational.Interpreting.Window

/-!
# The meaning of selections

The rows of the sources that satisfy the condition are put together in groups if there are groups or
functions of all rows.  What is returned of a group beside such functions comes from one of its
rows.
-/

set_option autoImplicit false

namespace SchemaPlan.Relational

/-! ## Rows -/

/-- What a selection does with the rows of its sources. -/
structure Course where
  supply : Supply
  condition : Option Meaning
  groups : List Meaning
  having : Option Meaning
  totals : List Total
  outlooks : List Outlook
  /-- Whether rows are put together. -/
  isGrouped : Bool
  wanted : List Meaning
  /-- The keys by which the rows are put in order, given what is returned of a row. -/
  keys : List (Array Cell → Stand → Except Trouble Value)
  /-- For each key by which the rows are put in order first whether it is in descending order. -/
  descents : List Bool
  isDistinct : Bool

namespace Course

/-- Whether the functions of all rows do not need the rows in order. -/
def isOrderFree (course : Course) : Bool := course.totals.all (·.isOrderFree)

/-- Whether the order of the rows of a query from which rows are taken is not kept. -/
def isLoose (course : Course) : Bool :=
  (!course.keys.isEmpty || course.supply.isJoined) && course.outlooks.isEmpty && course.isOrderFree

/-- The directions of the keys of groups, which are those of the order if there are as many keys. -/
def groupDirections (course : Course) : List Direction :=
  let directions := Direction.ofCollations
    (course.groups.map fun meaning => meaning.collation.getD .binary)
  if directions.length = course.descents.length then
    (directions.zip course.descents).map fun (direction, isDescending) =>
      { direction with isDescending, nullsFirst := !isDescending }
  else directions

/-- The rows that satisfy the condition, which are not looked for if it holds on no row. -/
def stands (course : Course) (outer : Stand) : Except Trouble (List Stand) := do
  let isOpen ← match course.condition with
    | some condition =>
      if condition.levels.contains 0 then pure true
      else pure ((condition.isTrue ({} :: outer)).toOption.getD true)
    | none => pure true
  if !isOpen then return []
  let stand : Stand := {} :: outer
  let rows ← if course.isLoose then course.supply.unsorted stand else course.supply.rows stand
  (rows.map fun row => { row } :: outer).filterM (Meaning.allows course.condition)

/-- The row of a group from which values come: the one that the last function takes its value from
that takes it from one row, or else the first one. -/
def chosenRow (course : Course) (outer : Stand) (stands : List Stand) :
    Except Trouble (Array Cell) := do
  let places ← (course.totals.filterMap (·.best?)).mapM fun best => best stands
  let place := (places.getLast?.bind id).getD 0
  return (stands[place]?.map fun stand => (stand.on 0).row).getD
    (course.supply.blankOn ({} :: outer))

/-- The row of a group, of which all functions of all rows have their values. -/
def groupStand (course : Course) (outer : Stand) (stands : List Stand) : Except Trouble Stand := do
  let totals ← course.totals.mapM fun total => total.value stands
  return { row := ← course.chosenRow outer stands, totals := (totals.map .ok).toArray } :: outer

/-- The rows of the groups. -/
def grouped (course : Course) (encoding : Encoding) (outer : Stand) (stands : List Stand) :
    Except Trouble (List Stand) := do
  if !course.isGrouped then return stands
  if course.groups.isEmpty then return [← course.groupStand outer stands]
  let directions := course.groupDirections
  let keyed ← stands.mapM fun stand => do return (← Meaning.values course.groups stand, stand)
  let groups := Direction.groups encoding directions (Direction.sort encoding directions keyed)
  groups.mapM fun (_, stands) => course.groupStand outer stands

/-- The rows with the values of functions of windows.  The first window puts them in order last. -/
def overlooked (course : Course) (stands : List Stand) : Except Trouble (List Stand) := do
  let blanks : Array Cell := Array.replicate course.outlooks.length (.ok .null)
  let place (index : Nat) (stand : Stand) (value : Value) : Stand :=
    match stand with
    | [] => []
    | standing :: rest =>
      let windows := if standing.windows.isEmpty then blanks else standing.windows
      { standing with windows := windows.setIfInBounds index (.ok value) } :: rest
  course.outlooks.zipIdx.foldrM (fun (outlook, index) stands => do
    let values ← outlook.values stands
    let filled := (stands.zip values).map fun (stand, value) => place index stand value
    return (← outlook.arrange filled).filterMap (filled[·]?)) stands

/-- What is returned where there is no row, if the rows of the sources are only given other
columns. -/
def blank? (course : Course) : Option (Stand → Array Cell) :=
  if course.isGrouped || course.isDistinct || course.supply.width = 0 ||
    !course.outlooks.isEmpty || !course.keys.isEmpty then none
  else some fun outer =>
    let stand : Stand := { row := course.supply.blankOn ({} :: outer) } :: outer
    (course.wanted.map fun meaning => meaning.value stand).toArray

/-- What is returned, with the keys of each row. -/
def rows (course : Course) (encoding : Encoding) (collations : List Collation) (outer : Stand) :
    Except Trouble (List (List Value × Array Cell)) := do
  let groups ← course.grouped encoding outer (← course.stands outer)
  let kept ← groups.filterM (Meaning.allows course.having)
  let found ← (← course.overlooked kept).mapM fun stand => do
    let cells := (course.wanted.map fun meaning => meaning.value stand).toArray
    return (← course.keys.mapM fun key => key cells stand, cells)
  if !course.isDistinct then return found
  let valued ← found.mapM fun (keys, cells) => do return (← Plan.valuesOf cells, (keys, cells))
  return (distinctBy encoding (Direction.ofCollations collations) valued).map (·.2)

end Course

/-- A selection that has been understood. -/
structure Core where
  columns : List Column
  /-- The names that are given to what is returned. -/
  aliases : List (Option String)
  directions : List Direction
  /-- What is returned, with the keys of each row. -/
  rows : Stand → Except Trouble (List (List Value × Array Cell))
  /-- What is returned where there is no row, if the rows are those of the sources. -/
  blank? : Option (Stand → Array Cell)
  /-- Whether the order need not be kept by others. -/
  isLoose : Bool

namespace Interpreter

variable (interpreter : Interpreter)

/-! ## What is returned -/

/-- Something that is returned, with the name that is given to it. -/
structure Returned where
  column : Column
  byname : Option String
  meaning : Meaning
  expression : Option Expression := none
  /-- Whether a function of a window is part of it. -/
  isOverlooking : Bool := false

/-- The column for a meaning. -/
def columnOf (name : String) (meaning : Meaning) : Column where
  name
  affinity := meaning.affinity
  collation := meaning.collation
  kinds := meaning.kinds

/-- Everything in the columns of a source, of which those joined to others before are left out if
all sources are meant. -/
def allOf (seats : List Seat) (isAll : Bool) (seat : Seat) (place : Nat) :
    Except Trouble (List Returned) :=
  let visible := seat.heads.zipIdx.filter fun (head, _) =>
    !head.isHidden && !(isAll && 0 < place && seat.joins head.name)
  visible.mapM fun (head, index) => do
    let isShared := isAll && seats.any (·.join.keepsRight) &&
      (seats.drop (place + 1)).any (·.joins head.name)
    let meaning ← if isShared then joinedColumn head.name seats
      else pure (Scoped.ofColumn 0 (seat.start + index) head)
    return { column := columnOf head.name meaning, byname := none, meaning }

/-- The name of the column for an expression without a name. -/
def plainName (expression : Expression) (written : String) (place : Nat) : String :=
  match expression.uncollated with
  | .column _ name _ => name
  | _ => if written.isEmpty then "column" ++ toString (place + 1) else written

/-- What is returned for something that is wanted. -/
def returned (ground : Ground) (place : Nat) : Wanted → Scoped (List Returned)
  | .all none => do
    let seats := (← Scoped.innermost).seats
    if seats.isEmpty then throw (.misplaced "*")
    return (← seats.zipIdx.mapM fun (seat, index) => allOf seats true seat index).flatten
  | .all (some table) => do
    let seats := (← Scoped.innermost).seats
    let meant := seats.zipIdx.filter fun (seat, _) => isSameName seat.name table
    if meant.isEmpty then throw (.unknownTable table)
    return (← meant.mapM fun (seat, index) => allOf seats false seat index).flatten
  | .value expression byname written => do
    let before := (← Scoped.innermost).outlooks.size
    let meaning ← interpreter.expression ground expression
    let name := byname.getD (plainName expression written place)
    let isOverlooking := decide (before < (← Scoped.innermost).outlooks.size)
    return [{ column := columnOf name meaning, byname, meaning, expression, isOverlooking }]

/-- The values that can be asked for by the names given to them. -/
def aliasesOf (wanted : List Wanted) : List (String × Expression) :=
  wanted.filterMap fun
    | .value expression (some name) _ => some (name, expression)
    | _ => none

/-! ## Keys -/

/-- The place of what is returned for a number, which counts from one. -/
def placeOf (count : Nat) (number : Int) : Except Trouble Nat :=
  if 1 ≤ number ∧ number ≤ count then .ok (number.toNat - 1) else .error (.misplaced "ORDER BY")

/-- The collation that is written after an expression. -/
def writtenCollation (expression : Expression) : Except Trouble (Option Collation) :=
  match expression with
  | .collate _ name =>
    match Collation.ofName? name with
    | some collation => .ok (some collation)
    | none => .error (.unknownCollation name)
  | _ => .ok none

/-- The meaning of a key of groups. -/
def groupKey (ground : Ground) (returned : List Returned) (key : Expression) : Scoped Meaning := do
  match key.uncollated.whole? with
  | none => interpreter.expression ground key
  | some number =>
    let place ← placeOf returned.length number
    let _ ← Scoped.trial
      (interpreter.expression? ground ((returned[place]?).bind (·.expression)))
    let meaning := (returned[place]?.map (·.meaning)).getD (.constant .null)
    return { meaning with collation := (← writtenCollation key).or meaning.collation }

/-- The place of what is returned that a key stands for, by a name given to it or by its number. -/
def returnedPlace? (returned : List Returned) (key : Expression) : Except Trouble (Option Nat) := do
  let named := match key.uncollated with
    | .column [] name _ =>
      returned.findIdx? fun item => item.byname.any (isSameName name)
    | _ => none
  match named, key.uncollated.whole? with
  | some place, _ => return some place
  | none, some number => return some (← placeOf returned.length number)
  | none, none => return none

/-- What is returned, where values of functions of windows by which the rows are put in order are
found before all others. -/
def foreseen (ground : Ground) (returned : List Returned) (order : List OrderTerm) :
    Scoped (List Returned) := do
  let places ← order.mapM fun term => returnedPlace? returned term.expression
  returned.zipIdx.mapM fun (item, place) => do
    match item.expression with
    | some expression =>
      if item.isOverlooking && places.contains (some place) then
        return { item with meaning := ← interpreter.expression ground expression }
      else return item
    | none => return item

/-- A key by which rows are put in order, with its direction. -/
def orderKey (ground : Ground) (returned : List Returned) (term : OrderTerm) :
    Scoped ((Array Cell → Stand → Except Trouble Value) × Direction) := do
  match ← returnedPlace? returned term.expression with
  | some place =>
    let own := (returned[place]?.bind (·.meaning.collation))
    let collation := (← writtenCollation term.expression).or own
    return (fun cells _ => cellAt cells place, term.direction collation)
  | none =>
    let meaning ← interpreter.expression ground term.expression
    return (fun _ stand => meaning.value stand, term.direction meaning.collation)

/-! ## Selections -/

/-- The rows of a selection without sources. -/
def noSource : Supply where
  width := 0
  rows := fun _ => .ok [#[]]

/-- The meaning of a selection on its own level. -/
def selectionInside (ground : Ground) (selection : Selection) (order : List OrderTerm) :
    Scoped (List Returned × List Direction × Course) := do
  let supply ← match selection.source with
    | some source => interpreter.source ground (depthOf source) source
    | none => pure noSource
  Scoped.modifyInnermost fun level => { level with named := selection.windows }
  let returned ← Scoped.withAllowed true true do
    let items ← selection.wanted.zipIdx.mapM fun (wanted, place) =>
      interpreter.returned ground place wanted
    return items.flatten
  Scoped.modifyInnermost fun level => { level with aliases := aliasesOf selection.wanted }
  let condition ← Scoped.withAllowed false false
    (interpreter.expression? ground selection.condition)
  let groups ← Scoped.withAllowed false false
    (selection.groups.mapM (interpreter.groupKey ground returned))
  let having ← Scoped.withAllowed true false (interpreter.expression? ground selection.having)
  let (returned, keys) ← Scoped.withAllowed true true do
    let returned ← interpreter.foreseen ground returned order
    return (returned, ← order.mapM (interpreter.orderKey ground returned))
  let level ← Scoped.innermost
  let isGrouped := !selection.groups.isEmpty || !level.totals.isEmpty
  if having.isSome && !isGrouped then throw (.misplaced "HAVING")
  return (returned, keys.map (·.2),
    { supply, condition, groups, having, isGrouped
      totals := level.totals.toList
      outlooks := level.outlooks.toList
      wanted := returned.map (·.meaning)
      keys := keys.map (·.1)
      descents := (level.outlooks.back?.map (·.descents)).getD (keys.map (·.2.isDescending))
      isDistinct := selection.isDistinct })

/-- The meaning of a selection with the keys by which its rows are put in order. -/
def selection (ground : Ground) (selection : Selection) (order : List OrderTerm) :
    Scoped Core := do
  let ((returned, directions, course), _) ← Scoped.within {}
    (interpreter.selectionInside ground selection order)
  let columns := returned.map (·.column)
  return {
    columns, directions
    aliases := returned.map (·.byname)
    rows := course.rows ground.encoding (Plan.collations columns)
    blank? := course.blank?
    isLoose := !course.keys.isEmpty && !course.isGrouped }

end Interpreter

end SchemaPlan.Relational
