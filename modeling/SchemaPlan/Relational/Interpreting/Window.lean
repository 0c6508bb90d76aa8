import SchemaPlan.Relational.Interpreting.Function
import SchemaPlan.Relational.Outlook

/-!
# The meaning of functions of windows

A window may be based on a named one, to which it adds an order or the part around each row.  The
rows are divided into partitions, and each of them is put in order on its own.
-/

set_option autoImplicit false

namespace SchemaPlan.Relational.Interpreter

variable (interpreter : Interpreter)

/-! ## Windows -/

/-- A window with what it takes over from the one that it is based on, at most as many times as
given. -/
def resolved (named : List (String × Window)) : Nat → Window → Except Trouble Window
  | 0, window => .error (.circular (window.base.getD ""))
  | fuel + 1, window =>
    match window.base with
    | none => .ok window
    | some name =>
      match named.find? (isSameName name ·.1) with
      | none => .error (.misplaced name)
      | some (_, base) => do
        let base ← resolved named fuel base
        let isBare := window.partition.isEmpty && window.order.isEmpty && window.frame.isNone
        if isBare then return base
        if !window.partition.isEmpty || base.frame.isSome ||
            (!window.order.isEmpty && !base.order.isEmpty) then throw (.misplaced name)
        return { window with
          base := none
          partition := base.partition
          order := if window.order.isEmpty then base.order else window.order }

/-- A window with the meanings of its parts. -/
structure View where
  partition : List Meaning
  order : List (Meaning × Direction)
  unit : FrameUnit := .range
  first : Stand → Except Trouble Windowing.Edge := fun _ => .ok .start
  last : Stand → Except Trouble Windowing.Edge := fun _ => .ok .current
  exclusion : Exclusion := .nothing

/-- A distance that an end of a window can have from a row. -/
def checkedDistance (unit : FrameUnit) (value : Value) : Except Trouble Value :=
  let number := Affinity.toWhole (Affinity.toNumber value)
  let isFit : Bool := match number with
    | .integer whole => decide (0 ≤ whole)
    | .real bits => unit == .range && decide (0 ≤ Value.toFloat bits)
    | _ => false
  if isFit then .ok number else .error (.unfit "OVER")

/-- The meaning of an end of a window. -/
def edge (ground : Ground) (unit : FrameUnit) (bound : Bound) :
    Scoped (Stand → Except Trouble Windowing.Edge) := do
  match bound with
  | .start => return fun _ => .ok .start
  | .current => return fun _ => .ok .current
  | .finish => return fun _ => .ok .finish
  | .preceding distance =>
    let meaning ← interpreter.expression ground distance
    return fun stand => do return .preceding (← checkedDistance unit (← meaning.value stand))
  | .following distance =>
    let meaning ← interpreter.expression ground distance
    return fun stand => do return .following (← checkedDistance unit (← meaning.value stand))

/-- Whether an end of a window is the beginning of the partition. -/
def isStart : Bound → Bool
  | .start => true
  | _ => false

/-- Whether an end of a window is at a distance. -/
def isDistant : Bound → Bool
  | .preceding _ | .following _ => true
  | .start | .current | .finish => false

/-- The meaning of a window, of which a function may not look at the part around each row. -/
def view (ground : Ground) (window : Window) (looksAround : Bool) : Scoped View := do
  let partition ← interpreter.expressions ground window.partition
  let order ← interpreter.orderTerms ground window.order
  match window.frame with
  | none => return { partition, order }
  | some frame =>
    let isDistant := isDistant frame.first || isDistant frame.last
    if frame.unit == .range && isDistant && order.length ≠ 1 then throw (.unfit "RANGE")
    if !looksAround then return { partition, order }
    return {
      partition, order
      unit := frame.unit
      first := ← interpreter.edge ground frame.unit frame.first
      last := ← interpreter.edge ground frame.unit frame.last
      exclusion := frame.exclusion }

namespace View

/-- The directions of the keys of partitions. -/
def partitionDirections (view : View) : List Direction :=
  Direction.ofCollations (view.partition.map fun meaning => meaning.collation.getD .binary)

/-- The directions of all keys of a window. -/
def directions (view : View) : List Direction :=
  view.partitionDirections ++ view.order.map (·.2)

/-- Some rows with their places, in the order of a window, with the keys of their partitions. -/
def arranged (view : View) (encoding : Encoding) (stands : List Stand) :
    Except Trouble (List (List Value × (List Value × Stand × Nat))) := do
  let keyed ← stands.zipIdx.mapM fun (stand, place) => do
    let partition ← Meaning.values view.partition stand
    let order ← Meaning.values (view.order.map (·.1)) stand
    return (partition ++ order, (partition, (order, stand, place)))
  return (Direction.sort encoding view.directions keyed).map (·.2)

/-- The values of a function for the rows of a partition, with the places of the rows. -/
def ofPartition (view : View) (encoding : Encoding)
    (value : Windowing.Partition → Windowing.Extent → List Stand → Nat → Except Trouble Value)
    (rows : List (List Value × Stand × Nat)) : Except Trouble (List (Value × Nat)) := do
  let partition := Windowing.Partition.ofKeys encoding (view.order.map (·.2)) (rows.map (·.1))
  let stands := rows.map (·.2.1)
  let origin := stands.headD []
  let extent : Windowing.Extent :=
    { unit := view.unit
      first := ← view.first origin
      last := ← view.last origin
      exclusion := view.exclusion }
  rows.zipIdx.mapM fun ((_, _, place), index) => do
    return (← value partition extent stands index, place)

/-- The function of a window with a way to find its value for a row of a partition. -/
def outlook (view : View) (encoding : Encoding)
    (value : Windowing.Partition → Windowing.Extent → List Stand → Nat → Except Trouble Value) :
    Outlook where
  values := fun stands => do
    let groups := Direction.groups encoding view.partitionDirections
      (← view.arranged encoding stands)
    let found ← groups.mapM fun (_, rows) => view.ofPartition encoding value rows
    return (found.flatten.mergeSort fun first second => first.2 ≤ second.2).map (·.1)
  arrange := fun stands => do
    return (← view.arranged encoding stands).map fun (_, (_, _, place)) => place
  descents := view.directions.map (·.isDescending)

end View

/-! ## Functions -/

/-- Adds a function of a window to the innermost level and returns its meaning. -/
def addOutlook (function : String) (arguments : List Meaning) (outlook : Outlook) :
    Scoped Meaning := do
  let place := (← Scoped.innermost).outlooks.size
  Scoped.modifyInnermost fun level => { level with outlooks := level.outlooks.push outlook }
  Scoped.look 0
  return { Meaning.ofParts arguments (fun stand => cellAt (stand.on 0).windows place) with
    isDocument := fun _ => .ok (gathersText function)
    kinds := .any
    levels := [0] }

/-- Whether the first row that a function sees is not the first one of the partition. -/
def isMoving (window : Window) : Bool :=
  match window.frame with
  | some frame => !isStart frame.first && frame.exclusion == .nothing
  | none => false

/-- The value of a function of all rows of a window, where a text without characters is missing
unless rows are left out. -/
def seenValue (extent : Windowing.Extent) (function : String) (value : Value) : Value :=
  let isJoin := function == "GROUP_CONCAT" || function == "STRING_AGG"
  if isJoin && extent.exclusion == .nothing && value.chars.isEmpty then .null else value

/-- The meaning of a call that looks at a window.  The least and the greatest value are those of all
rows if the rows seen move along. -/
def overWindow (ground : Ground) (call : Call) (window : Window) : Scoped Meaning := do
  let function := Text.upper call.function
  let level ← Scoped.innermost
  if !level.allowsOutlooks || call.isDistinct then throw (.misplaced function)
  let window ← resolved level.named (level.named.length + 1) window
  let isPlaced := Windowing.isKnown function call.arguments.length
  let call := if isMoving window && Totalling.takesRow function then { call with filter := none }
    else call
  if !isPlaced && !isTotal call then throw (.unknownFunction function)
  if isPlaced && (call.filter.isSome || call.isStar) then throw (.unfit function)
  let (view, taking) ← Scoped.withAllowed level.allowsTotals false do
    return (← interpreter.view ground window (Windowing.looksAround function),
      ← interpreter.takingOf ground call)
  let habit := ground.habit taking.arguments
  let value (partition : Windowing.Partition) (extent : Windowing.Extent) (stands : List Stand)
      (place : Nat) : Except Trouble Value := do
    if isPlaced then
      let rows ← stands.mapM fun stand => Meaning.values taking.arguments stand
      Windowing.value partition extent function rows.toArray place
    else
      let stands := stands.toArray
      let seen := (partition.window extent place).filterMap (stands[·]?)
      return seenValue extent function (← (taking.total habit function).value seen)
  addOutlook function taking.arguments (view.outlook ground.encoding value)

end SchemaPlan.Relational.Interpreter
