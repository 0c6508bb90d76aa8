import SchemaPlan.Relational.Interpreting.Column
import SchemaPlan.Relational.Total

/-!
# The meaning of functions

A function of values takes the values of its arguments on one row.  A function of all rows belongs
to the innermost level on which its arguments depend.  Some functions only take the values that they
need.
-/

set_option autoImplicit false

namespace SchemaPlan.Relational.Interpreter

variable (interpreter : Interpreter)

/-! ## Functions of values -/

/-- The first value that is not missing, with its meaning. -/
def firstPresent (stand : Stand) : List Meaning → Except Trouble (Value × Option Meaning)
  | [] => .ok (.null, none)
  | meaning :: rest => do
    let value ← meaning.value stand
    if value == .null then firstPresent stand rest else return (value, some meaning)

/-- The meaning of something that is one of several meanings, as it turns out where it stands. -/
def oneOf (parts : List Meaning) (choose : Stand → Except Trouble (Option Meaning)) : Meaning :=
  { Meaning.ofParts parts fun stand => do
      match ← choose stand with
      | some meaning => meaning.value stand
      | none => return .null
    with
    isDocument := fun stand => do
      match ← choose stand with
      | some meaning => meaning.isDocument stand
      | none => return false
    kinds := .any }

/-- The meaning of a function that only takes the values that it needs, if there is one of this name
for as many arguments. -/
def sparing? (function : String) (arguments : List Meaning) : Option Meaning :=
  match function, arguments with
  | "COALESCE", _ :: _ :: _ | "IFNULL", [_, _] =>
    some { Meaning.ofParts arguments fun stand => do
        return (← firstPresent stand arguments).1
      with
      isDocument := fun stand => do
        match (← firstPresent stand arguments).2 with
        | some meaning => meaning.isDocument stand
        | none => return false
      kinds := .any }
  | "IIF", [condition, first, second] =>
    some (oneOf arguments fun stand => do
      return some (if ← condition.isTrue stand then first else second))
  | _, _ => none

/-- The values of some meanings, with whether they are documents. -/
def marked (arguments : List Meaning) (stand : Stand) : Except Trouble (List Marked) :=
  arguments.mapM fun meaning => do
    return ⟨← meaning.value stand, ← meaning.isDocument stand⟩

/-- The meaning of a function of documents, if there is one of this name for as many arguments. -/
def ofDocuments? (function : String) (arguments : List Meaning) : Option Meaning :=
  let invoke := Function.Documents.invoke? function
  if (invoke (arguments.map fun _ => .null)).isNone then none
  else
    let result (stand : Stand) : Except Trouble Marked := do
      (invoke (← marked arguments stand)).getD (.ok .null)
    some { Meaning.ofParts arguments fun stand => do return (← result stand).value with
      isDocument := fun stand => do return (← result stand).isDocument
      kinds := .any }

/-- The meaning of a function of values. -/
def ofValues (ground : Ground) (function : String) (arguments : List Meaning) :
    Except Trouble Meaning :=
  let function := Text.upper function
  match (sparing? function arguments).or (ofDocuments? function arguments) with
  | some meaning => .ok meaning
  | none =>
    let habit := ground.habit arguments
    let blanks := arguments.map fun _ => Value.null
    if (Builtin.invoke? habit function blanks).isNone then .error (.unknownFunction function)
    else
      let value (stand : Stand) : Except Trouble Value := do
        let values ← Meaning.values arguments stand
        (Builtin.invoke? habit function values).getD (.ok .null)
      .ok { Meaning.ofParts arguments value with kinds := .any }

/-! ## Functions of all rows -/

/-- The rows on which a condition holds. -/
def filtered (condition : Option Meaning) (stands : List Stand) : Except Trouble (List Stand) :=
  stands.filterM (Meaning.allows condition)

/-- Whether a function makes a document of all rows. -/
def gathers (function : String) (count : Nat) : Bool :=
  (Function.Documents.gather? function count []).isSome

/-- Whether a function makes the text of a document of all rows. -/
def gathersText (function : String) : Bool := function.startsWith "JSON_GROUP_"

/-- What a function takes from the rows of a group. -/
structure Taking where
  arguments : List Meaning
  filter : Option Meaning
  order : List (Meaning × Direction)
  isDistinct : Bool

namespace Taking

/-- The rows that a function takes, with the values of its arguments. -/
def rows (taking : Taking) (encoding : Encoding) (stands : List Stand) :
    Except Trouble (List (List Value × Stand)) := do
  let keyed ← (← filtered taking.filter stands).mapM fun stand => do
    let keys ← Meaning.values (taking.order.map (·.1)) stand
    return (keys, (← Meaning.values taking.arguments stand, stand))
  let sorted := (Direction.sort encoding (taking.order.map (·.2)) keyed).map (·.2)
  let directions := Direction.ofCollations
    (taking.arguments.map fun meaning => meaning.collation.getD .binary)
  return if taking.isDistinct then distinctBy encoding directions sorted else sorted

/-- The function of all rows that takes something. -/
def total (taking : Taking) (habit : Habit) (function : String) : Total where
  isOrderFree := ["COUNT", "MIN", "MAX"].contains function
  value := fun stands => do
    let rows ← taking.rows habit.encoding stands
    let count := taking.arguments.length
    if gathers function count then
      let rows ← rows.mapM fun (_, stand) => marked taking.arguments stand
      return (← (Function.Documents.gather? function count rows).getD (.ok .null)).value
    else
      (Totalling.invoke? habit function count (rows.map (·.1))).getD (.ok .null)
  best? :=
    if !Totalling.takesRow function then none
    else some fun stands => do
      let places ← stands.zipIdx.filterM fun (stand, _) => Meaning.allows taking.filter stand
      let values ← places.mapM fun (stand, _) => do
        return (← Meaning.values taking.arguments stand).headD .null
      return (Totalling.best? habit function values).bind fun best =>
        places[best]?.map (·.2)

end Taking

/-- What a call takes from the rows of a group. -/
def takingOf (ground : Ground) (call : Call) : Scoped Taking := do
  let arguments ← interpreter.expressions ground call.arguments
  let filter ← interpreter.expression? ground call.filter
  let order ← interpreter.orderTerms ground call.order
  return { arguments, filter, order, isDistinct := call.isDistinct }

/-- Adds a function of all rows to the innermost level and returns its meaning. -/
def addTotal (function : String) (arguments : List Meaning) (total : Total) :
    Scoped Meaning := do
  let place := (← Scoped.innermost).totals.size
  Scoped.modifyInnermost fun level => { level with totals := level.totals.push total }
  Scoped.look 0
  return { Meaning.ofParts arguments (fun stand => cellAt (stand.on 0).totals place) with
    isDocument := fun _ => .ok (gathersText function)
    kinds := .any
    levels := [0] }

/-- The innermost level on which meanings depend. -/
def innermostOf (meanings : List Meaning) : Nat := ((Meaning.levelsOf meanings).min?).getD 0

/-- The meaning of a call of a function of all rows. -/
def ofTotal (ground : Ground) (call : Call) : Scoped Meaning := do
  let function := Text.upper call.function
  if call.isDistinct && call.arguments.length ≠ 1 then throw (.unfit function)
  let trial ← Scoped.trial (Scoped.withAllowed false false (interpreter.expressions ground
    (call.arguments ++ call.filter.toList ++ call.order.map (·.expression))))
  let place := innermostOf trial
  let meaning ← Scoped.outward place do
    if !(← Scoped.innermost).allowsTotals then throw (.misplaced function)
    let taking ← Scoped.withAllowed false false (interpreter.takingOf ground call)
    let habit := ground.habit taking.arguments
    addTotal function taking.arguments (taking.total habit function)
  Scoped.look place
  return Scoped.inward place meaning

/-! ## Calls -/

/-- Whether a call is one of a function of all rows. -/
def isTotal (call : Call) : Bool :=
  let function := Text.upper call.function
  (Totalling.isKnown function call.arguments.length || gathers function call.arguments.length) &&
    (!call.isStar || function == "COUNT")

/-- The meaning of a call that looks at no window. -/
def call (ground : Ground) (call : Call) : Scoped Meaning := do
  if isTotal call then interpreter.ofTotal ground call
  else if call.isStar || call.filter.isSome || !call.order.isEmpty then
    throw (.unfit call.function)
  else
    let arguments ← interpreter.expressions ground call.arguments
    match ofValues ground call.function arguments with
    | .ok meaning => return meaning
    | .error trouble => throw trouble

end SchemaPlan.Relational.Interpreter
