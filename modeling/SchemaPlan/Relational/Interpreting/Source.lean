import SchemaPlan.Relational.Generator
import SchemaPlan.Relational.Interpreting.Column

/-!
# The meaning of sources

A source gives rows, of which those of joined sources stand one after the other.  A function that
gives rows may take values of the sources before it; a query may not.
-/

set_option autoImplicit false

namespace SchemaPlan.Relational

/-- The rows of a source. -/
structure Supply where
  width : Nat
  /-- The rows, where the row of the innermost level holds the values of the sources before. -/
  rows : Stand → Except Trouble (List (Array Cell))
  /-- The values where there is no row, unless all are missing. -/
  blank? : Option (Stand → Array Cell) := none
  /-- The rows where their order need not be kept, unless they are the same. -/
  unsorted? : Option (Stand → Except Trouble (List (Array Cell))) := none
  /-- Whether there are several sources. -/
  isJoined : Bool := false

namespace Supply

/-- The rows where their order need not be kept. -/
def unsorted (supply : Supply) (stand : Stand) : Except Trouble (List (Array Cell)) :=
  (supply.unsorted?.getD supply.rows) stand

/-- A row of missing values. -/
def blank (supply : Supply) : Array Cell := Array.replicate supply.width (.ok .null)

/-- The values where there is no row. -/
def blankOn (supply : Supply) (stand : Stand) : Array Cell :=
  match supply.blank? with
  | some values => values stand
  | none => supply.blank

/-- A row with further values on the innermost level. -/
def extended (stand : Stand) (cells : Array Cell) : Stand :=
  match stand with
  | [] => [{ row := cells }]
  | standing :: rest => { standing with row := standing.row ++ cells } :: rest

/-- Some rows of a source that fit a row, each joined to it, with their places. -/
def partners (test : Stand → Except Trouble Bool) (stand : Stand) (left : Array Cell)
    (rights : List (Array Cell)) : Except Trouble (List (Array Cell × Nat)) := do
  let found ← rights.zipIdx.filterM fun (right, _) => test (extended stand (left ++ right))
  return found.map fun (right, place) => (left ++ right, place)

/-- The rows of two sources that are joined where a test holds.  The rows of the second one may
depend on one of the first. -/
def joinedRows (kind : JoinKind) (test : Stand → Except Trouble Bool) (first second : Supply)
    (lefts rights : Stand → Except Trouble (List (Array Cell))) (stand : Stand) :
    Except Trouble (List (Array Cell)) := do
  let found ← (← lefts stand).mapM fun left => do
    let partners ← partners test stand left (← rights (extended stand left))
    if partners.isEmpty && kind.keepsLeft then return ([left ++ second.blank], [])
    else return (partners.map (·.1), partners.map (·.2))
  let rows := found.flatMap (·.1)
  if !kind.keepsRight then return rows
  let taken := found.flatMap (·.2)
  let lonely := (← rights (extended stand first.blank)).zipIdx.filter
    fun (_, place) => !taken.contains place
  return rows ++ lonely.map fun (right, _) => first.blank ++ right

/-- Two sources that are joined where a test holds. -/
def joined (kind : JoinKind) (test : Stand → Except Trouble Bool) (first second : Supply) :
    Supply where
  width := first.width + second.width
  rows := joinedRows kind test first second first.rows second.rows
  blank? := some fun stand =>
    (if kind.keepsRight then first.blank else first.blankOn stand) ++
      (if kind.keepsLeft || kind.keepsRight then second.blank else second.blankOn stand)
  unsorted? := some (joinedRows kind test first second first.unsorted second.unsorted)
  isJoined := true

end Supply

namespace Interpreter

variable (interpreter : Interpreter)

/-! ## Single sources -/

/-- Adds a source to the innermost level. -/
def addSeat (seat : Seat) : Scoped Unit :=
  Scoped.modifyInnermost fun level =>
    let start := (level.seats.getLast?.map Seat.stop).getD 0
    { level with seats := level.seats ++ [{ seat with start }] }

/-- A source with the answer of a plan that stands further out. -/
def ofPlan (database : Option String) (name : String) (plan : Plan) : Scoped Supply := do
  let heads := plan.columns.map Column.head
  addSeat { database, name, heads }
  return {
    width := heads.length
    rows := fun stand => plan.rows (stand.drop 1)
    blank? := plan.blank?.map fun values stand => values (stand.drop 1)
    unsorted? := plan.unsorted?.map fun rows stand => rows (stand.drop 1) }

/-- The plan of a view. -/
def viewPlan (ground : Ground) (name : String) (columns : Option (List String)) (query : Query) :
    Except Trouble Plan := do
  let name := Text.upper name
  if ground.busy.contains name then throw (.circular name)
  let ground := { ground with shared := [], busy := name :: ground.busy, parameters := [] }
  let (plan, _) ← (interpreter.query ground query).run []
  if columns.any fun names => names.length ≠ plan.columns.length then throw (.wrongWidth name)
  return { plan with
    columns := Plan.distinctNames (Plan.renamed columns plan.columns), levels := [] }.settled

/-- The source of the rows of a function. -/
def functionSource (ground : Ground) (name : String) (arguments : List Expression)
    (byname : Option String) : Scoped Supply := do
  let arguments ← interpreter.expressions ground arguments
  match Generator.ofName? ground.relations name arguments.length with
  | none => throw (.unknownTable name)
  | some generator =>
    addSeat { name := byname.getD name, heads := generator.heads, isNumbered := true }
    return {
      width := generator.heads.length + 1
      rows := fun stand => do generator.rows (← Meaning.values arguments stand) }

/-- The source of a table or a view of the database. -/
def stored (ground : Ground) (name : String) (byname : Option String) : Scoped Supply := do
  let relations := ground.relations
  let known := byname.getD name
  if Relations.isList name then
    let seat := Relations.listSeat known
    addSeat seat
    let rows := relations.listCells
    return { width := seat.width, rows := fun _ => .ok rows }
  match ← relations.view? name with
  | some (columns, query) =>
    ofPlan (some "main") known (← interpreter.viewPlan ground name columns query)
  | none =>
    if (relations.item? .table name).isNone && (Generator.ofName? relations name 0).isSome then
      return ← interpreter.functionSource ground name [] byname
    let (definition, rows) ← relations.table name
    let seat := definition.seat known
    addSeat seat
    let rows := rows.map definition.cells
    return { width := seat.width, rows := fun _ => .ok rows }

/-- The place of the queries among which a name is known, and the query. -/
def findShared? (name : String) : List (List Shared) → Option (List (List Shared) × Shared)
  | [] => none
  | queries :: rest =>
    match queries.find? (isSameName name ·.name) with
    | some shared => some (queries :: rest, shared)
    | none => findShared? name rest

/-- The name by which a shared query is told from others of its name. -/
def sharedKey (frames : List (List Shared)) (name : String) : String :=
  Text.upper name ++ "\x00" ++ toString frames.length

/-- The source of the current row of a query that takes rows from itself. -/
def recurring (key name : String) : Scoped Supply := do
  let levels ← get
  let found := levels.zipIdx.findSome? fun (level, place) =>
    match level.origin with
    | some (other, heads) => if other == key then some (place, heads) else none
    | none => none
  match found with
  | none => throw (.circular name)
  | some (place, heads) =>
    Scoped.look place
    addSeat { name, heads }
    return { width := heads.length, rows := fun stand => .ok [(stand.on place).row] }

/-- The source of a table, a view or a shared query. -/
def tableSource (ground : Ground) (database : Option String) (name : String)
    (byname : Option String) : Scoped Supply := do
  match database with
  | some database =>
    if isSameName database "main" then interpreter.stored ground name byname
    else throw (.unknownTable name)
  | none =>
    match findShared? name ground.shared with
    | none => interpreter.stored ground name byname
    | some (frames, shared) =>
      let key := sharedKey frames name
      if ground.busy.contains key then recurring key (byname.getD name)
      else
        let inner := { ground with shared := frames, busy := key :: ground.busy }
        let (plan, levels) ← Scoped.outside
          (Scoped.tracked (interpreter.shared inner key shared))
        ofPlan none (byname.getD name) { plan with levels }.settled

/-- The source of a query. -/
def querySource (ground : Ground) (query : Query) (byname : Option String) : Scoped Supply := do
  let plan ← Scoped.outside (interpreter.nested ground query)
  ofPlan none (byname.getD "") { plan with columns := Plan.distinctNames plan.columns }

/-! ## Joins -/

/-- The meaning of a column with a name among some sources, which must have one. -/
def joinedColumn (name : String) (seats : List Seat) : Except Trouble Meaning := do
  let columns ← Finding.columns [] name seats
  if columns.isEmpty then throw (.unknownColumn name)
  return Scoped.ofColumns 0 columns

/-- The names of the columns by which sources are joined. -/
def joinNames (kind : JoinKind) (link : Link) (lefts rights : List Seat) : List String :=
  match link with
  | .columns names => names
  | .always | .condition _ =>
    if !kind.isNatural then []
    else
      let visible := (rights.flatMap (·.heads)).filter (!·.isHidden)
      (visible.map (·.name)).filter fun name => lefts.any fun seat => (seat.find? name).isSome

/-- Notes by which columns sources are joined to those before them. -/
def noteJoin (kind : JoinKind) (names : List String) (before : Nat) : Scoped Unit :=
  Scoped.modifyInnermost fun level =>
    { level with seats := level.seats.mapIdx fun place seat =>
        if place < before then seat
        else { seat with
          joined := seat.joined ++ names.filter fun name => (seat.find? name).isSome
          join := if place = before then kind else seat.join } }

/-- A source that is joined to those before it. -/
structure Joint where
  kind : JoinKind
  supply : Supply
  /-- That the columns are equal by which the sources are joined. -/
  equalities : List Meaning
  condition : Option Expression
  /-- The number of sources up to the last one of this source. -/
  bound : Nat

namespace Joint

/-- Whether a join keeps rows without a partner. -/
def isOuter (joint : Joint) : Bool := joint.kind.keepsLeft || joint.kind.keepsRight

end Joint

/-- A source that is joined to others, which begin at a place and end where it begins. -/
def jointOf (ground : Ground) (kind : JoinKind) (link : Link) (start before : Nat)
    (supply : Supply) : Scoped Joint := do
  let seats := (← Scoped.innermost).seats
  let lefts := (seats.take before).drop start
  let rights := seats.drop before
  let names := joinNames kind link lefts rights
  let condition ← match kind.isNatural, link with
    | true, .condition _ | true, .columns _ => throw (.misplaced "NATURAL JOIN")
    | _, .condition condition => pure (some condition)
    | _, _ => pure none
  let pairs ← names.mapM fun name => do
    let first ← joinedColumn name lefts
    return (first, ← joinedColumn name rights)
  let equalities := pairs.map fun (first, second) =>
    Meaning.compare ground.encoding .equal first second
  noteJoin kind names before
  return { kind, supply, equalities, condition, bound := seats.length }

/-- The meaning of the condition of a join, which may look at all sources from a place on.  One that
looks at sources after the join only holds of the rows at the end. -/
def jointCondition (ground : Ground) (start : Nat) (isStrict : Bool) (joint : Joint)
    (condition : Expression) : Scoped (List Meaning × List Meaning) := do
  let seats := (← Scoped.innermost).seats
  let understand (seats : List Seat) : Scoped Meaning :=
    Scoped.withSeats seats
      (Scoped.withAllowed false false (interpreter.expression ground condition))
  let whole ← understand (seats.drop start)
  let early? ← try some <$> understand ((seats.take joint.bound).drop start) catch _ => pure none
  match early? with
  | some early => return ([early], [])
  | none => if isStrict || joint.isOuter then throw (.misplaced "ON") else return ([], [whole])

/-- Sources that are joined one after the other, of which the first one begins at a place. -/
def joinAll (ground : Ground) (start : Nat) (first : Supply) (joints : List Joint) :
    Scoped Supply := do
  let isStrict := joints.any (·.kind.keepsRight)
  let (supply, late) ← joints.foldlM (fun (left, late) joint => do
    let (conditions, later) ← match joint.condition with
      | some condition => interpreter.jointCondition ground start isStrict joint condition
      | none => pure ([], [])
    let test (stand : Stand) : Except Trouble Bool :=
      (joint.equalities ++ conditions).allM (·.isTrue stand)
    return (Supply.joined joint.kind test left joint.supply, late ++ later)) (first, [])
  if late.isEmpty then return supply
  let kept (rows : Stand → Except Trouble (List (Array Cell))) (stand : Stand) :
      Except Trouble (List (Array Cell)) := do
    (← rows stand).filterM fun cells => late.allM (·.isTrue (Supply.extended stand cells))
  return { supply with
    rows := kept supply.rows
    unsorted? := supply.unsorted?.map kept }

mutual

/-- The rows of a source, whose columns are added to the innermost level; sources may be nested up
to a depth. -/
def source (ground : Ground) : Nat → Source → Scoped Supply
  | 0, _ => throw (.unreadable "FROM")
  | _ + 1, .table database name byname => interpreter.tableSource ground database name byname
  | _ + 1, .function name arguments byname =>
    interpreter.functionSource ground name arguments byname
  | _ + 1, .query query byname => interpreter.querySource ground query byname
  | depth + 1, .join kind left right link => do
    let start := (← Scoped.innermost).seats.length
    let (first, joints) ← joined ground depth start (.join kind left right link)
    interpreter.joinAll ground start first joints

/-- The first of some sources that are joined one after the other, and the others. -/
def joined (ground : Ground) : Nat → Nat → Source → Scoped (Supply × List Joint)
  | 0, _, _ => throw (.unreadable "FROM")
  | depth + 1, start, .join kind left right link => do
    let (first, joints) ← joined ground depth start left
    let before := (← Scoped.innermost).seats.length
    let supply ← source ground depth right
    return (first, joints ++ [← jointOf ground kind link start before supply])
  | depth + 1, _, other => do return (← source ground depth other, [])

end

/-- How deep sources are nested. -/
def depthOf : Source → Nat
  | .join _ left right _ => max (depthOf left) (depthOf right) + 2
  | _ => 2

end Interpreter

end SchemaPlan.Relational
