import SchemaPlan.Database.Related
import SchemaPlan.Edge.Sink

/-!
# Stored records

The records of both stages share one table.  A row that repeats another one is not inserted.  A
row that would repeat another one once its missing owner is filled in is dropped instead.
-/

set_option autoImplicit false

namespace SchemaPlan

namespace EdgeRow

/-- Adds a row at the end, unless it repeats one. -/
def insertInto (rows : List EdgeRow) (row : EdgeRow) : List EdgeRow :=
  if rows.any row.repeats then rows else rows ++ [row]

/-- Whether a row belongs to a stage. -/
def isOf (stage : EdgeStage) (row : EdgeRow) : Bool := row.stage == stage.name

/-- Whether a row names a dependency of this name without an owner, whatever its stage. -/
def lacksOwner (name : String) (row : EdgeRow) : Bool :=
  decide (row.dependencyName = some name) && row.dependencyOwner.isNone

/-- Whether a row of a stage names a dependency of this name without an owner. -/
def needsOwner (stage : EdgeStage) (name : String) (row : EdgeRow) : Bool :=
  row.isOf stage && row.lacksOwner name

/-- Goes through the rows and fills in the owner where it is missing, unless the row would repeat
another one.  `done` holds the rows gone through. -/
def fillOwners (stage : EdgeStage) (name owner : String) (done : List EdgeRow) :
    List EdgeRow → List EdgeRow × Nat
  | [] => (done, 0)
  | row :: rest =>
    if row.needsOwner stage name then
      let filled := { row with dependencyOwner := some owner }
      if (done ++ rest).any filled.repeats then fillOwners stage name owner (done ++ [row]) rest
      else
        let (rows, count) := fillOwners stage name owner (done ++ [filled]) rest
        (rows, count + 1)
    else fillOwners stage name owner (done ++ [row]) rest

/-- The rows with the owner filled in, without those that still lack it, and the number of rows
filled in. -/
def backfill (stage : EdgeStage) (name owner : String) (rows : List EdgeRow) :
    List EdgeRow × Nat :=
  let (filled, count) := fillOwners stage name owner [] rows
  (filled.filter fun row => !row.needsOwner stage name, count)

end EdgeRow

namespace EdgeLog

/-! ## Parts -/

/-- The parts in which rows of the table are listed: always its rows and the index of records, and
the index of unowned records if a row lacks the owner of its dependency. -/
def partsOf (rows : List EdgeRow) : List Part :=
  if rows.isEmpty then []
  else
    [TableName.dependencyEdges.rows, Part.recordIndex] ++
      (if rows.any (·.dependencyOwner.isNone) then [Part.unownedIndex] else [])

/-- The rows of the table that belong to a stage. -/
def rowsOf (stage : EdgeStage) (database : Database) : List EdgeRow :=
  (database.edges.getD []).filter (EdgeRow.isOf stage)

/-- The parts from which the records of a stage are read. -/
def partsToLoad (stage : EdgeStage) (database : Database) : List Part :=
  Part.recordIndex ::
    (if (rowsOf stage database).isEmpty then [] else [TableName.dependencyEdges.rows])

/-- The parts in which the records without owner are looked for. -/
def partsToRepair (name : String) (database : Database) : List Part :=
  Part.unownedIndex ::
    (if (database.edges.getD []).any (EdgeRow.lacksOwner name) then
      [TableName.dependencyEdges.rows] else [])

/-! ## Questions -/

/-- The records of a stage that a database holds, in the order of insertion. -/
def records (stage : EdgeStage) (database : Database) : Except StorageError (List Edge) := do
  let rows ← database.edgeRows
  (rows.filter (EdgeRow.isOf stage)).mapM EdgeRow.toEdge

/-- The number of rows of a stage that a database holds, of one status if given. -/
def size (stage : EdgeStage) (status : Option EdgeStatus) (database : Database) :
    Except StorageError Nat := do
  let rows ← database.edgeRows
  return rows.countP fun row => row.isOf stage && status.all fun status => row.status == status.name

/-- Reads the records of a stage. -/
def load (stage : EdgeStage) : Command (List Edge) :=
  Command.either (Command.query (partsToLoad stage) (records stage)) (Related.loadEdges stage)

/-- Counts the rows of a stage, of one status if given. -/
def count (stage : EdgeStage) (status : Option EdgeStatus) : Command Nat :=
  Command.either (Command.query (fun _ => [Part.recordIndex]) (size stage status))
    (Related.countEdges stage status)

/-! ## Changes -/

/-- The rows of the table that is to be changed, for which parts of the database are read. -/
def readRows (parts : Database → List Part) : Command (List EdgeRow) :=
  Command.queryToChange parts Database.edgeRows

/-- Replaces the rows of the table, for which parts of the database are written. -/
def setRows (parts : List Part) (rows : List EdgeRow) : Command Unit :=
  Command.change parts fun database => { database with edges := some rows }

/-- Inserts a row and returns the number of rows added. -/
def insertRow (row : EdgeRow) : Command Nat := do
  let rows ← readRows fun _ => [TableName.dependencyEdges.rows, Part.recordIndex]
  let after := EdgeRow.insertInto rows row
  setRows (if after.length = rows.length then [] else partsOf [row]) after
  return after.length - rows.length

/-- Inserts a record and adds the number of rows added. -/
def insertOne (stage : EdgeStage) (added : Nat) (edge : Edge) : Command Nat := do
  return added +
    (← Command.either (insertRow (EdgeRow.ofEdge stage edge)) (Related.insertEdge stage edge))

/-- Inserts records and returns the number of rows added. -/
def insert (stage : EdgeStage) (edges : List Edge) : Command Nat := do
  Command.prepare .dependencyEdges
  edges.foldlM (insertOne stage) 0

/-- Fills in an owner in the rows of the table and returns the number of rows filled in. -/
def backfillRows (stage : EdgeStage) (name owner : String) : Command Nat := do
  let rows ← readRows (partsToRepair name)
  let (after, count) := EdgeRow.backfill stage name owner rows
  setRows (partsOf (rows.filter (EdgeRow.needsOwner stage name))) after
  return count

/-- Fills in an owner and returns the number of rows filled in. -/
def backfillCounted (stage : EdgeStage) (name owner : String) : Command Nat :=
  Command.either (backfillRows stage name owner) (Related.backfill stage name owner)

/-- Deletes the rows of a stage from the table and returns their number. -/
def deleteRows (stage : EdgeStage) : Command Nat := do
  let rows ← readRows fun _ => [Part.recordIndex]
  let kept := rows.filter fun row => !row.isOf stage
  setRows (partsOf (rows.filter (EdgeRow.isOf stage))) kept
  return rows.length - kept.length

/-- Deletes the rows of a stage and returns their number. -/
def deleteStage (stage : EdgeStage) : Command Nat :=
  Command.either (deleteRows stage) (Related.deleteStage stage)

/-- Puts records in the place of all records of a stage. -/
def replace (stage : EdgeStage) (edges : List Edge) : Command Nat :=
  Command.transaction do
    let _ ← deleteStage stage
    insert stage edges

/-- Adds records. -/
def append (stage : EdgeStage) (edges : List Edge) : Command Unit := do
  if edges.isEmpty then return
  let _ ← Command.transaction (insert stage edges)

/-- Fills in an owner. -/
def backfill (stage : EdgeStage) (name owner : String) : Command Unit := do
  let _ ← Command.transaction (backfillCounted stage name owner)

/-- The connection after a command, unless the command fails. -/
def afterwards (command : Command Unit) (connection : Connection) :
    Except StorageError Connection :=
  match command.runOn connection with
  | (.ok (), after) => .ok after
  | (.error failure, _) => .error failure

/-- The records of a stage as a sink. -/
def sink (stage : EdgeStage) : EdgeSink Connection where
  append connection edges := afterwards (append stage edges) connection
  backfill connection name owner := afterwards (backfill stage name owner) connection

end EdgeLog

end SchemaPlan
