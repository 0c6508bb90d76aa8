import SchemaPlan.Collection.Sorting
import SchemaPlan.Database.EdgeLog
import SchemaPlan.Plan.Basic

/-!
# Stored plans

A plan is stored as its two orders and its records.  Storing a plan replaces the plan stored
before, as a whole or not at all.
-/

set_option autoImplicit false

namespace SchemaPlan

namespace OrderTable

/-- The rows of an order. -/
def readRows (table : OrderTable) : Command (List OrderRow) :=
  Command.queryToChange (fun _ => [table.table.rows]) fun database => database.orderRows table

/-- Puts rows in the place of the rows of an order. -/
def setRows (table : OrderTable) (rows : List OrderRow) : Command Unit :=
  Command.change [table.table.rows] fun database => database.withOrderRows table rows

/-- Inserts an object with its place; no place may be taken twice. -/
def insertOne (table : OrderTable) (record : OrderRecord) : Command Unit := do
  let rows ← table.readRows
  if rows.any fun row => decide (row.order = record.order) then throw table.table.repeated
  table.setRows (rows ++ [OrderRow.ofRecord record])

/-- Puts rows for objects in the place of all rows of an order and returns their number. -/
def replaceRows (table : OrderTable) (records : List OrderRecord) : Command Nat := do
  let _ ← table.readRows
  table.setRows []
  records.forM (insertOne table)
  return records.length

/-- Puts objects in the place of all objects of an order and returns their number. -/
def replace (table : OrderTable) (records : List OrderRecord) : Command Nat :=
  Command.either (table.replaceRows records) (Related.replaceOrder table records)

/-- The objects of an order that a database holds, by their places, of one status if given. -/
def records (table : OrderTable) (status : Option String) (database : Database) :
    Except StorageError (List OrderRecord) := do
  let rows ← database.orderRows table
  let wanted := rows.filter fun row => status.all fun status => row.status == status
  (Sorting.sortOn (·.order) wanted).mapM (OrderRow.toRecord table)

/-- Reads the objects of an order by their places, of one status if given. -/
def load (table : OrderTable) (status : Option String) : Command (List OrderRecord) :=
  Command.either (Command.query (fun _ => [table.table.rows]) (table.records status))
    (Related.loadOrder table status)

end OrderTable

namespace PlanStore

/-- The greatest place in an order. -/
def maxOrder : Nat := 9223372036854775807

/-- The objects of a schedule with their places. -/
def records (objects : List ScheduledObject) : List OrderRecord :=
  objects.map fun object =>
    ⟨min object.order maxOrder, object.owner, object.key, object.status.name⟩

/-- Stores a plan. -/
def save (plan : MigrationPlan) : Command Unit :=
  Command.transaction do
    let _ ← OrderTable.install.replace (records plan.schedule.install)
    let _ ← OrderTable.rollback.replace (records plan.schedule.rollback)
    let _ ← EdgeLog.deleteStage .classified
    let _ ← EdgeLog.insert .classified plan.classifiedEdges

end PlanStore

end SchemaPlan
