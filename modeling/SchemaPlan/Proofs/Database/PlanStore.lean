import SchemaPlan.Database.PlanStore
import SchemaPlan.Proofs.Database.EdgeLog
import SchemaPlan.Proofs.Database.Rollback

/-!
# Storing plans

A plan takes the place of the one stored before in four steps: each of the two orders is
emptied and filled again, the records of the classified stage are deleted, and the new
ones are inserted.  Every row is a step of its own.  A place that is taken twice makes
its row fail, when the tables before it have already been emptied; a record that is
there already is passed over in silence.

What the steps make of a database is written down as a function (`saved`).  A plan that
has been stored has left just that (`save_eq_ok`), a plan can be stored wherever nothing
is refused and no place is taken twice (`turns_save`), and a plan that cannot be stored
has left what there was (`save_all_or_nothing`).
-/

set_option autoImplicit false

namespace SchemaPlan

open Command (Turns runOn_bind_eq_ok)

/-! ## Orders -/

namespace Database

variable {database : Database} {table : OrderTable} {rows others : List OrderRow}

theorem orderRows_withOrderRows :
    (database.withOrderRows table rows).orderRows table = .ok rows := by
  cases table <;> rfl

theorem withOrderRows_withOrderRows :
    (database.withOrderRows table others).withOrderRows table rows =
      database.withOrderRows table rows := by
  cases table <;> rfl

/-- Rows that are there already may be put in their own place. -/
theorem withOrderRows_self (isTable : database.orderRows table = .ok rows) :
    database.withOrderRows table rows = database := by
  cases table with
  | install =>
      cases present : database.installOrder with
      | none => simp [orderRows, present] at isTable
      | some found =>
          obtain rfl : found = rows := by simpa [orderRows, present] using isTable
          rw [withOrderRows, ← present]
  | rollback =>
      cases present : database.rollbackOrder with
      | none => simp [orderRows, present] at isTable
      | some found =>
          obtain rfl : found = rows := by simpa [orderRows, present] using isTable
          rw [withOrderRows, ← present]

/-- The tables in which plans are stored are there, and nothing stands in for them. -/
structure TakesPlans (database : Database) : Prop where
  plain : database.relations = none
  records : database.hasTable .dependencyEdges = true
  orders : ∀ table : OrderTable, database.hasTable table.table = true

namespace TakesPlans

theorem exists_orderRows (takes : database.TakesPlans) (table : OrderTable) :
    ∃ rows, database.orderRows table = .ok rows := by
  have present := takes.orders table
  rw [hasTable.eq_def, takes.plain] at present
  cases table with
  | install =>
      obtain ⟨rows, isTable⟩ := Option.isSome_iff_exists.mp present
      exact ⟨rows, by rw [orderRows, isTable]⟩
  | rollback =>
      obtain ⟨rows, isTable⟩ := Option.isSome_iff_exists.mp present
      exact ⟨rows, by rw [orderRows, isTable]⟩

theorem exists_edges (takes : database.TakesPlans) : ∃ rows, database.edges = some rows := by
  have present := takes.records
  rw [hasTable.eq_def, takes.plain] at present
  exact Option.isSome_iff_exists.mp present

end TakesPlans

end Database

namespace OrderTable

variable {table : OrderTable} {connection later : Connection} {before : Database}
  {rows : List OrderRow} {record : OrderRecord} {records : List OrderRecord} {count : Nat}

/-- Whether a place is taken. -/
theorem any_order_iff : (rows.any fun row => decide (row.order = record.order)) = true ↔
    record.order ∈ rows.map (·.order) := by
  simp

/-- **An object that has been inserted** has taken a free place. -/
theorem insertOne_eq_ok (isTable : connection.database.orderRows table = .ok rows)
    (done : (table.insertOne record).runOn connection = (.ok (), later)) :
    record.order ∉ rows.map (·.order) ∧ later.content =
      (connection.database.withOrderRows table (rows ++ [OrderRow.ofRecord record]),
        connection.footing) := by
  obtain ⟨found, between, read, rest⟩ := runOn_bind_eq_ok.mp done
  obtain ⟨_, isFound, same⟩ := Command.queryToChange_eq_ok read
  obtain rfl := Except.ok.inj (isTable.symm.trans isFound)
  obtain ⟨database, footing⟩ := Prod.mk.inj same
  by_cases taken : (rows.any fun row => decide (row.order = record.order)) = true
  · rw [if_pos taken] at rest
    cases rest
  · rw [if_neg taken] at rest
    have changed := Command.change_eq_ok rest
    rw [database, footing] at changed
    exact ⟨mt any_order_iff.mpr taken, changed⟩

/-- **Objects that have been inserted** one after the other have all taken free places. -/
theorem forM_insertOne_eq_ok (isTable : connection.database.orderRows table = .ok rows)
    (distinct : (rows.map (·.order)).Nodup)
    (done : (records.forM table.insertOne).runOn connection = (.ok (), later)) :
    ((rows ++ records.map OrderRow.ofRecord).map (·.order)).Nodup ∧ later.content =
      (connection.database.withOrderRows table (rows ++ records.map OrderRow.ofRecord),
        connection.footing) := by
  induction records generalizing rows connection with
  | nil =>
      cases done
      rw [List.map_nil, List.append_nil, Database.withOrderRows_self isTable]
      exact ⟨distinct, rfl⟩
  | cons record rest ih =>
      obtain ⟨_, between, inserted, others⟩ := runOn_bind_eq_ok.mp done
      obtain ⟨free, same⟩ := insertOne_eq_ok isTable inserted
      obtain ⟨database, footing⟩ := Prod.mk.inj same
      have distinctToo : ((rows ++ [OrderRow.ofRecord record]).map (·.order)).Nodup := by
        rw [List.map_append, List.map_singleton]
        exact List.nodup_append_comm.mp (List.nodup_cons.mpr ⟨free, distinct⟩)
      have isMiddle : between.database.orderRows table =
          .ok (rows ++ [OrderRow.ofRecord record]) := by
        rw [database, Database.orderRows_withOrderRows]
      obtain ⟨allDistinct, content⟩ := ih isMiddle distinctToo others
      rw [database, footing, Database.withOrderRows_withOrderRows] at content
      rw [List.map_cons, List.append_cons]
      exact ⟨allDistinct, content⟩

/-- **An order that has been replaced** holds the new objects only, each in a place of its
own. -/
theorem replace_eq_ok (plain : connection.database.relations = none)
    (done : (table.replace records).runOn connection = (.ok count, later)) :
    connection.footing.Reads [table.table.rows] ∧ (records.map (·.order)).Nodup ∧
      later.content = (connection.database.withOrderRows table (records.map OrderRow.ofRecord),
        connection.footing) := by
  rw [replace, Command.runOn_either plain] at done
  obtain ⟨_, read, wasRead, rest⟩ := runOn_bind_eq_ok.mp done
  obtain ⟨reads, _, same⟩ := Command.queryToChange_eq_ok wasRead
  obtain ⟨_, emptied, wasEmptied, rest⟩ := runOn_bind_eq_ok.mp rest
  obtain ⟨_, filled, wereFilled, rest⟩ := runOn_bind_eq_ok.mp rest
  cases rest
  obtain ⟨readDatabase, readFooting⟩ := Prod.mk.inj same
  obtain ⟨database, footing⟩ := Prod.mk.inj (Command.change_eq_ok wasEmptied)
  rw [readDatabase] at database
  rw [readFooting] at footing
  have isEmpty : emptied.database.orderRows table = .ok [] := by
    rw [database, Database.orderRows_withOrderRows]
  obtain ⟨distinct, content⟩ := forM_insertOne_eq_ok isEmpty List.nodup_nil wereFilled
  rw [database, footing, Database.withOrderRows_withOrderRows] at content
  rw [List.nil_append] at distinct content
  rw [List.map_map] at distinct
  exact ⟨reads, distinct, content⟩

theorem turns_readRows (isTable : before.orderRows table = .ok rows) :
    table.readRows.Turns before rows before :=
  Command.turns_queryToChange isTable

theorem turns_setRows (rows : List OrderRow) :
    (table.setRows rows).Turns before () (before.withOrderRows table rows) :=
  Command.turns_change _ _

theorem turns_insertOne (isTable : before.orderRows table = .ok rows)
    (free : record.order ∉ rows.map (·.order)) :
    (table.insertOne record).Turns before ()
      (before.withOrderRows table (rows ++ [OrderRow.ofRecord record])) := by
  refine (turns_readRows isTable).bind ?_
  rw [if_neg (mt any_order_iff.mp free)]
  exact turns_setRows _

theorem turns_forM_insertOne (isTable : before.orderRows table = .ok rows)
    (distinct : ((rows ++ records.map OrderRow.ofRecord).map (·.order)).Nodup) :
    (records.forM table.insertOne).Turns before ()
      (before.withOrderRows table (rows ++ records.map OrderRow.ofRecord)) := by
  induction records generalizing rows before with
  | nil =>
      rw [List.map_nil, List.append_nil, Database.withOrderRows_self isTable]
      exact Command.turns_pure ()
  | cons record rest ih =>
      have free : record.order ∉ rows.map (·.order) := by
        intro taken
        rw [List.map_append, List.map_cons, List.map_cons] at distinct
        exact (List.disjoint_of_nodup_append distinct) taken List.mem_cons_self
      rw [List.map_cons, List.append_cons] at distinct ⊢
      have others := @ih (before.withOrderRows table (rows ++ [OrderRow.ofRecord record])) _
        Database.orderRows_withOrderRows distinct
      rw [Database.withOrderRows_withOrderRows] at others
      exact (turns_insertOne isTable free).bind others

/-- **An order can be replaced** if no place is taken twice. -/
theorem turns_replace (plain : before.relations = none)
    (isTable : before.orderRows table = .ok rows) (distinct : (records.map (·.order)).Nodup) :
    (table.replace records).Turns before records.length
      (before.withOrderRows table (records.map OrderRow.ofRecord)) := by
  have allDistinct : (([] ++ records.map OrderRow.ofRecord).map OrderRow.order).Nodup := by
    rw [List.nil_append, List.map_map]
    exact distinct
  have filled := @turns_forM_insertOne _ (before.withOrderRows table []) _ _
    Database.orderRows_withOrderRows allDistinct
  rw [Database.withOrderRows_withOrderRows, List.nil_append] at filled
  refine Turns.either ((turns_readRows isTable).bind ((turns_setRows []).bind ?_)) plain
  exact filled.bind (Command.turns_pure records.length)

end OrderTable

/-! ## Records -/

namespace EdgeLog

variable {stage : EdgeStage} {connection later : Connection} {before : Database}
  {rows : List EdgeRow} {row : EdgeRow} {edges : List Edge} {count added : Nat}

/-- The rows of a table with records inserted for a stage. -/
def inserted (stage : EdgeStage) (edges : List Edge) (rows : List EdgeRow) : List EdgeRow :=
  (edges.map (EdgeRow.ofEdge stage)).foldl EdgeRow.insertInto rows

/-- The rows have been read and others put in their place. -/
theorem rewrite_eq_ok {parts : Database → List Part} {written : List EdgeRow → List Part}
    {update : List EdgeRow → List EdgeRow} {told : List EdgeRow → Nat}
    (done : (readRows parts >>= fun rows => setRows (written rows) (update rows) >>= fun _ =>
      pure (told rows)).runOn connection = (.ok count, later)) :
    connection.footing.Reads (parts connection.database) ∧
      ∃ rows, connection.database.edges = some rows ∧
        later.content = ({ connection.database with edges := some (update rows) },
          connection.footing) := by
  obtain ⟨rows, between, wasRead, rest⟩ := runOn_bind_eq_ok.mp done
  obtain ⟨reads, isFound, same⟩ := Command.queryToChange_eq_ok wasRead
  obtain ⟨database, footing⟩ := Prod.mk.inj same
  obtain ⟨_, changed, wasChanged, rest⟩ := runOn_bind_eq_ok.mp rest
  cases rest
  have content := Command.change_eq_ok wasChanged
  rw [database, footing] at content
  refine ⟨reads, rows, ?_, content⟩
  cases present : connection.database.edges with
  | none => simp [Database.edgeRows, present] at isFound
  | some found => simpa [Database.edgeRows, present] using isFound

/-- A row has been inserted, unless it repeats one. -/
theorem insertRow_eq_ok (isTable : connection.database.edges = some rows)
    (done : (insertRow row).runOn connection = (.ok count, later)) :
    connection.footing.Reads [TableName.dependencyEdges.rows, Part.recordIndex] ∧
      later.content = ({ connection.database with edges := some (EdgeRow.insertInto rows row) },
        connection.footing) := by
  obtain ⟨reads, found, isFound, content⟩ := rewrite_eq_ok done
  obtain rfl := Option.some.inj (isTable.symm.trans isFound)
  exact ⟨reads, content⟩

/-- **Records have been inserted** one after the other, those that repeat one left out. -/
theorem foldlM_insertOne_eq_ok (plain : connection.database.relations = none)
    (isTable : connection.database.edges = some rows)
    (done : (edges.foldlM (insertOne stage) added).runOn connection = (.ok count, later)) :
    (edges ≠ [] →
      connection.footing.Reads [TableName.dependencyEdges.rows, Part.recordIndex]) ∧
      later.content = ({ connection.database with edges := some (inserted stage edges rows) },
        connection.footing) := by
  induction edges generalizing rows connection added with
  | nil =>
      cases done
      refine ⟨fun nonempty => absurd rfl nonempty, ?_⟩
      rw [inserted, List.map_nil, List.foldl_nil, ← isTable]
      rfl
  | cons edge rest ih =>
      obtain ⟨_, between, one, others⟩ := runOn_bind_eq_ok.mp done
      obtain ⟨_, after, wasInserted, returned⟩ := runOn_bind_eq_ok.mp one
      cases returned
      rw [Command.runOn_either plain] at wasInserted
      obtain ⟨reads, same⟩ := insertRow_eq_ok isTable wasInserted
      obtain ⟨database, footing⟩ := Prod.mk.inj same
      have stillPlain : between.database.relations = none := by
        rw [database]
        exact plain
      have isMiddle : between.database.edges =
          some (EdgeRow.insertInto rows (EdgeRow.ofEdge stage edge)) := by
        rw [database]
      obtain ⟨_, content⟩ := ih stillPlain isMiddle others
      rw [database, footing] at content
      exact ⟨fun _ => reads, content⟩

theorem insert_eq_ok (plain : connection.database.relations = none)
    (isTable : connection.database.edges = some rows)
    (done : (insert stage edges).runOn connection = (.ok count, later)) :
    (edges ≠ [] →
      connection.footing.Reads [TableName.dependencyEdges.rows, Part.recordIndex]) ∧
      later.content = ({ connection.database with edges := some (inserted stage edges rows) },
        connection.footing) := by
  obtain ⟨_, between, prepared, rest⟩ := runOn_bind_eq_ok.mp done
  obtain ⟨database, footing⟩ := Prod.mk.inj ((Command.keeps_prepare _).view_eq prepared)
  rw [← database] at plain isTable ⊢
  rw [← footing]
  exact foldlM_insertOne_eq_ok plain isTable rest

/-- **The rows of a stage have been deleted** from a table that is there. -/
theorem deleteStage_eq_ok (plain : connection.database.relations = none)
    (done : (deleteStage stage).runOn connection = (.ok count, later)) :
    connection.footing.Reads [Part.recordIndex] ∧
      ∃ rows, connection.database.edges = some rows ∧
        later.content = ({ connection.database with
          edges := some (rows.filter fun row => !row.isOf stage) }, connection.footing) := by
  rw [deleteStage, Command.runOn_either plain] at done
  exact rewrite_eq_ok done

theorem turns_insertAll (plain : before.relations = none) (isTable : before.edges = some rows) :
    ∃ count, (insert stage edges).Turns before count
      { before with edges := some (inserted stage edges rows) } := by
  have takes : before.takesRows .dependencyEdges = true := by
    simp [Database.takesRows, Database.hasTable, plain, isTable]
  have steps : ∀ edge ∈ edges, ∀ rows database added,
      database = { before with edges := some rows } →
        ∃ count after, (insertOne stage added edge).Turns database count after ∧
          after = { before with
            edges := some (EdgeRow.insertInto rows (EdgeRow.ofEdge stage edge)) } := by
    rintro edge _ rows _ added rfl
    obtain ⟨count, turns⟩ := @turns_insertRow { before with edges := some rows } rows plain rfl
      stage edge added
    exact ⟨count, _, turns, rfl⟩
  have start : before = { before with edges := some rows } := by rw [← isTable]
  obtain ⟨count, _, turns, rfl⟩ := Command.turns_foldlM steps start 0
  rw [inserted, List.foldl_map]
  exact ⟨count, (Command.turns_prepare takes).bind turns⟩

end EdgeLog

/-! ## Statements on related tables -/

namespace Related

/-- A statement changes what the tables hold and not which parts can be read. -/
theorem keeps_run (table : String) (statement : Relational.Statement)
    (parameters : List Relational.Value) :
    (run table statement parameters).Keeps Connection.footing := by
  refine Command.keeps_get_bind fun connection => ?_
  refine Command.Keeps.bind Command.keeps_queryToChange.footing (fun _ => ?_) connection
  dsimp only
  split
  · exact (Command.keeps_change _ _).bind fun _ _ => rfl
  · exact fun _ => rfl

theorem isQuestion_ask {Item : Type} (table : String) (query : Relational.Query)
    (read : List Relational.Value → Except StorageError Item) : (ask table query read).IsQuestion :=
  Command.isQuestion_query

theorem keeps_insertOrder (table : OrderTable) (record : OrderRecord) :
    (insertOrder table record).Keeps Connection.footing :=
  (keeps_run _ _ _).bind fun _ => Command.keeps_pure ()

theorem keeps_replaceOrder (table : OrderTable) (records : List OrderRecord) :
    (replaceOrder table records).Keeps Connection.footing :=
  (keeps_run _ _ _).bind fun _ => (Command.keeps_prepare _).footing.bind fun _ =>
    (Command.keeps_forM (keeps_insertOrder table) records).bind fun _ => Command.keeps_pure _

end Related

namespace OrderTable

theorem keeps_insertOne (table : OrderTable) (record : OrderRecord) :
    (table.insertOne record).Keeps Connection.footing := by
  refine Command.Keeps.bind Command.keeps_queryToChange.footing fun rows => ?_
  split
  · exact fun _ => rfl
  · exact Command.keeps_change _ _

theorem keeps_replace (table : OrderTable) (records : List OrderRecord) :
    (table.replace records).Keeps Connection.footing := by
  refine Command.Keeps.either ?_ (Related.keeps_replaceOrder table records)
  refine Command.Keeps.bind Command.keeps_queryToChange.footing fun _ => ?_
  refine (Command.keeps_change _ _).bind fun _ => ?_
  exact (Command.keeps_forM table.keeps_insertOne records).bind fun _ => Command.keeps_pure _

/-- Reading an order is asking for it. -/
theorem isQuestion_load (table : OrderTable) (status : Option String) :
    (table.load status).IsQuestion := by
  refine Command.isQuestion_query.either ?_
  rw [Related.loadOrder]
  exact Related.isQuestion_ask _ _ _

end OrderTable

namespace EdgeLog

variable {stage : EdgeStage}

/-- Putting other rows in the place of those read leaves the footing. -/
theorem keeps_rewrite (parts : Database → List Part) (written : List EdgeRow → List Part)
    (update : List EdgeRow → List EdgeRow) (told : List EdgeRow → Nat) :
    (readRows parts >>= fun rows => setRows (written rows) (update rows) >>= fun _ =>
      pure (told rows)).Keeps Connection.footing := by
  refine Command.Keeps.bind Command.keeps_queryToChange.footing fun _ => ?_
  exact (Command.keeps_change _ _).bind fun _ => Command.keeps_pure _

theorem keeps_insertOne (added : Nat) (edge : Edge) :
    (insertOne stage added edge).Keeps Connection.footing :=
  ((keeps_rewrite _ _ _ _).either (Related.keeps_run _ _ _)).bind fun _ => Command.keeps_pure _

theorem keeps_insert (edges : List Edge) : (insert stage edges).Keeps Connection.footing :=
  (Command.keeps_prepare _).footing.bind fun _ => Command.keeps_foldlM keeps_insertOne edges 0

theorem keeps_deleteStage : (deleteStage stage).Keeps Connection.footing :=
  (keeps_rewrite _ _ _ _).either (Related.keeps_run _ _ _)

/-- Reading the records of a stage is asking for them. -/
theorem isQuestion_load (stage : EdgeStage) : (load stage).IsQuestion := by
  refine Command.isQuestion_query.either ?_
  rw [Related.loadEdges]
  exact Related.isQuestion_ask _ _ _

/-- **What is read of a stage is told by its rows**, where the parts are read as before. -/
theorem answer_load_congr {connection other : Connection} {rows others : List EdgeRow}
    (plain : connection.database.relations = none) (alsoPlain : other.database.relations = none)
    (isTable : connection.database.edges = some rows) (isOther : other.database.edges = some others)
    (footing : connection.footing = other.footing)
    (same : rowsOf stage connection.database = rowsOf stage other.database) :
    (load stage).answer connection = (load stage).answer other := by
  have parts : partsToLoad stage connection.database = partsToLoad stage other.database := by
    rw [partsToLoad, partsToLoad, same]
  have answers : records stage connection.database = records stage other.database := by
    rw [rowsOf, rowsOf, isTable, isOther] at same
    rw [records, records, Database.edgeRows, Database.edgeRows, isTable, isOther]
    exact congrArg (List.mapM EdgeRow.toEdge) same
  rw [load, Command.answer_either plain, Command.answer_either alsoPlain, Command.answer_query_eq,
    Command.answer_query_eq, parts, answers, footing]

end EdgeLog

/-! ## Plans -/

namespace PlanStore

variable {plan : MigrationPlan} {connection later : Connection} {before : Database}

/-- The objects of a schedule in one of its two orders. -/
def objects (schedule : Schedule) : OrderTable → List ScheduledObject
  | .install => schedule.install
  | .rollback => schedule.rollback

/-- The rows of a plan in the table of an order. -/
def orderRows (plan : MigrationPlan) (table : OrderTable) : List OrderRow :=
  (records (objects plan.schedule table)).map OrderRow.ofRecord

/-- No place in an order of a plan is taken twice. -/
def PlacesDistinct (plan : MigrationPlan) : Prop :=
  ∀ table, ((records (objects plan.schedule table)).map (·.order)).Nodup

/-- A database with the orders of a plan. -/
def ordered (plan : MigrationPlan) (before : Database) : Database :=
  (before.withOrderRows .install (orderRows plan .install)).withOrderRows .rollback
    (orderRows plan .rollback)

/-- **What storing a plan makes of a database.** -/
def saved (plan : MigrationPlan) (before : Database) : Database :=
  { ordered plan before with
    edges := some (EdgeLog.inserted .classified plan.classifiedEdges
      ((before.edges.getD []).filter fun row => !row.isOf .classified)) }

theorem orderRows_saved (table : OrderTable) :
    (saved plan before).orderRows table = .ok (orderRows plan table) := by
  cases table <;> rfl

/-- The rows of the closure are not touched. -/
theorem rowsOf_closure_saved :
    EdgeLog.rowsOf .closure (saved plan before) = EdgeLog.rowsOf .closure before := by
  have differs : EdgeStage.classified ≠ EdgeStage.closure := by decide
  rw [EdgeLog.rowsOf, EdgeLog.rowsOf, saved, Option.getD_some, EdgeLog.inserted,
    EdgeRow.filter_foldl_insertInto_other, EdgeRow.filter_delete_other differs]
  intro row member
  obtain ⟨edge, _, rfl⟩ := List.mem_map.mp member
  exact mt EdgeRow.isOf_ofEdge.mp differs

/-- Every classified row that is left is one of the plan. -/
theorem mem_rowsOf_classified_saved {row : EdgeRow}
    (member : row ∈ EdgeLog.rowsOf .classified (saved plan before)) :
    ∃ edge ∈ plan.classifiedEdges, EdgeRow.ofEdge .classified edge = row := by
  obtain ⟨inTable, isClassified⟩ := List.mem_filter.mp member
  rcases EdgeRow.mem_foldl_insertInto inTable with kept | new
  · have notClassified := (List.mem_filter.mp kept).2
    rw [isClassified] at notClassified
    cases notClassified
  · exact List.mem_map.mp new

/-- What a plan that has been stored tells about the connection. -/
structure Saves (plan : MigrationPlan) (connection later : Connection) : Prop where
  content : later.content = (saved plan connection.database, connection.footing)
  table : connection.database.edges.isSome
  distinct : PlacesDistinct plan
  readsOrders : ∀ table : OrderTable, connection.footing.Reads [table.table.rows]
  readsIndex : connection.footing.Reads [Part.recordIndex]
  readsRecords : plan.classifiedEdges ≠ [] →
    connection.footing.Reads [TableName.dependencyEdges.rows, Part.recordIndex]

/-- **A plan that has been stored** has changed the database as it should. -/
theorem save_eq_ok (plain : connection.database.relations = none)
    (done : (save plan).runOn connection = (.ok (), later)) : Saves plan connection later := by
  obtain ⟨begun, sameBegun, steps⟩ := Command.transaction_eq_ok done
  obtain ⟨_, first, installed, rest⟩ := runOn_bind_eq_ok.mp steps
  obtain ⟨_, second, rolledBack, rest⟩ := runOn_bind_eq_ok.mp rest
  obtain ⟨_, third, deleted, rest⟩ := runOn_bind_eq_ok.mp rest
  obtain ⟨_, fourth, inserted, rest⟩ := runOn_bind_eq_ok.mp rest
  cases rest
  obtain ⟨isBegun, begunFooting⟩ := Prod.mk.inj sameBegun
  rw [← isBegun] at plain
  obtain ⟨readsInstall, distinctInstall, content⟩ := OrderTable.replace_eq_ok plain installed
  obtain ⟨isFirst, firstFooting⟩ := Prod.mk.inj content
  have plainFirst : first.database.relations = none := by rw [isFirst]; exact plain
  obtain ⟨readsRollback, distinctRollback, content⟩ :=
    OrderTable.replace_eq_ok plainFirst rolledBack
  obtain ⟨isSecond, secondFooting⟩ := Prod.mk.inj content
  have plainSecond : second.database.relations = none := by rw [isSecond]; exact plainFirst
  obtain ⟨readsIndex, rows, isTable, content⟩ := EdgeLog.deleteStage_eq_ok plainSecond deleted
  obtain ⟨isThird, thirdFooting⟩ := Prod.mk.inj content
  have plainThird : third.database.relations = none := by rw [isThird]; exact plainSecond
  have isKept : third.database.edges = some (rows.filter fun row => !row.isOf .classified) := by
    rw [isThird]
  obtain ⟨readsRecords, content⟩ := EdgeLog.insert_eq_ok plainThird isKept inserted
  rw [isSecond, isFirst] at isTable
  have wasTable : connection.database.edges = some rows := isBegun ▸ isTable
  have footing : third.footing = connection.footing := by
    rw [thirdFooting, secondFooting, firstFooting, begunFooting]
  rw [secondFooting, firstFooting, begunFooting] at readsIndex
  rw [firstFooting, begunFooting] at readsRollback
  rw [begunFooting] at readsInstall
  rw [footing] at readsRecords
  refine ⟨?_, by rw [wasTable]; rfl, ?_, ?_, readsIndex, readsRecords⟩
  · rw [content, footing, isThird, isSecond, isFirst, isBegun, saved, wasTable]
    rfl
  · intro table
    cases table with
    | install => exact distinctInstall
    | rollback => exact distinctRollback
  · intro table
    cases table with
    | install => exact readsInstall
    | rollback => exact readsRollback

/-- **A plan can be stored** in the four tables if no place is taken twice. -/
theorem turns_save (takes : before.TakesPlans) (distinct : PlacesDistinct plan) :
    (save plan).Turns before () (saved plan before) := by
  obtain ⟨install, isInstall⟩ := takes.exists_orderRows .install
  obtain ⟨rollback, isRollback⟩ := takes.exists_orderRows .rollback
  obtain ⟨rows, isTable⟩ := takes.exists_edges
  have installs := OrderTable.turns_replace takes.plain isInstall (distinct .install)
  have rollsBack : (OrderTable.rollback.replace (records plan.schedule.rollback)).Turns
      (before.withOrderRows .install (orderRows plan .install))
      (records plan.schedule.rollback).length (ordered plan before) :=
    OrderTable.turns_replace takes.plain isRollback (distinct .rollback)
  obtain ⟨_, deletes⟩ := @EdgeLog.turns_deleteRows (ordered plan before) .classified rows
    takes.plain isTable
  obtain ⟨_, inserts⟩ := @EdgeLog.turns_insertAll .classified
    { ordered plan before with edges := some (rows.filter fun row => !row.isOf .classified) } _
    plan.classifiedEdges takes.plain rfl
  rw [saved, isTable]
  refine Turns.transaction (installs.bind ?_)
  exact rollsBack.bind (deletes.bind (inserts.bind (Command.turns_pure ())))

/-- Storing a plan changes nothing about which parts can be read. -/
theorem content_of_save_eq_error {failure : StorageError}
    (failed : (save plan).runOn connection = (.error failure, later)) :
    later.content = connection.content := by
  refine Command.content_of_transaction_eq_error ?_ failed
  refine (OrderTable.keeps_replace _ _).bind fun _ => ?_
  refine (OrderTable.keeps_replace _ _).bind fun _ => ?_
  exact EdgeLog.keeps_deleteStage.bind fun _ => (EdgeLog.keeps_insert _).bind fun _ =>
    Command.keeps_pure ()

/-- The records of the closure read as before once a plan has been stored. -/
theorem Saves.answer_load_closure (saves : Saves plan connection later)
    (plain : connection.database.relations = none) :
    (EdgeLog.load .closure).answer later = (EdgeLog.load .closure).answer connection := by
  obtain ⟨database, footing⟩ := Prod.mk.inj saves.content
  obtain ⟨rows, isTable⟩ := Option.isSome_iff_exists.mp saves.table
  refine EdgeLog.answer_load_congr (database ▸ plain) plain (by rw [database]; rfl) isTable
    footing ?_
  rw [database]
  exact rowsOf_closure_saved

/-- **Storing a plan is all or nothing**, whatever the plan is and whatever is stored.  If
it fails, both orders and the records of both stages read as before.  If it succeeds in
the four tables, the orders and the classified stage hold the rows of the plan and no
others, and the rows of the closure are the same and read as before.  Where nothing is
refused, it is the places taken twice that decide between the two. -/
theorem save_all_or_nothing (plan : MigrationPlan) (connection : Connection) :
    (∀ failure later, (save plan).runOn connection = (.error failure, later) →
      (∀ (table : OrderTable) status,
        (table.load status).answer later = (table.load status).answer connection) ∧
      ∀ stage, (EdgeLog.load stage).answer later = (EdgeLog.load stage).answer connection) ∧
    (connection.database.relations = none → ∀ later,
      (save plan).runOn connection = (.ok (), later) →
        (∀ table, later.database.orderRows table = .ok (orderRows plan table)) ∧
        (∀ row ∈ EdgeLog.rowsOf .classified later.database,
          ∃ edge ∈ plan.classifiedEdges, EdgeRow.ofEdge .classified edge = row) ∧
        EdgeLog.rowsOf .closure later.database =
          EdgeLog.rowsOf .closure connection.database ∧
        (EdgeLog.load .closure).answer later = (EdgeLog.load .closure).answer connection) ∧
    (connection.footing.Sound → connection.database.TakesPlans →
      ((∃ later, (save plan).runOn connection = (.ok (), later)) ↔ PlacesDistinct plan)) := by
  refine ⟨fun failure later failed => ?_, fun plain later done => ?_, fun sound takes => ?_⟩
  · have same := content_of_save_eq_error failed
    exact ⟨fun table status => table.isQuestion_load status same,
      fun stage => EdgeLog.isQuestion_load stage same⟩
  · have saves := save_eq_ok plain done
    have database : later.database = saved plan connection.database :=
      congrArg Prod.fst saves.content
    refine ⟨fun table => ?_, fun row member => ?_, ?_, saves.answer_load_closure plain⟩
    · rw [database, orderRows_saved]
    · rw [database] at member
      exact mem_rowsOf_classified_saved member
    · rw [database, rowsOf_closure_saved]
  · constructor
    · rintro ⟨later, done⟩
      exact (save_eq_ok takes.plain done).distinct
    · intro distinct
      obtain ⟨later, done, _⟩ := turns_save takes distinct connection sound rfl
      exact ⟨later, done⟩

/-- A table with a place in an order. -/
def plannedTable (order : Nat) (name : String) : ScheduledObject :=
  ⟨order, ObjectKey.new .table "" name, some "A", .install⟩

/-- The record of a table that requires nothing. -/
def plannedLeaf (name : String) : Edge :=
  .leaf (ObjectRef.new (some "A") (ObjectKey.new .table "" name))

/-- A plan that has been put together by hand. -/
def handmadePlan (install rollback : List ScheduledObject) (classifiedEdges : List Edge) :
    MigrationPlan where
  schedule := ⟨rollback, install⟩
  classifiedEdges
  summary := ⟨0, 0, 0, 0⟩
  closure := ⟨0, 0, 0, 0⟩
  unresolved := []

/-- A plan of one table. -/
def firstPlan : MigrationPlan :=
  handmadePlan [plannedTable 1 "FIRST"] [plannedTable 1 "FIRST"] [plannedLeaf "FIRST"]

/-- A plan of two tables, which have the same place in the rollback order. -/
def tornPlan : MigrationPlan :=
  handmadePlan [plannedTable 1 "FIRST", plannedTable 2 "OTHER"]
    [plannedTable 1 "OTHER", plannedTable 1 "FIRST"] [plannedLeaf "OTHER"]

/-- In a new database the first plan can be stored.  The plan of two tables then fails,
once the install order has been overwritten, and this is taken back. -/
theorem tornPlan_all_or_nothing : ∃ stored failure after,
    (save firstPlan).runOn (Session.transient none).connection = (.ok (), stored) ∧
      stored.database.orderRows .rollback = .ok (orderRows firstPlan .rollback) ∧
      ¬ PlacesDistinct tornPlan ∧
      (save tornPlan).runOn stored = (.error failure, after) ∧
      (OrderTable.install.load none).answer after =
        .ok [⟨1, some "A", ObjectKey.new .table "" "FIRST", "INSTALL"⟩] ∧
      (EdgeLog.load .classified).answer after = .ok [plannedLeaf "FIRST"] := by
  have sound : (Session.transient none).connection.footing.Sound := ⟨rfl, rfl, rfl, rfl⟩
  have takes : (Session.transient none).connection.database.TakesPlans :=
    ⟨rfl, rfl, fun table => by cases table <;> rfl⟩
  obtain ⟨_, succeeds, decides⟩ := save_all_or_nothing firstPlan (Session.transient none).connection
  obtain ⟨stored, done⟩ := (decides sound takes).mpr
    fun table => by cases table <;> exact List.nodup_singleton _
  obtain ⟨orders, _, _⟩ := succeeds rfl stored done
  obtain ⟨database, footing⟩ := Prod.mk.inj (save_eq_ok rfl done).content
  have soundStored : stored.footing.Sound := footing ▸ sound
  have takesStored : stored.database.TakesPlans := by
    rw [database]
    exact ⟨rfl, rfl, fun table => by cases table <;> rfl⟩
  have twice : ¬ PlacesDistinct tornPlan := fun distinct =>
    absurd (distinct .rollback) (by decide)
  obtain ⟨fails, _, decidesTorn⟩ := save_all_or_nothing tornPlan stored
  rcases ran : (save tornPlan).runOn stored with ⟨failure | _, after⟩
  · obtain ⟨ordersAfter, logsAfter⟩ := fails failure after ran
    refine ⟨stored, failure, after, done, orders .rollback, twice, ran,
      (ordersAfter .install none).trans ?_, (logsAfter .classified).trans ?_⟩
    · rw [OrderTable.load, Command.answer_either takesStored.plain, Command.answer_query_eq,
        if_pos (soundStored.reads _), database]
      with_unfolding_all rfl
    · rw [EdgeLog.load, Command.answer_either takesStored.plain, Command.answer_query_eq,
        if_pos (soundStored.reads _), database]
      with_unfolding_all rfl
  · exact absurd ((decidesTorn soundStored takesStored).mp ⟨after, ran⟩) twice

end PlanStore

end SchemaPlan
