import Mathlib.Logic.Function.Basic
import SchemaPlan.Database.Session
import SchemaPlan.Proofs.Database.Command
import SchemaPlan.Proofs.Database.EdgeTable
import SchemaPlan.Proofs.Edge.Sink

/-!
# Stored logs and lists of records

A stored log is a list of records as far as its users can tell.  A database holds one
list for each stage (`Holds`).  Appending, replacing and filling in owners on the log of
a stage do to its list what the sink of lists does, and leave the list of the other
stage alone; reading the log gives the list, and counting counts in it.  So after any
calls on the two logs, in any order, each log is what its own calls make of the empty
list (`calls_refine`).
-/

set_option autoImplicit false

namespace SchemaPlan

/-- A call on the log of a stage. -/
inductive LogCall where
  | append (edges : List Edge)
  | replace (edges : List Edge)
  | backfill (name owner : String)
deriving DecidableEq, Repr

namespace LogCall

/-- The command of a call. -/
def command (stage : EdgeStage) : LogCall → Command Unit
  | append edges => EdgeLog.append stage edges
  | replace edges => do let _ ← EdgeLog.replace stage edges
  | backfill name owner => EdgeLog.backfill stage name owner

/-- What a call makes of a list of records. -/
def effect (records : List Edge) : LogCall → List Edge
  | append edges => EdgeList.append records edges
  | replace edges => EdgeList.append [] edges
  | backfill name owner => EdgeList.backfill records name owner

/-- A call names made records and owners in stored form only. -/
def IsMade : LogCall → Prop
  | append edges | replace edges => ∀ edge ∈ edges, edge.IsMade
  | backfill _ owner => ObjectRef.normalizeOwner (some owner) = some owner

/-- What the calls on the log of a stage make of the empty list. -/
def recordsOf (stage : EdgeStage) (calls : List (EdgeStage × LogCall)) : List Edge :=
  ((calls.filter fun call => decide (call.1 = stage)).map (·.2)).foldl effect []

end LogCall

namespace EdgeLog

open Command (Turns)

variable {before : Database} {logs : EdgeStage → List Edge} {stage : EdgeStage}
  {rows : List EdgeRow} {records edges : List Edge} {edge : Edge} {name owner : String}

/-- A database holds the lists of made records of the two stages. -/
structure Holds (database : Database) (logs : EdgeStage → List Edge) : Prop where
  plain : database.relations = none
  rows : ∃ rows, database.edges = some rows ∧ ∀ stage, EdgeRow.Lists rows stage (logs stage)
  made : ∀ stage, ∀ edge ∈ logs stage, edge.IsMade

/-- A table in which the rows of one stage have changed. -/
theorem Holds.update (holds : Holds before logs)
    (own : EdgeRow.Lists rows stage records) (made : ∀ edge ∈ records, edge.IsMade)
    (others : ∀ other, stage ≠ other → EdgeRow.Lists rows other (logs other)) :
    Holds { before with edges := some rows } (Function.update logs stage records) where
  plain := holds.plain
  rows := by
    refine ⟨rows, rfl, fun other => ?_⟩
    rcases eq_or_ne other stage with rfl | differs
    · rwa [Function.update_self]
    · rw [Function.update_of_ne differs]
      exact others other differs.symm
  made other := by
    rcases eq_or_ne other stage with rfl | differs
    · rwa [Function.update_self]
    · rw [Function.update_of_ne differs]
      exact holds.made other

/-! ## Questions -/

theorem turns_load (holds : Holds before logs) (stage : EdgeStage) :
    (load stage).Turns before (logs stage) before := by
  obtain ⟨rows, isTable, lists⟩ := holds.rows
  refine Turns.either (Command.turns_query (Outcome.bind_eq_ok.mpr ⟨rows, ?_, ?_⟩)) holds.plain
  · rw [Database.edgeRows, isTable]
  · exact (lists stage).read (holds.made stage)

theorem turns_count (holds : Holds before logs) (stage : EdgeStage)
    (status : Option EdgeStatus) : (count stage status).Turns before
      ((logs stage).countP fun edge => status.all fun status => decide (edge.status = status))
      before := by
  obtain ⟨rows, isTable, lists⟩ := holds.rows
  refine Turns.either (Command.turns_query (Outcome.bind_eq_ok.mpr ⟨rows, ?_, ?_⟩)) holds.plain
  · rw [Database.edgeRows, isTable]
  · exact congrArg Except.ok ((lists stage).count status)

/-! ## Changes of the table -/

theorem turns_readRows (isTable : before.edges = some rows) (parts : Database → List Part) :
    (readRows parts).Turns before rows before :=
  Command.turns_queryToChange (by rw [Database.edgeRows, isTable])

theorem turns_setRows (parts : List Part) (rows : List EdgeRow) :
    (setRows parts rows).Turns before () { before with edges := some rows } :=
  Command.turns_change parts _

/-- The rows are read, others are put in their place, and a number is told. -/
theorem turns_rewrite (plain : before.relations = none) (isTable : before.edges = some rows)
    (parts : Database → List Part) (written : List EdgeRow → List Part)
    (update : List EdgeRow → List EdgeRow) (count : List EdgeRow → Nat) (related : Command Nat) :
    (Command.either
      (readRows parts >>= fun rows => setRows (written rows) (update rows) >>= fun _ =>
        pure (count rows)) related).Turns before (count rows)
      { before with edges := some (update rows) } := by
  refine Turns.either ((turns_readRows isTable parts).bind ?_) plain
  exact (turns_setRows _ _).bind (Command.turns_pure _)

theorem turns_insertRow (plain : before.relations = none) (isTable : before.edges = some rows)
    (stage : EdgeStage) (edge : Edge) (added : Nat) :
    ∃ count, (insertOne stage added edge).Turns before count
      { before with edges := some (EdgeRow.insertInto rows (EdgeRow.ofEdge stage edge)) } :=
  ⟨_, (turns_rewrite plain isTable _ _ _ _ _).bind (Command.turns_pure _)⟩

theorem turns_deleteRows (plain : before.relations = none) (isTable : before.edges = some rows) :
    ∃ count, (deleteStage stage).Turns before count
      { before with edges := some (rows.filter fun row => !row.isOf stage) } :=
  ⟨_, turns_rewrite plain isTable _ _ _ _ _⟩

/-- **One record is inserted.** -/
theorem turns_insertOne (holds : Holds before logs) (stage : EdgeStage) (made : edge.IsMade)
    (added : Nat) :
    ∃ count after, (insertOne stage added edge).Turns before count after ∧
      Holds after (Function.update logs stage (EdgeList.add (logs stage) edge)) := by
  obtain ⟨rows, isTable, lists⟩ := holds.rows
  obtain ⟨count, turns⟩ := turns_insertRow holds.plain isTable stage edge added
  refine ⟨count, _, turns, ?_⟩
  refine holds.update ((lists stage).insertInto (holds.made stage) made) ?_
    fun other differs => (lists other).insertInto_other differs
  intro one member
  rcases EdgeList.mem_add.mp member with old | rfl
  · exact holds.made stage one old
  · exact made

/-- **Records are inserted** one after the other. -/
theorem turns_insert (holds : Holds before logs) (stage : EdgeStage)
    (made : ∀ edge ∈ edges, edge.IsMade) :
    ∃ count after, (insert stage edges).Turns before count after ∧
      Holds after (Function.update logs stage (EdgeList.append (logs stage) edges)) := by
  obtain ⟨rows, isTable, _⟩ := holds.rows
  have takes : before.takesRows .dependencyEdges = true := by
    simp [Database.takesRows, Database.hasTable, holds.plain, isTable]
  have held : Holds before (Function.update logs stage (logs stage)) := by
    rwa [Function.update_eq_self]
  have steps : ∀ edge ∈ edges, ∀ records database added,
      Holds database (Function.update logs stage records) →
        ∃ count after, (insertOne stage added edge).Turns database count after ∧
          Holds after (Function.update logs stage (EdgeList.add records edge)) := by
    intro edge member records database added holds
    have step := turns_insertOne holds stage (made edge member) added
    rwa [Function.update_self, Function.update_idem] at step
  obtain ⟨count, after, turns, holdsAfter⟩ := Command.turns_foldlM steps held 0
  exact ⟨count, after, (Command.turns_prepare takes).bind turns, holdsAfter⟩

/-- **The rows of a stage are deleted.** -/
theorem turns_deleteStage (holds : Holds before logs) (stage : EdgeStage) :
    ∃ count after, (deleteStage stage).Turns before count after ∧
      Holds after (Function.update logs stage []) := by
  obtain ⟨rows, isTable, lists⟩ := holds.rows
  obtain ⟨count, turns⟩ := @turns_deleteRows before stage rows holds.plain isTable
  refine ⟨count, _, turns, ?_⟩
  exact holds.update (EdgeRow.lists_delete rows stage) (by simp)
    fun other differs => (lists other).delete_other differs

/-- **Owners are filled in.** -/
theorem turns_backfillCounted (holds : Holds before logs) (stage : EdgeStage) (name : String)
    (stored : ObjectRef.normalizeOwner (some owner) = some owner) :
    ∃ count after, (backfillCounted stage name owner).Turns before count after ∧
      Holds after (Function.update logs stage (EdgeList.backfill (logs stage) name owner)) := by
  obtain ⟨rows, isTable, lists⟩ := holds.rows
  refine ⟨_, _, turns_rewrite holds.plain isTable _ _ _ _ _, ?_⟩
  refine holds.update ((lists stage).backfill (holds.made stage) stored) ?_
    fun other differs => (lists other).backfill_other differs
  intro one member
  obtain ⟨old, wasThere, rfl⟩ := EdgeList.mem_backfill.mp member
  rw [EdgeList.repair]
  split
  · exact (holds.made stage old wasThere).giveOwner stored
  · exact holds.made stage old wasThere

/-! ## Calls -/

/-- **A call does to the list of its stage what it does to a list of records**, and
nothing to the other one. -/
theorem turns_call (holds : Holds before logs) (stage : EdgeStage) {call : LogCall}
    (made : call.IsMade) :
    ∃ after, (call.command stage).Turns before () after ∧
      Holds after (Function.update logs stage (call.effect (logs stage))) := by
  cases call with
  | append edges =>
      by_cases nothing : edges = []
      · subst nothing
        refine ⟨before, Command.turns_pure (), ?_⟩
        rwa [LogCall.effect, EdgeList.append, List.foldl_nil, Function.update_eq_self]
      · obtain ⟨count, after, turns, holdsAfter⟩ := turns_insert holds stage made
        refine ⟨after, ?_, holdsAfter⟩
        rw [LogCall.command, append, if_neg (by simpa using nothing)]
        exact turns.transaction.bind (Command.turns_pure ())
  | replace edges =>
      obtain ⟨count, middle, deletes, holdsMiddle⟩ := turns_deleteStage holds stage
      obtain ⟨added, after, inserts, holdsAfter⟩ := turns_insert holdsMiddle stage made
      rw [Function.update_self, Function.update_idem] at holdsAfter
      exact ⟨after, (deletes.bind inserts).transaction.bind (Command.turns_pure ()), holdsAfter⟩
  | backfill name owner =>
      obtain ⟨count, after, turns, holdsAfter⟩ :=
        turns_backfillCounted holds stage name made
      exact ⟨after, turns.transaction.bind (Command.turns_pure ()), holdsAfter⟩

/-- What calls make of the lists of the two stages, one call after the other. -/
def afterCall (logs : EdgeStage → List Edge) (call : EdgeStage × LogCall) :
    EdgeStage → List Edge :=
  Function.update logs call.1 (call.2.effect (logs call.1))

/-- Calls on the log of one stage do not show in the other one. -/
theorem foldl_afterCall (calls : List (EdgeStage × LogCall)) (stage : EdgeStage) :
    calls.foldl afterCall logs stage =
      ((calls.filter fun call => decide (call.1 = stage)).map (·.2)).foldl LogCall.effect
        (logs stage) := by
  induction calls generalizing logs with
  | nil => rfl
  | cons call rest ih =>
      rw [List.foldl_cons, ih]
      by_cases own : call.1 = stage
      · subst own
        rw [List.filter_cons_of_pos (by simp), List.map_cons, List.foldl_cons, afterCall,
          Function.update_self]
      · rw [List.filter_cons_of_neg (by simpa using own), afterCall,
          Function.update_of_ne (Ne.symm own)]

/-- **Calls make of the stored logs what they make of lists.** -/
theorem turns_calls (holds : Holds before logs) {calls : List (EdgeStage × LogCall)}
    (made : ∀ call ∈ calls, call.2.IsMade) :
    ∃ after, (calls.forM fun call => call.2.command call.1).Turns before () after ∧
      Holds after (calls.foldl afterCall logs) :=
  Command.turns_forM (fun call member _ _ held => turns_call held call.1 (made call member)) holds

/-- **The stored logs refine the lists of records.**  On a connection where nothing is
refused, to a database whose table of records is empty, all calls on the logs of the two
stages succeed, in whatever order they come.  In the end each log reads, in order, as the
list that its own calls make of the empty one, and counts as that list. -/
theorem calls_refine {connection : Connection} (sound : connection.footing.Sound)
    (plain : connection.database.relations = none) (fresh : connection.database.edges = some [])
    {calls : List (EdgeStage × LogCall)} (made : ∀ call ∈ calls, call.2.IsMade) :
    ∃ after, (calls.forM fun call => call.2.command call.1 : Command Unit).runOn connection =
        (.ok (), after) ∧
      ∀ stage, (load stage).answer after = .ok (LogCall.recordsOf stage calls) ∧
        (∀ status, (count stage (some status)).answer after =
          .ok ((LogCall.recordsOf stage calls).countP fun edge => decide (edge.status = status))) ∧
        (count stage none).answer after = .ok (LogCall.recordsOf stage calls).length := by
  have start : Holds connection.database fun _ => [] :=
    ⟨plain, ⟨[], fresh, fun _ => rfl⟩, fun _ edge member => absurd member List.not_mem_nil⟩
  obtain ⟨database, turns, holds⟩ := turns_calls start made
  obtain ⟨after, done, afterSound, isAfter⟩ := turns connection sound rfl
  refine ⟨after, done, fun stage => ?_⟩
  have isRecords : calls.foldl afterCall (fun _ => []) stage = LogCall.recordsOf stage calls :=
    foldl_afterCall calls stage
  rw [← isRecords]
  refine ⟨(turns_load holds stage).answer afterSound isAfter, fun status => ?_, ?_⟩
  · exact (turns_count holds stage (some status)).answer afterSound isAfter
  · have counted := (turns_count holds stage none).answer afterSound isAfter
    rw [counted]
    exact congrArg Except.ok (congrFun List.countP_true _)

/-- A procedure with an owner or without. -/
def loggedProcedure (owner : Option String) (name : String) : ObjectRef :=
  ObjectRef.new owner (ObjectKey.new .procedure "" name)

/-- The record that a procedure calls another one. -/
def loggedRecord (caller : String) (owner : Option String) (called : String) : Edge :=
  .requires (loggedProcedure (some "A") caller) (loggedProcedure owner called)

/-- Calls on both logs.  In the first log a record without an owner stands before the
same record with one and before one of another caller; the owner is filled in there and
not in the second log, whose records are replaced in the end. -/
def loggedCalls : List (EdgeStage × LogCall) :=
  [(.closure, .append [loggedRecord "MAIN" none "HELP", .leaf (loggedProcedure (some "A") "HELP"),
      loggedRecord "MAIN" (some "A") "HELP", loggedRecord "LAST" none "HELP"]),
    (.classified, .append [loggedRecord "MAIN" none "HELP"]),
    (.closure, .backfill "HELP" "A"),
    (.classified, .replace [loggedRecord "LAST" none "HELP", loggedRecord "LAST" none "HELP"]),
    (.closure, .append [loggedRecord "LAST" (some "A") "HELP"])]

theorem isMade_loggedProcedure (owner : Option String) (name : String) :
    (loggedProcedure owner name).IsMade :=
  ⟨owner, .procedure, "", name, rfl⟩

theorem isMade_loggedRecord (caller : String) (owner : Option String) (called : String) :
    (loggedRecord caller owner called).IsMade := by
  refine ⟨isMade_loggedProcedure _ _, fun dependency isNeeded => ?_⟩
  rw [← Option.some.inj isNeeded]
  exact isMade_loggedProcedure _ _

theorem isMade_loggedCalls : ∀ call ∈ loggedCalls, call.2.IsMade := by
  have leaf : (Edge.leaf (loggedProcedure (some "A") "HELP")).IsMade :=
    ⟨isMade_loggedProcedure _ _, fun _ nothing => by cases nothing⟩
  have owner : LogCall.IsMade (.backfill "HELP" "A") := by
    with_unfolding_all rfl
  simpa [loggedCalls, LogCall.IsMade, isMade_loggedRecord, leaf] using owner

/-- The first log keeps the later of the two records that have become the same, and the
second one keeps what it is given instead. -/
theorem calls_refine_loggedCalls : ∃ after,
    (loggedCalls.forM fun call => call.2.command call.1 : Command Unit).runOn
      (Session.transient none).connection = (.ok (), after) ∧
    (load .closure).answer after = .ok [.leaf (loggedProcedure (some "A") "HELP"),
      loggedRecord "MAIN" (some "A") "HELP", loggedRecord "LAST" (some "A") "HELP"] ∧
    (load .classified).answer after = .ok [loggedRecord "LAST" none "HELP"] ∧
    (count .closure (some .ok)).answer after = .ok 3 := by
  obtain ⟨after, done, logs⟩ := @calls_refine (Session.transient none).connection
    ⟨rfl, rfl, rfl, rfl⟩ rfl rfl _ isMade_loggedCalls
  have first : LogCall.recordsOf .closure loggedCalls =
      [.leaf (loggedProcedure (some "A") "HELP"), loggedRecord "MAIN" (some "A") "HELP",
        loggedRecord "LAST" (some "A") "HELP"] := by
    with_unfolding_all rfl
  have second : LogCall.recordsOf .classified loggedCalls =
      [loggedRecord "LAST" none "HELP"] := by
    with_unfolding_all rfl
  obtain ⟨loaded, counted, _⟩ := logs .closure
  rw [first] at loaded counted
  refine ⟨after, done, loaded, second ▸ (logs .classified).1, counted .ok⟩

end EdgeLog

end SchemaPlan
