import SchemaPlan.Database.CatalogTable
import SchemaPlan.Database.Session
import SchemaPlan.Proofs.Closure.Interchange
import SchemaPlan.Proofs.Database.Command

/-!
# Imported catalogs

A question to a stored catalog is a command that reads the table and changes nothing in
it, so its answer is told by the rows of the table alone: what is found are the stored
rows that are asked for (`CatalogTable.mem_findObjects`).  This concerns the table that
is made here; tables of other databases that stand in for it are left out.

Rows that are imported into a stored catalog, in batches and perhaps repeatedly, make of
its table what inserting them makes of a snapshot: a database holds a snapshot when its
table has just the rows of the snapshot in their stored form (`Holds`), and inserting a
row keeps this up.  A table that holds a snapshot answers every question about trimmed
names with the rows of the snapshot, in another order.  So the two catalogs are alike,
and nothing that is done with them can tell them apart (`imported_eq_snapshot`).
-/

set_option autoImplicit false

namespace SchemaPlan

open Text (Trimmed)

/-! ## Stored catalogs keep to their questions -/

namespace CatalogTable

variable {connection : Connection} {owner : Option String} {package : String} {names : List String}

/-- **What is found is what is stored and wanted.** -/
theorem mem_findObjects (plain : connection.database.relations = none) {rows : List CatalogRow}
    (answered : (findObjects owner package names).answer connection = .ok rows) {row : CatalogRow} :
    row ∈ rows ↔ ∃ table, connection.database.objectRows = .ok table ∧ ∃ stored ∈ table,
      isWanted owner package names stored = true ∧ stored.toRow = .ok row := by
  rw [findObjects] at answered
  split at answered
  · next nothing =>
    obtain rfl := Except.ok.inj answered
    obtain rfl := List.isEmpty_iff.mp nothing
    simp [isWanted]
  · rw [Command.answer_either plain] at answered
    obtain ⟨table, isTable, read⟩ := Outcome.bind_eq_ok.mp (Command.answer_query answered)
    rw [Outcome.mem_mapM read]
    simp only [Sorting.mem_sortOn, List.mem_filter, isTable, Except.ok.injEq, exists_eq_left',
      and_assoc]

/-- A row is stored under its names in stored form. -/
theorem canonical_of_toRow {stored : StoredObject} {row : CatalogRow}
    (read : stored.toRow = .ok row) : row.key.name = Text.canonical stored.name := by
  obtain ⟨objectType, _, isRow⟩ := Outcome.bind_eq_ok.mp read
  obtain rfl := Outcome.pure_eq_ok.mp isRow
  rfl

/-- **A stored catalog keeps to its questions.** -/
theorem lawful (plain : connection.database.relations = none) : (catalog connection).Lawful where
  packages names confirmed answered package member := by
    obtain ⟨rows, _, found, isConfirmed⟩ :=
      Command.answer_bind_eq_ok.mp (Outcome.mapError_eq_ok.mp answered)
    obtain rfl := Except.ok.inj isConfirmed
    obtain ⟨row, listed, rfl⟩ := List.mem_map.mp (OrderedSet.mem_ofList.mp member)
    obtain ⟨_, _, stored, _, wanted, read⟩ :=
      (mem_findObjects plain (congrArg Prod.fst found)).mp (List.mem_filter.mp listed).1
    rw [isWanted, Bool.and_eq_true, List.contains_iff_mem] at wanted
    obtain ⟨name, asked, isName⟩ := List.mem_map.mp wanted.2
    exact ⟨name, asked, by
      rw [canonical_of_toRow read, ← isName, Text.canonical_canonical, Text.canonical_canonical]⟩
  routines owner package names rows answered row member := by
    obtain ⟨_, _, _, isRows⟩ :=
      Command.answer_bind_eq_ok.mp (Outcome.mapError_eq_ok.mp answered)
    obtain rfl := Except.ok.inj isRows
    exact (List.mem_filter.mp member).2
  owned owner names rows others answered alsoAnswered row member := by
    obtain ⟨table, isTable, stored, inTable, wanted, read⟩ :=
      (mem_findObjects plain (Outcome.mapError_eq_ok.mp answered)).mp member
    refine (mem_findObjects plain (Outcome.mapError_eq_ok.mp alsoAnswered)).mpr
      ⟨table, isTable, stored, inTable, ?_, read⟩
    rw [isWanted, Bool.and_assoc, Bool.and_eq_true] at wanted
    rw [isWanted, Bool.and_assoc, Option.all_none, Bool.true_and]
    exact wanted.2

end CatalogTable

/-! ## Stored rows -/

namespace StoredObject

/-- **A row in stored form is read as itself.** -/
theorem toRow_ofRow {row : CatalogRow} (made : row.IsMade) : (ofRow row).toRow = .ok row := by
  refine Outcome.bind_eq_ok.mpr ⟨_, TableName.readType_name _ _, congrArg Except.ok ?_⟩
  rw [ofRow, made.key.new_eq]

end StoredObject

/-! ## Snapshots of lists -/

namespace Snapshot

theorem mem_owners_foldl_insert {rows : List CatalogRow} {snapshot : Snapshot} {owner : String} :
    owner ∈ (rows.foldl insert snapshot).owners ↔
      owner ∈ snapshot.owners ∨ ∃ row ∈ rows, row.owner = owner := by
  induction rows generalizing snapshot with
  | nil => simp
  | cons first rest ih =>
      rw [List.foldl_cons, ih, insert, OrderedSet.mem_insert, or_assoc, or_left_comm]
      simp [eq_comm]

theorem exists_mem_insert {snapshot : Snapshot} {row : CatalogRow} {property : CatalogRow → Prop} :
    (∃ other ∈ (snapshot.insert row).rows, property other) ↔
      property row ∨ ∃ other ∈ snapshot.rows, property other := by
  simp only [insert, OrderedSet.mem_insert, or_and_right, exists_or, exists_eq_left]

/-- **A snapshot of a list is told by what the rows are**, in whatever order and however
often they are listed. -/
theorem ofRows_congr {rows others : List CatalogRow} (same : ∀ row, row ∈ rows ↔ row ∈ others) :
    ofRows rows = ofRows others := by
  have sameRows : (ofRows rows).rows = (ofRows others).rows := OrderedSet.ext fun row => by
    rw [mem_rows_ofRows, mem_rows_ofRows, same]
  have sameOwners : (ofRows rows).owners = (ofRows others).owners := OrderedSet.ext fun owner => by
    rw [ofRows, ofRows, mem_owners_foldl_insert, mem_owners_foldl_insert]
    simp only [same]
  exact congrArg₂ Snapshot.mk sameRows sameOwners

end Snapshot

namespace CatalogTable

open Command (Turns)

/-- A database whose table of objects has just the rows of a snapshot, which are all in
stored form. -/
structure Holds (database : Database) (snapshot : Snapshot) : Prop where
  plain : database.relations = none
  table : ∃ table, database.objects = some table ∧
    ∀ stored, stored ∈ table ↔ ∃ row ∈ snapshot.rows, StoredObject.ofRow row = stored
  made : ∀ row ∈ snapshot.rows, row.IsMade
  owners : ∀ owner, owner ∈ snapshot.owners ↔ ∃ row ∈ snapshot.rows, row.owner = owner

/-! ## Importing -/

section

variable {before : Database} {snapshot : Snapshot} {row : CatalogRow} {rows : List CatalogRow}

/-- A table in which a row has been inserted, unless it is there. -/
theorem Holds.insert (holds : Holds before snapshot) (made : row.IsMade)
    {table : List StoredObject} (isTable : before.objects = some table) :
    Holds { before with
      objects := some (if StoredObject.ofRow row ∈ table then table
        else table ++ [StoredObject.ofRow row]) } (snapshot.insert row) where
  plain := holds.plain
  table := by
    obtain ⟨listed, alsoTable, mem_table⟩ := holds.table
    obtain rfl := Option.some.inj (isTable.symm.trans alsoTable)
    refine ⟨_, rfl, fun stored => ?_⟩
    have members : stored ∈ (if StoredObject.ofRow row ∈ table then table
        else table ++ [StoredObject.ofRow row]) ↔ stored ∈ table ∨ stored = StoredObject.ofRow row := by
      split
      · next present => exact ⟨.inl, fun either => either.elim id fun same => same ▸ present⟩
      · rw [List.mem_append, List.mem_singleton]
    rw [members, mem_table, Snapshot.exists_mem_insert, or_comm, eq_comm]
  made other member := by
    rcases OrderedSet.mem_insert.mp member with rfl | old
    · exact made
    · exact holds.made other old
  owners owner := by
    rw [Snapshot.exists_mem_insert, Snapshot.insert, OrderedSet.mem_insert, holds.owners, eq_comm]

/-- **One row is inserted.** -/
theorem turns_insertOne (holds : Holds before snapshot) (made : row.IsMade) (added : Nat) :
    ∃ count after, (insertOne added row).Turns before count after ∧
      Holds after (snapshot.insert row) := by
  obtain ⟨table, isTable, _⟩ := holds.table
  have reads : readRows.Turns before table before :=
    Command.turns_queryToChange (by rw [Database.objectRows, isTable])
  exact ⟨_, _, Turns.bind (Turns.either (reads.bind (Turns.bind (Command.turns_change _ _)
    (Command.turns_pure _))) holds.plain) (Command.turns_pure _), holds.insert made isTable⟩

/-- **A batch is imported** row by row. -/
theorem turns_importAll (holds : Holds before snapshot) (made : ∀ row ∈ rows, row.IsMade) :
    ∃ count after, (importAll rows).Turns before count after ∧
      Holds after (rows.foldl Snapshot.insert snapshot) := by
  obtain ⟨table, isTable, _⟩ := holds.table
  have takes : before.takesRows .catalogObjects = true := by
    simp [Database.takesRows, Database.hasTable, holds.plain, isTable]
  have steps : ∀ row ∈ rows, ∀ snapshot database added, Holds database snapshot →
      ∃ count after, (insertOne added row).Turns database count after ∧
        Holds after (snapshot.insert row) :=
    fun row member _ _ added held => turns_insertOne held (made row member) added
  obtain ⟨count, after, turns, holdsAfter⟩ := Command.turns_foldlM steps holds 0
  exact ⟨count, after, ((Command.turns_prepare takes).bind turns).transaction, holdsAfter⟩

/-- Imports batches one after the other. -/
def importBatches (batches : List (List CatalogRow)) : Command Unit :=
  batches.forM fun batch => do let _ ← importAll batch

/-- **Batches are imported** one after the other, as all their rows are into a
snapshot. -/
theorem turns_importBatches (holds : Holds before snapshot) {batches : List (List CatalogRow)}
    (made : ∀ row ∈ batches.flatten, row.IsMade) :
    ∃ after, (importBatches batches).Turns before () after ∧
      Holds after (batches.flatten.foldl Snapshot.insert snapshot) := by
  rw [List.foldl_flatten]
  refine Command.turns_forM (fun batch member _ _ held => ?_) holds
  obtain ⟨count, after, turns, holdsAfter⟩ := turns_importAll held
    fun row inBatch => made row (List.mem_flatten_of_mem member inBatch)
  exact ⟨after, turns.bind (Command.turns_pure ()), holdsAfter⟩

end

/-! ## Questions -/

section

variable {connection : Connection} {snapshot : Snapshot} {row : CatalogRow}
  {owner : Option String} {package : String} {names : List String}

/-- The stored form of a row is wanted under the same names as the row itself, when these
are trimmed. -/
theorem isWanted_ofRow (made : row.IsMade) (ownerTrimmed : ∀ name ∈ owner, Trimmed name)
    (packageTrimmed : Trimmed package) (namesTrimmed : ∀ name ∈ names, Trimmed name) :
    isWanted owner package names (StoredObject.ofRow row) = true ↔
      Snapshot.ownerMatches owner row = true ∧
        Text.sameIgnoringCase row.key.package package = true ∧
        Snapshot.nameWanted names row = true := by
  have owned : owner.all (fun owner => row.owner == Text.canonical owner) = true ↔
      Snapshot.ownerMatches owner row = true := by
    rw [Snapshot.ownerMatches]
    cases owner with
    | none => rw [Option.all_none, Option.all_none]
    | some given =>
        rw [Option.all_some, Option.all_some, beq_iff_eq,
          Text.sameIgnoringCase_iff made.canonical_owner (ownerTrimmed given rfl)]
  have named : (names.map Text.canonical).contains row.key.name = true ↔
      Snapshot.nameWanted names row = true := by
    rw [List.contains_iff_mem, List.mem_map, Snapshot.nameWanted, List.any_eq_true]
    refine exists_congr fun name => and_congr_right fun asked => ?_
    rw [Text.sameIgnoringCase_iff made.canonical_name (namesTrimmed name asked), eq_comm]
  rw [isWanted, Bool.and_eq_true, Bool.and_eq_true, and_assoc,
    Text.sameIgnoringCase_iff made.canonical_package packageTrimmed, ← owned, ← named]
  exact and_congr_right fun _ => and_congr_left fun _ => beq_iff_eq

/-- **A table that holds a snapshot answers with its rows**, those that are wanted. -/
theorem exists_answer_findObjects (sound : connection.footing.Sound)
    (holds : Holds connection.database snapshot) (owner : Option String) (package : String)
    (names : List String) :
    ∃ rows, (findObjects owner package names).answer connection = .ok rows ∧
      ∀ row, row ∈ rows ↔ row ∈ snapshot.rows ∧
        isWanted owner package names (StoredObject.ofRow row) = true := by
  obtain ⟨table, isTable, mem_table⟩ := holds.table
  have isRows : connection.database.objectRows = .ok table := by
    rw [Database.objectRows, isTable]
  have answers : ∃ rows, (findObjects owner package names).answer connection = .ok rows := by
    rw [findObjects]
    split
    · exact ⟨[], rfl⟩
    · cases read : (Sorting.sortOn id (table.filter (isWanted owner package names))).mapM
          StoredObject.toRow with
      | ok rows =>
          refine ⟨rows, (Turns.either (Command.turns_query ?_) holds.plain).answer sound rfl⟩
          exact Outcome.bind_eq_ok.mpr ⟨table, isRows, read⟩
      | error failure =>
          obtain ⟨stored, member, failed⟩ := Outcome.exists_of_mapM_eq_error read
          have inTable := (List.mem_filter.mp (Sorting.mem_sortOn.mp member)).1
          obtain ⟨row, inRows, rfl⟩ := (mem_table stored).mp inTable
          rw [StoredObject.toRow_ofRow (holds.made row inRows)] at failed
          cases failed
  obtain ⟨rows, answered⟩ := answers
  refine ⟨rows, answered, fun row => ?_⟩
  rw [mem_findObjects holds.plain answered]
  constructor
  · rintro ⟨listed, isListed, stored, inTable, wanted, read⟩
    obtain rfl := Except.ok.inj (isRows.symm.trans isListed)
    obtain ⟨other, inRows, rfl⟩ := (mem_table stored).mp inTable
    obtain rfl := Except.ok.inj ((StoredObject.toRow_ofRow (holds.made other inRows)).symm.trans read)
    exact ⟨inRows, wanted⟩
  · rintro ⟨inRows, wanted⟩
    exact ⟨table, isRows, _, (mem_table _).mpr ⟨row, inRows, rfl⟩, wanted,
      StoredObject.toRow_ofRow (holds.made row inRows)⟩

theorem canonical_rootPackage : Text.canonical rootPackage = rootPackage :=
  canonical_of_normalizePackage normalizePackage_rootPackage

theorem trimmed_rootPackage : Trimmed rootPackage :=
  Text.trimmed_of_canonical canonical_rootPackage

/-- An object has the root package, in whatever case, when it lies outside all
packages. -/
theorem sameIgnoringCase_rootPackage (made : row.IsMade) :
    Text.sameIgnoringCase row.key.package rootPackage = true ↔ row.key.isRootLevel = true := by
  rw [Text.sameIgnoringCase_iff made.canonical_package trimmed_rootPackage, canonical_rootPackage,
    ObjectKey.isRootLevel, beq_iff_eq]

/-- The objects outside all packages that are found are those that the snapshot finds. -/
theorem exists_answer_findByOwner (sound : connection.footing.Sound)
    (holds : Holds connection.database snapshot) (ownerTrimmed : ∀ name ∈ owner, Trimmed name)
    (namesTrimmed : ∀ name ∈ names, Trimmed name) :
    ∃ rows, (findByOwner owner names).answer connection = .ok rows ∧
      ∀ row, row ∈ rows ↔ row ∈ snapshot.findByOwner owner names := by
  obtain ⟨rows, answered, mem_rows⟩ := exists_answer_findObjects sound holds owner rootPackage names
  refine ⟨rows, answered, fun row => ?_⟩
  rw [mem_rows, Snapshot.mem_findByOwner]
  refine and_congr_right fun inRows => ?_
  have made := holds.made row inRows
  rw [isWanted_ofRow made ownerTrimmed trimmed_rootPackage namesTrimmed,
    sameIgnoringCase_rootPackage made, and_left_comm]

/-- The owners that a table lists are those of the snapshot. -/
theorem answer_listOwners (sound : connection.footing.Sound)
    (holds : Holds connection.database snapshot) :
    listOwners.answer connection = .ok snapshot.owners.toList := by
  obtain ⟨table, isTable, mem_table⟩ := holds.table
  have same : OrderedSet.ofList (table.map (·.owner)) = snapshot.owners :=
    OrderedSet.ext fun owner => by
      rw [OrderedSet.mem_ofList, List.mem_map, holds.owners]
      simp only [mem_table]
      constructor
      · rintro ⟨_, ⟨row, inRows, rfl⟩, rfl⟩
        exact ⟨row, inRows, rfl⟩
      · rintro ⟨row, inRows, rfl⟩
        exact ⟨_, ⟨row, inRows, rfl⟩, rfl⟩
  refine (Turns.either (Command.turns_query ?_) holds.plain).answer sound rfl
  refine Outcome.bind_eq_ok.mpr ⟨table, by rw [Database.objectRows, isTable], ?_⟩
  rw [same]
  rfl

/-- **A table that holds a snapshot is alike to it.** -/
theorem Holds.alike (sound : connection.footing.Sound)
    (holds : Holds connection.database snapshot) :
    (catalog connection).Alike snapshot.catalog where
  owners := ⟨_, Outcome.mapError_eq_ok.mpr (answer_listOwners sound holds), rfl⟩
  findInPackage owner package names ownerTrimmed packageTrimmed namesTrimmed := by
    obtain ⟨rows, answered, mem_rows⟩ := exists_answer_findObjects sound holds owner package names
    refine ⟨_, _, Outcome.mapError_eq_ok.mpr (Command.answer_bind answered fun _ => rfl), rfl,
      fun row => ?_⟩
    rw [List.mem_filter, mem_rows, Snapshot.mem_findInPackage, and_assoc]
    refine and_congr_right fun inRows => ?_
    rw [isWanted_ofRow (holds.made row inRows) ownerTrimmed packageTrimmed namesTrimmed]
    constructor
    · rintro ⟨⟨owned, within, named⟩, isRoutine⟩
      exact ⟨within, isRoutine, owned, named⟩
    · rintro ⟨within, isRoutine, owned, named⟩
      exact ⟨⟨owned, within, named⟩, isRoutine⟩
  findByOwner owner names ownerTrimmed namesTrimmed := by
    obtain ⟨rows, answered, mem_rows⟩ := exists_answer_findByOwner sound holds ownerTrimmed namesTrimmed
    exact ⟨rows, _, Outcome.mapError_eq_ok.mpr answered, rfl, mem_rows⟩
  existingPackages names namesTrimmed := by
    have anyOwner : ∀ name ∈ (none : Option String), Trimmed name := nofun
    obtain ⟨rows, answered, mem_rows⟩ := exists_answer_findByOwner sound holds anyOwner namesTrimmed
    refine ⟨_, Outcome.mapError_eq_ok.mpr (Command.answer_bind answered fun _ => rfl), ?_⟩
    refine congrArg Except.ok (OrderedSet.ext fun name => ?_)
    rw [Snapshot.existingPackages, OrderedSet.mem_ofList, OrderedSet.mem_ofList, List.mem_map,
      List.mem_map]
    refine exists_congr fun row => and_congr_left fun _ => ?_
    rw [List.mem_filter, List.mem_filter, mem_rows, Snapshot.mem_findByOwner]
    simp only [Snapshot.ownerMatches, Option.all_none, Bool.and_eq_true]
    tauto

end

/-! ## Stored catalogs and snapshots -/

/-- **A stored catalog and a snapshot of the same rows are interchangeable.**  On a
connection where nothing is refused, to a database whose table of objects is empty, rows
in stored form are imported in any batches, in any order and with any repetitions.  Then
the stored catalog answers every question about trimmed names with the rows of the
snapshot, and every run and every look-up of configured roots comes to the same with
either catalog. -/
theorem imported_eq_snapshot {connection : Connection} (sound : connection.footing.Sound)
    (plain : connection.database.relations = none) (fresh : connection.database.objects = some [])
    {rows : List CatalogRow} (made : ∀ row ∈ rows, row.IsMade) {batches : List (List CatalogRow)}
    (same : ∀ row, row ∈ batches.flatten ↔ row ∈ rows) :
    ∃ later, (importBatches batches).runOn connection = (.ok (), later) ∧
      (catalog later).Alike (Snapshot.ofRows rows).catalog ∧
      (∀ (expansion : Expansion) (roots : List ObjectRef),
        (∀ object ∈ expansion.priorObjects, object.IsMade) → (∀ root ∈ roots, root.IsMade) →
        ∀ {Log : Type} (sink : EdgeSink Log) (log : Log),
          (expansion.withCatalog (catalog later)).run sink roots log =
            (expansion.withCatalog (Snapshot.ofRows rows).catalog).run sink roots log) ∧
      ∀ planner : Planner, (planner.withCatalog (catalog later)).configuredRoots =
        (planner.withCatalog (Snapshot.ofRows rows).catalog).configuredRoots := by
  have start : Holds connection.database Snapshot.empty :=
    ⟨plain, ⟨[], fresh, by simp [Snapshot.empty, OrderedSet.not_mem_empty]⟩,
      fun row member => absurd member OrderedSet.not_mem_empty,
      by simp [Snapshot.empty, OrderedSet.not_mem_empty]⟩
  obtain ⟨database, turns, holds⟩ :=
    turns_importBatches start fun row member => made row ((same row).mp member)
  obtain ⟨later, done, laterSound, rfl⟩ := turns connection sound rfl
  have snapshot : batches.flatten.foldl Snapshot.insert Snapshot.empty = Snapshot.ofRows rows :=
    Snapshot.ofRows_congr same
  rw [snapshot] at holds
  have alike := holds.alike laterSound
  exact ⟨later, done, alike,
    fun expansion roots prior roots_made _ sink log =>
      Expansion.run_of_alike alike holds.made prior roots_made sink log,
    fun planner => Planner.configuredRoots_of_alike alike⟩

/-- The rows of a procedure that calls another one, and of a function with the name of
the latter.  The order of types puts the procedure first, and that of their names the
function. -/
def importedRows : List CatalogRow :=
  [.new "A" .procedure "" "MAIN", .new "A" .procedure "" "CALC", .new "A" .function "" "CALC"]

/-- The rows in two batches, partly in small letters, in another order and twice. -/
def importedBatches : List (List CatalogRow) :=
  [[.new "a" .function "" "calc", .new "a" .procedure "" "main"],
    [.new "A" .procedure "" "CALC", .new "A" .function "" "CALC"]]

/-- The configuration and the source of the procedure. -/
def importedPlanner : Planner where
  config := { targets := { roots := ["a.main"] } }
  catalog := (Snapshot.ofRows importedRows).catalog
  sources := (SourceShelf.ofEntries [.new "A" "" "MAIN" "CALC(1);"]).store

/-- A procedure. -/
def importedProcedure (name : String) : ObjectRef :=
  ObjectRef.new (some "A") (.rootLevel .procedure name)

theorem isMade_importedRows : ∀ row ∈ importedRows, row.IsMade := by
  simp only [importedRows, List.forall_mem_cons]
  exact ⟨⟨_, _, _, _, rfl⟩, ⟨_, _, _, _, rfl⟩, ⟨_, _, _, _, rfl⟩, nofun⟩

theorem mem_importedBatches (row : CatalogRow) :
    row ∈ importedBatches.flatten ↔ row ∈ importedRows := by
  have there : ∀ row ∈ importedBatches.flatten, row ∈ importedRows := by
    decide +kernel
  have back : ∀ row ∈ importedRows, row ∈ importedBatches.flatten := by
    decide +kernel
  exact ⟨there row, back row⟩

/-- With the imported rows the root is found, and it requires the procedure and not the
function. -/
theorem imported_eq_snapshot_overlapping : ∃ later,
    (importBatches importedBatches).runOn (Session.transient none).connection = (.ok (), later) ∧
    (catalog later).owners = .ok ["A"] ∧
    (importedPlanner.withCatalog (catalog later)).configuredRoots =
      .ok [importedProcedure "MAIN"] ∧
    ((importedPlanner.expansion.withCatalog (catalog later)).run EdgeList.sink
      [importedProcedure "MAIN"] []).2 =
      [Edge.missing (importedProcedure "CALC"), Edge.leaf (importedProcedure "CALC"),
        Edge.requires (importedProcedure "MAIN") (importedProcedure "CALC")] := by
  obtain ⟨later, done, alike, runs, plans⟩ :=
    @imported_eq_snapshot (Session.transient none).connection ⟨rfl, rfl, rfl, rfl⟩ rfl rfl _
      isMade_importedRows _ mem_importedBatches
  have roots : ∀ root ∈ [importedProcedure "MAIN"], root.IsMade :=
    fun root member => List.mem_singleton.mp member ▸ ⟨_, _, _, _, rfl⟩
  have edges := runs importedPlanner.expansion [importedProcedure "MAIN"] nofun roots EdgeList.sink []
  obtain ⟨owners, known, alsoKnown⟩ := alike.owners
  refine ⟨later, done, ?_, (plans importedPlanner).trans ?_, ?_⟩
  · rw [known, ← alsoKnown]
    with_unfolding_all rfl
  · with_unfolding_all rfl
  · rw [edges]
    with_unfolding_all rfl

end CatalogTable

end SchemaPlan
