import SchemaPlan.Database.Row
import SchemaPlan.Relational.Change

/-!
# Databases and connections

The file of a database has a heading, which lists what there is, and a part for the rows of each
table and for each index.  A part is read and written as a whole.  What cannot be read of a file
is told part by part.

A database holds four tables, each of which may be missing, and a version.  A database that has
been made elsewhere holds tables of any kind instead.  A command runs on a connection, which it may
change even when it fails; a transaction takes back what a failing command has changed in the
database.  An insertion that has once been prepared on a connection stays prepared, so that its
table is needed only for the first time or when there are rows.  A command names the parts that it
reads and writes, since not every part may be within reach.
-/

set_option autoImplicit false

namespace SchemaPlan

/-! ## Parts of a file -/

/-- A part of the file of a database. -/
inductive Part where
  | heading
  /-- The rows of a table or an index. -/
  | tree (name : String)
deriving DecidableEq, Repr

namespace Part

/-- The index that keeps records from being repeated. -/
def recordIndex : Part := tree "idx_dependency_edges_record"

/-- The index of the records that lack the owner of the dependency. -/
def unownedIndex : Part := tree "idx_dependency_edges_dep_name"

/-- The index that keeps rows of the catalog from being repeated. -/
def objectIndex : Part := tree "sqlite_autoindex_catalog_objects_1"

/-- The index of the rows of the catalog by their names. -/
def objectNameIndex : Part := tree "idx_catalog_objects_name"

/-- The parts of one list that are not in another one. -/
def without (parts others : List Part) : List Part := parts.filter fun part => part ∉ others

/-- The parts of two lists. -/
def both (parts others : List Part) : List Part := parts ++ without others parts

end Part

namespace TableName

/-- The part with the rows of a table. -/
def rows (table : TableName) : Part := .tree table.name

/-- The indexes of a table. -/
def indexes : TableName → List Part
  | dependencyEdges => [Part.recordIndex, Part.unownedIndex]
  | installOrder | rollbackOrder => []
  | catalogObjects => [Part.objectIndex, Part.objectNameIndex]

/-- The rows and the indexes of a table. -/
def parts (table : TableName) : List Part := table.rows :: table.indexes

end TableName

/-! ## Databases -/

/-- The content of a database. -/
structure Database where
  edges : Option (List EdgeRow)
  installOrder : Option (List OrderRow)
  rollbackOrder : Option (List OrderRow)
  objects : Option (List StoredObject)
  version : Int
  /-- The tables of a database that has been made elsewhere, which stand in for the four tables. -/
  relations : Option Relational.Relations := none
deriving DecidableEq, Repr

namespace Database

/-- The database without tables. -/
def empty : Database :=
  { edges := none, installOrder := none, rollbackOrder := none, objects := none, version := 0 }

/-- A database that has been made elsewhere. -/
def ofRelations (relations : Relational.Relations) (version : Int) : Database :=
  { empty with version, relations := some relations }

/-- The database with an empty table in the place of every missing one. -/
def withAllTables (database : Database) : Database :=
  { database with
    edges := some (database.edges.getD [])
    installOrder := some (database.installOrder.getD [])
    rollbackOrder := some (database.rollbackOrder.getD [])
    objects := some (database.objects.getD []) }

/-- Whether a table exists. -/
def hasTable (database : Database) (table : TableName) : Bool :=
  match database.relations, table with
  | some relations, _ => relations.hasTable table.name
  | none, .dependencyEdges => database.edges.isSome
  | none, .installOrder => database.installOrder.isSome
  | none, .rollbackOrder => database.rollbackOrder.isSome
  | none, .catalogObjects => database.objects.isSome

/-- Whether rows can be inserted into a table with its columns. -/
def takesRows (database : Database) (table : TableName) : Bool :=
  match database.relations with
  | some relations => relations.takesRows table.name table.columns
  | none => database.hasTable table

/-- The tables that exist. -/
def tables (database : Database) : List TableName := TableName.all.filter database.hasTable

/-- The database without a table. -/
def dropTable (database : Database) : TableName → Database
  | .dependencyEdges => { database with edges := none }
  | .installOrder => { database with installOrder := none }
  | .rollbackOrder => { database with rollbackOrder := none }
  | .catalogObjects => { database with objects := none }

/-- The parts of a database with all tables.  A database that has lost tables has kept room for
them. -/
def parts (database : Database) : List Part :=
  Part.heading :: match database.relations with
    | some relations => (relations.items.filter (·.kind == .table)).map fun item => .tree item.name
    | none => TableName.all.flatMap TableName.parts

/-- The rows of the table of records. -/
def edgeRows (database : Database) : Except StorageError (List EdgeRow) :=
  match database.edges with
  | some rows => .ok rows
  | none => .error TableName.dependencyEdges.absent

/-- The rows of an order. -/
def orderRows (database : Database) (table : OrderTable) : Except StorageError (List OrderRow) :=
  match (match table with
    | .install => database.installOrder
    | .rollback => database.rollbackOrder) with
  | some rows => .ok rows
  | none => .error table.table.absent

/-- The database with other rows in an order. -/
def withOrderRows (database : Database) (table : OrderTable) (rows : List OrderRow) : Database :=
  match table with
  | .install => { database with installOrder := some rows }
  | .rollback => { database with rollbackOrder := some rows }

/-- The rows of the catalog. -/
def objectRows (database : Database) : Except StorageError (List StoredObject) :=
  match database.objects with
  | some rows => .ok rows
  | none => .error TableName.catalogObjects.absent

/-- Whether nothing in a database may be changed. -/
def isFixed (database : Database) : Bool := database.relations.any (·.isFixed)

/-! ## Versions -/

/-- The latest version of the tables. -/
def latestVersion : Nat := 1

/-- The version of the tables.  A negative number is no version. -/
def currentVersion (database : Database) : Except StorageError Nat :=
  if database.version < 0 then .error (.databaseFailed "version out of range")
  else .ok database.version.toNat

/-- The database with the version set.  A number of more than 32 bits counts as zero. -/
def withVersion (database : Database) (version : Int) : Database :=
  { database with
    version := if -2147483648 ≤ version ∧ version ≤ 2147483647 then version else 0 }

/-- Brings the tables up to the latest version; a later version is left alone. -/
def migrate (database : Database) : Except StorageError Database := do
  return if (← database.currentVersion) < latestVersion then
    { database.withAllTables with version := latestVersion }
  else database

end Database

/-! ## Failures -/

namespace StorageError

/-- The failure of a change to a database that is only read. -/
def readOnly : StorageError := .databaseFailed "attempt to write a readonly database"

/-- The failure of a file that cannot be opened. -/
def cannotOpen : StorageError := .databaseFailed "unable to open database file"

/-- The failure of a part that cannot be read. -/
def unreadable : StorageError := .databaseFailed "database disk image is malformed"

end StorageError

/-! ## Connections -/

/-- What the files of a database allow at present. -/
structure Footing where
  /-- Whether every change is refused, also one that would change nothing. -/
  isReadOnly : Bool := false
  /-- Whether transactions are refused from the beginning. -/
  refusesTransactions : Bool := false
  /-- Whether nothing can be written for want of a journal. -/
  lacksJournal : Bool := false
  /-- Whether there is no heading yet, which the first change or transaction writes. -/
  isBlank : Bool := false
  /-- The parts that cannot be read. -/
  unreadable : List Part := []
deriving DecidableEq, Repr

/-- A connection to a database. -/
structure Connection where
  database : Database
  /-- The tables into which an insertion has been prepared. -/
  prepared : List TableName := []
  footing : Footing := {}
  /-- The parts that have been read or written and need not be read again. -/
  remembered : List Part := []
  /-- The parts that have been written. -/
  written : List Part := []
  /-- The tables that have been found missing from the file but are thought to be there until the
  next table is read. -/
  outdated : List TableName := []
  /-- Whether there has been an attempt to read the file. -/
  isUsed : Bool := false
  /-- Whether anything has been written, even if it has been taken back. -/
  hasWritten : Bool := false
deriving DecidableEq, Repr

/-- What can be done with a connection. -/
abbrev Command (Value : Type) : Type := ExceptT StorageError (StateM Connection) Value

namespace Command

variable {Value : Type}

/-- Runs a command on a connection. -/
def runOn (command : Command Value) (connection : Connection) :
    Except StorageError Value × Connection :=
  StateT.run (ExceptT.run command) connection

/-- The answer of a command on a connection. -/
def answer (command : Command Value) (connection : Connection) : Except StorageError Value :=
  (command.runOn connection).1

/-- A command that cannot fail and returns the failure of another one. -/
def attempt (command : Command Value) : Command (Except StorageError Value) :=
  ExceptT.mk (.ok <$> command.run)

/-- Reads a part. -/
def touch (part : Part) : Command Unit := do
  let connection ← get
  if part ∈ connection.footing.unreadable then throw StorageError.unreadable
  set { connection with remembered := connection.remembered.insert part }

/-- Reads the heading and further parts. -/
def touchAll (parts : List Part) : Command Unit := do
  let namesTree := parts.any (· ≠ Part.heading)
  modify fun connection => { connection with
    isUsed := true
    outdated := if namesTree then [] else connection.outdated }
  (Part.heading :: parts).forM touch

/-- A question to the database, for which parts of it are read. -/
def query (parts : Database → List Part) (question : Database → Except StorageError Value) :
    Command Value := do
  let database := (← get).database
  touchAll (parts database)
  ExceptT.mk (return question database)

/-- Writes parts, for which a journal is needed unless there are none. -/
def write (parts : List Part) : Command Unit := do
  touchAll parts
  let connection ← get
  if connection.footing.lacksJournal && !parts.isEmpty then throw StorageError.cannotOpen
  set { connection with
    written := Part.both connection.written parts
    hasWritten := connection.hasWritten || !parts.isEmpty }

/-- Fails if changes are refused. -/
def allowChange : Command Unit := do
  if (← get).footing.isReadOnly then throw StorageError.readOnly

/-- A question to the database that is asked in order to change it. -/
def queryToChange (parts : Database → List Part)
    (question : Database → Except StorageError Value) : Command Value := do
  allowChange
  query parts question

/-- A change of the database that is written to some of its parts. -/
def change (parts : List Part) (update : Database → Database) : Command Unit := do
  allowChange
  let footing := (← get).footing
  write (if footing.isBlank then Part.heading :: parts else parts)
  modify fun connection => { connection with database := update connection.database }

/-- Begins a transaction. -/
def begin : Command Unit := do
  let footing := (← get).footing
  if footing.refusesTransactions then throw StorageError.readOnly
  write (if footing.isBlank && !footing.isReadOnly then [Part.heading] else [])

/-- Runs a command and takes back its changes to the database if it fails.  What has been written
in vain has to be read again. -/
def atomically (command : Command Value) : Command Value :=
  ExceptT.mk fun connection =>
    match command.runOn connection with
    | (.ok value, after) => (.ok value, after)
    | (.error failure, after) =>
      let vain := Part.without after.written connection.written
      (.error failure, { after with
        database := connection.database
        written := connection.written
        remembered := Part.without after.remembered vain })

/-- Runs a command as a transaction. -/
def transaction (command : Command Value) : Command Value := atomically (begin *> command)

/-- Reads the version of the tables. -/
def currentVersion : Command Nat := query (fun _ => []) Database.currentVersion

/-- Writes the version of the tables. -/
def setVersion (version : Int) : Command Unit :=
  change [Part.heading] fun database => database.withVersion version

/-- Runs one command on the four tables, or another one on tables that stand in for them. -/
def either (own related : Command Value) : Command Value := do
  if (← get).database.relations.isSome then related else own

/-- Prepares an insertion into a table. -/
def prepare (table : TableName) : Command Unit := do
  let connection ← get
  if connection.database.takesRows table || table ∈ connection.outdated then
    set { connection with prepared := table :: connection.prepared.erase table }
  else if table ∈ connection.prepared then return
  else throw table.absent

end Command

end SchemaPlan
