import SchemaPlan.Database.MainFile
import SchemaPlan.Database.Session
import SchemaPlan.Database.Tables

/-!
# Opening databases

Opening looks at what stands beside the file of a database: a journal that was left behind is
rolled back and removed, and a log that was left behind is taken up.  A database that can have a
log is given one.  Then the tables are brought up to date.  What has been done to the files stays
done when a later step fails.

A database is brought up to the latest version by creating the tables and the indexes that it
lacks.  In a database that has been made elsewhere each of them is created for itself, so that the
first ones remain when a later one cannot be created.
-/

set_option autoImplicit false

namespace SchemaPlan

namespace Command

/-- The parts that bringing the tables up to date writes: the heading and all parts of the tables
that are missing. -/
def migratedParts (database : Database) : List Part :=
  Part.heading ::
    (TableName.all.filter fun table => !database.hasTable table).flatMap TableName.parts

/-- Creates the tables that are missing, if the version is not the latest one. -/
def migrateTables : Command Unit := do
  let before := (← get).database
  let migrated ← query (fun _ => []) Database.migrate
  if migrated ≠ before then change (migratedParts before) fun _ => migrated

/-- Creates what a text defines for a table that stands in for one of the four tables. -/
def create (table : TableName) (definition : String) : Command Unit := do
  let before := (← get).database.relations
  let rows (_ : Database) : List Part :=
    if before.any (·.hasTable table.name) then [table.rows] else []
  let created ← query rows fun database =>
    match database.relations.mapM (·.create definition) with
    | .ok relations => .ok relations
    | .error trouble => .error (.databaseFailed trouble.message)
  if created ≠ before then
    change [Part.heading, table.rows] fun database => { database with relations := created }

/-- Creates one by one what is missing among tables that stand in for the four tables, if the
version is not the latest one. -/
def migrateRelations : Command Unit := do
  if (← query (fun _ => []) Database.currentVersion) < Database.latestVersion then
    TableName.all.forM fun table => table.definitions.forM (create table)
    change [Part.heading] fun database => database.withVersion Database.latestVersion

/-- Brings the tables up to the latest version. -/
def migrate : Command Unit :=
  ExceptT.adapt (fun failure => .migrationFailed Database.latestVersion failure.message)
    (either migrateTables migrateRelations)

end Command

/-! ## Opening files -/

/-- What can be done with files in order to open a database. -/
abbrev Opening (Value : Type) : Type := ExceptT StorageError (StateM FileTree) Value

namespace Opening

/-! ## Failures -/

/-- The failure of a file that holds something else. -/
def notDatabase : StorageError := .databaseFailed "file is not a database"

/-- The failure of a file that cannot be read or removed. -/
def inputOutput : StorageError := .databaseFailed "disk I/O error"

/-- The failure of a file that somebody else seems to use. -/
def inUse : StorageError := .databaseFailed "database is locked"

/-- The failure of new tables in a database that is only read. -/
def cannotCreateTables : StorageError :=
  .migrationFailed Database.latestVersion "attempt to write a readonly database"

/-! ## Finding the file -/

/-- The greatest length in bytes that the path of a place on the way to a database may have. -/
def maxWayLength : Nat := 511

/-- The greatest length in bytes of the path of a database, which leaves room for the endings of
the files beside it. -/
def maxFileLength : Nat := 504

/-- Goes on to a name.  A double dot takes back the name before it, whatever stands there; any
other name must not lie beyond a file. -/
def settleStep (files : FileTree) (place : Place) (name : String) : Except FileError Place :=
  if name = "." then .ok place
  else if name = ".." then .ok place.parent
  else
    let next := place ++ [name]
    if name = "/" then .ok next
    else if maxWayLength < next.pathLength then .error .unreadable
    else
      match files.walk next with
      | .error .unreadable => .error .unreadable
      | _ => .ok next

/-- The place of the file of a database. -/
def settle (files : FileTree) (path : String) : Except FileError Place := do
  if path.toList.contains '\x00' then throw .unreadable
  let place ← (Place.namesOf path).foldlM (settleStep files) Place.here
  if place.isAround || maxFileLength < place.pathLength then throw .unreadable
  files.walk place

/-- What the file at a place holds. -/
def contentAt (files : FileTree) (place : Place) : FileContent :=
  match files.entry? place with
  | some (.file content) => content
  | _ => .text ""

/-- The file that an address names, with its place.  It is created if it may be. -/
def openMain (address : Address) : Opening (Place × MainFile) := do
  let files ← get
  match settle files address.path with
  | .error _ => throw StorageError.cannotOpen
  | .ok place =>
    if (address.parameter "modeof").any fun path => !files.exists? path then throw inputOutput
    match files.entry? place with
    | some .directory => throw StorageError.cannotOpen
    | some (.file content) => return (place, MainFile.ofContent content)
    | none =>
      if address.access ≠ .create then throw StorageError.cannotOpen
      set (files.put place (.file (.text "")))
      return (place, .unwritten)

/-! ## Guardians -/

/-- Sets up the directory that stands beside a file while it is used.  Nothing else may be in its
place. -/
def guardFile (address : Address) (place : Place) : Opening Unit := do
  if address.isGuarded then
    let guardian := DatabaseFile.guardian place
    let files ← get
    if (files.entry? guardian).isSome then throw inUse
    if FileTree.maxNameLength < guardian.nameLength then throw inputOutput

/-- Whether the file seems to be used by somebody who will roll back the journal.  A directory of
its own counts as well. -/
def seemsInUse (address : Address) (place : Place) (files : FileTree) : Bool :=
  address.isGuarded ||
    (address.medium == .guarded && (files.entry? (DatabaseFile.guardian place)).isSome)

/-! ## Journals -/

/-- Rolls back the journal that was left behind, and returns what the file holds then.  A journal
that begins with a zero has been finished and stays. -/
def rollBack (address : Address) (place : Place) (main : MainFile) : Opening MainFile := do
  let journal := DatabaseFile.journal place
  let files ← get
  if seemsInUse address place files then return main
  match files.entry? journal with
  | none => return main
  | some .directory => if main = .unwritten then return main else throw inputOutput
  | some (.file content) =>
    if content.size = 0 then return main
    else if main = .unwritten then
      if address.access ≠ .read || !address.locks then set (files.remove journal)
      return main
    else if content.startsWithZero then return main
    else if address.access = .read then throw StorageError.readOnly
    else
      let restored := (contentAt files place).rolledBack content
      set ((files.remove journal).put place (.file restored))
      return MainFile.ofContent restored

/-- Whether no journal can be written. -/
def lacksJournal (place : Place) (files : FileTree) : Bool :=
  let journal := DatabaseFile.journal place
  files.entry? journal == some .directory || decide (FileTree.maxNameLength < journal.nameLength)

/-! ## Logs -/

/-- Whether a log was left behind.  One beside a file without content is removed. -/
def findLog (address : Address) (place : Place) (main : MainFile) : Opening Bool := do
  let log := DatabaseFile.log place
  let files ← get
  match files.entry? log with
  | none => return false
  | some .directory => throw StorageError.cannotOpen
  | some (.file content) =>
    if content.size = 0 then return false
    else if main = .unwritten then
      set (files.remove log)
      return false
    else if address.canLog then return true
    else throw StorageError.cannotOpen

/-- Joins the log, which is created if there is none, and returns whether it can be written.  The
index is a file that must be possible to write for this. -/
def joinLog (address : Address) (place : Place) : Opening Bool := do
  let files ← get
  let log := DatabaseFile.log place
  let index := DatabaseFile.logIndex place
  let logged :=
    if (files.entry? log).isSome then files else files.put log (.file (.text ""))
  set logged
  if !DatabaseFile.hasIndex address then return true
  match files.entry? index, address.isSet "readonly_shm" with
  | some .directory, _ | some (.file _), true => return false
  | none, true => throw StorageError.cannotOpen
  | _, false =>
    set (logged.put index (.file .logIndex))
    return true

/-- Gives a log to a database whose file does not say yet that there is one, and joins it.  The
log is needed only once the tables are looked at. -/
def startLog (address : Address) (place : Place) (main : MainFile) : Opening Bool := do
  if address.access = .read || main.content.isFixed then throw StorageError.readOnly
  if lacksJournal place (← get) then throw StorageError.cannotOpen
  modify fun files =>
    (files.remove (DatabaseFile.journal place)).put place
      (.file (main.marked (contentAt files place)))
  ExceptT.adapt (fun _ => .migrationFailed 0 "unable to open database file")
    (joinLog address place)

/-! ## Looking at the files again -/

/-- What is found of a database without a log each time that it is used. -/
def lookAgain (address : Address) (place : Place) : Opening MainFile := do
  guardFile address place
  let files ← get
  let main := match files.entry? place with
    | some (.file content) => MainFile.ofContent content
    | _ => .foreign
  let main ← rollBack address place main
  let isLeft ← findLog address place main
  if main = .foreign then throw notDatabase
  if isLeft || main.isMarked then throw StorageError.cannotOpen
  return main

/-- The footing that a database without a log has. -/
def footing (address : Address) (place : Place) (main : MainFile) (files : FileTree) : Footing where
  isReadOnly := address.access == .read || main.content.isFixed
  lacksJournal := lacksJournal place files
  isBlank := main == .unwritten
  unreadable := main.lost

/-! ## Sessions -/

/-- The session of a database whose tables are brought up to date. -/
def upToDate (text : String) (file : DatabaseFile) (content : Database) (footing : Footing) :
    Opening Session := do
  let connection : Connection :=
    { database := content, footing, remembered := [Part.heading] }
  let (answer, connection) := Command.migrate.runOn connection
  let (opened, files) := Session.keep ⟨connection, some text, some file⟩ (← get)
  set files
  match answer with
  | .ok () => return opened
  | .error failure =>
    modify opened.close
    throw failure

/-- Opens a database with a log that has been joined, of which some parts are in the log. -/
def openLogged (address : Address) (text : String) (place : Place) (main : MainFile)
    (isMarked isWritable : Bool) (logged : List Part) : Opening Session := do
  let files ← get
  let log := DatabaseFile.log place
  if !isWritable && (contentAt files log).isSalted then throw StorageError.unreadable
  if !logged.isEmpty then set (files.put log (.file (.log main.content logged)))
  upToDate text
    { place, address, usesLog := true, isForgetful := !isWritable, isMarked
      initial := contentAt files place
      initialLost := main.lost
      index := files.entry? (DatabaseFile.logIndex place)
      logged }
    main.content
    { isReadOnly := !isWritable || address.access == .read || main.content.isFixed
      refusesTransactions := !isWritable && address.access != .read
      unreadable := main.lost }

/-- Opens a database without a log. -/
def openUnlogged (address : Address) (text : String) (place : Place) (main : MainFile) :
    Opening Session := do
  let files ← get
  upToDate text
    { place, address, usesLog := false, isForgetful := false, isMarked := false
      initial := contentAt files place
      initialLost := main.lost
      index := none
      logged := [] }
    main.content (footing address place main files)

/-- Opens a database that nobody changes. -/
def openFrozen (address : Address) (text : String) (place : Place) (main : MainFile) :
    Opening Session := do
  if main = .foreign then throw notDatabase
  let initial := contentAt (← get) place
  upToDate text
    { place, address, usesLog := false, isForgetful := false, isMarked := main.isMarked, initial
      initialLost := main.lost
      index := none
      logged := [] }
    main.content { isReadOnly := true, unreadable := main.lost }

/-- Opens a database with a log that was left behind or that its file asks for.  A log beside
something that is no database is folded and removed. -/
def openBesideLog (address : Address) (text : String) (place : Place) : Opening Session := do
  if !address.canLog then throw StorageError.cannotOpen
  let isWritable ← joinLog address place
  let canFold := isWritable && address.access ≠ .read
  let files ← get
  let initial := contentAt files place
  let log := contentAt files (DatabaseFile.log place)
  if log.logReading = .unknown then throw StorageError.cannotOpen
  let together := initial.withLog log
  let main := MainFile.ofContent together
  if main = .foreign then
    if canFold then
      set (DatabaseFile.withoutLog (files.put place (.file together)) place address)
    throw notDatabase
  else
    let logged := if canFold && together != initial then
        Part.without main.content.parts main.lost
      else []
    openLogged address text place main main.isMarked isWritable logged

/-- Opens a file that others may use as well. -/
def openShared (address : Address) (text : String) (place : Place) (main : MainFile) :
    Opening Session := do
  guardFile address place
  let main ← rollBack address place main
  let isLeft ← findLog address place main
  if isLeft || main.isMarked then openBesideLog address text place
  else if main = .foreign then throw notDatabase
  else if address.canLog then
    openLogged address text place main true (← startLog address place main) []
  else openUnlogged address text place main

/-- Opens the database in a file. -/
def openFile (address : Address) (text : String) : Opening Session := do
  let (place, main) ← openMain address
  if address.isFrozen then openFrozen address text place main
  else openShared address text place main

/-- Opens the database that an address names. -/
def openAddress (text : String) : Opening Session :=
  match Address.parse text with
  | .error cause => throw (.databaseFailed ("open " ++ text ++ ": " ++ cause.message))
  | .ok address =>
    if text.toList.contains '\x00' then throw StorageError.cannotOpen
    else if !address.isTransient then openFile address text
    else if address.isReadOnlyTransient then throw cannotCreateTables
    else return Session.transient (some text)

end Opening

end SchemaPlan
