import SchemaPlan.Database.Address
import SchemaPlan.Files.Tree

/-!
# Sessions

A session is an open database.  It may be kept in a file, either directly or with a log beside the
file, to which changes are written until the session ends.  At its end the log is folded into the
file and removed together with its index.  When the log has been overwritten in the meantime, the
parts that it held are lost; when nothing of it is left it is not folded and stays.
-/

set_option autoImplicit false

namespace SchemaPlan

/-- The file of an open database. -/
structure DatabaseFile where
  place : Place
  /-- What was asked for when the database was opened. -/
  address : Address
  /-- Whether changes are written to a log. -/
  usesLog : Bool
  /-- Whether the index of the log cannot be written, so that nothing can be remembered. -/
  isForgetful : Bool
  /-- Whether the file says that there is a log. -/
  isMarked : Bool
  /-- What the file held once the database was open. -/
  initial : FileContent
  /-- The parts that had been lost by then. -/
  initialLost : List Part
  /-- What stood in the place of the index of the log once the database was open. -/
  index : Option FileEntry
  /-- The parts that have been written to the log. -/
  logged : List Part
deriving DecidableEq, Repr

namespace DatabaseFile

/-! ## Places -/

/-- The place of the journal, which takes up what a change of the file itself overwrites. -/
def journal (place : Place) : Place := place.beside "-journal"

/-- The place of the log. -/
def log (place : Place) : Place := place.beside "-wal"

/-- The place of the index of the log. -/
def logIndex (place : Place) : Place := place.beside "-shm"

/-- The place of the directory that stands beside a file while it is used. -/
def guardian (place : Place) : Place := place.beside ".lock"

/-- Whether the log has an index in a file of its own. -/
def hasIndex (address : Address) : Bool := address.medium != .exclusive || address.access == .read

/-- The files without the log of a database, and without its index if it has one. -/
def withoutLog (files : FileTree) (place : Place) (address : Address) : FileTree :=
  let unlogged := files.remove (log place)
  if hasIndex address then unlogged.remove (logIndex place) else unlogged

/-! ## Parts -/

/-- What the file holds now. -/
def current? (file : DatabaseFile) (files : FileTree) : Option FileContent :=
  match files.entry? file.place with
  | some (.file content) => some content
  | _ => none

/-- The parts that the log holds. -/
def held (file : DatabaseFile) (files : FileTree) : List Part :=
  match files.entry? (log file.place) with
  | some (.file (.log _ parts)) => parts
  | _ => []

/-- The parts of a database that the file does not hold any more. -/
def lost (file : DatabaseFile) (files : FileTree) (database : Database) : List Part :=
  match file.current? files with
  | some content => if content = file.initial then file.initialLost else database.parts
  | none => database.parts

/-- The parts of a database that neither the log nor the file holds any more. -/
def gone (file : DatabaseFile) (files : FileTree) (database : Database) : List Part :=
  Part.both (Part.without (file.lost files database) file.logged)
    (Part.without file.logged (file.held files))

end DatabaseFile

/-- An open database. -/
structure Session where
  connection : Connection
  /-- The address under which the database was opened. -/
  address : Option String
  /-- The file that it is kept in. -/
  file : Option DatabaseFile
deriving DecidableEq, Repr

namespace Session

/-- A new database that is kept nowhere. -/
def transient (address : Option String) : Session :=
  ⟨{ database := { Database.empty.withAllTables with version := Database.latestVersion } },
    address, none⟩

/-- Whether changes are written ahead to a log beside the file. -/
def writesAhead (session : Session) : Bool := session.file.any (·.usesLog)

/-- Adds what has been written to the log. -/
def keepInLog (file : DatabaseFile) (connection : Connection) (files : FileTree) :
    DatabaseFile × FileTree :=
  let held := Part.both (file.held files) connection.written
  ({ file with logged := Part.both file.logged connection.written },
    files.put (DatabaseFile.log file.place) (.file (.log connection.database held)))

/-- Writes what has been written to the file itself. -/
def keepInFile (file : DatabaseFile) (connection : Connection) (files : FileTree) :
    DatabaseFile × FileTree :=
  let content := .database connection.database file.isMarked connection.footing.unreadable
  (file, files.put file.place (.file content))

/-- The files without the journal, if it has been used. -/
def withoutJournal (file : DatabaseFile) (connection : Connection) (files : FileTree) : FileTree :=
  if connection.hasWritten && !file.usesLog then files.remove (DatabaseFile.journal file.place)
  else files

/-- Keeps what has been written. -/
def keep (session : Session) (files : FileTree) : Session × FileTree :=
  let connection := session.connection
  let kept := { connection with written := [], hasWritten := false }
  match session.file with
  | some file =>
    let files := withoutJournal file connection files
    let (file, files) :=
      if connection.written.isEmpty then (file, files)
      else if file.usesLog then keepInLog file connection files
      else keepInFile file connection files
    ({ session with connection := kept, file := some file }, files)
  | none => ({ session with connection := kept }, files)

/-- The files once the log of a session has been folded into its file. -/
def folded (file : DatabaseFile) (database : Database) (files : FileTree) : FileTree :=
  if file.logged.isEmpty then files
  else
    files.put file.place
      (.file (.database database file.isMarked (file.gone files database)))

/-- Ends a session. -/
def close (session : Session) (files : FileTree) : FileTree :=
  match session.file with
  | some file =>
    if !file.usesLog || session.connection.footing.isReadOnly then files
    else if !file.logged.isEmpty && (file.held files).isEmpty then files
    else
      DatabaseFile.withoutLog (folded file session.connection.database files) file.place
        file.address
  | none => files

end Session

end SchemaPlan
