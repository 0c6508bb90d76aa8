import SchemaPlan.Database.Opening

/-!
# Renewal of sessions

The files of an open database may be changed by others.  Before every use of the database a session
looks at them again: what it has read and written once it remembers, unless it cannot have an index
of its log or the index has been lost.  What it neither remembers nor finds it cannot read.
-/

set_option autoImplicit false

namespace SchemaPlan

namespace Session

/-- A session in which nothing can be read. -/
def cutOff (session : Session) : Session :=
  { session with connection :=
      { session.connection with
        footing := { session.connection.footing with unreadable := [Part.heading] } } }

/-- Whether a file without content in its log has become too short for its database. -/
def isTooShort (file : DatabaseFile) (files : FileTree) (database : Database) : Bool :=
  file.usesLog && file.logged.isEmpty &&
    match file.current? files with
    | some content =>
      content != file.initial && decide (content.pages < database.parts.length)
    | none => true

/-- A session with a log, or of a file that nobody changes, once its files have been looked at
again.  What is remembered need not be read. -/
def renewLogged (session : Session) (file : DatabaseFile) (files : FileTree) : Session :=
  let connection := session.connection
  if isTooShort file files connection.database then session.cutOff
  else
    let gone := file.gone files connection.database
    { session with connection :=
        { connection with
          footing := { connection.footing with
            unreadable := Part.without gone connection.remembered } } }

/-- A session with what has been found in its file.  Tables that are missing from it are not
missed at once. -/
def withFound (session : Session) (main : MainFile) (footing : Footing) : Session :=
  let before := session.connection
  let database := main.content
  let outdated := before.outdated ++ before.database.tables.filter (!database.hasTable ·)
  { session with connection := { before with database, footing, outdated } }

/-- A session that remembers nothing once its files have been looked at again. -/
def renewForgetful (session : Session) (file : DatabaseFile) (files : FileTree) : Session :=
  let log := Opening.contentAt files (DatabaseFile.log file.place)
  let main := MainFile.ofContent ((Opening.contentAt files file.place).withLog log)
  if main = .foreign || log.isSalted then
    session.cutOff
  else session.withFound main { session.connection.footing with unreadable := main.lost }

/-- A session without a log once its files have been looked at again. -/
def renewUnlogged (session : Session) (file : DatabaseFile) (files : FileTree) :
    Session × FileTree :=
  match (Opening.lookAgain file.address file.place).run files with
  | (.ok main, files) =>
    (session.withFound main (Opening.footing file.address file.place main files), files)
  | (.error _, files) => (session.cutOff, files)

/-- Whether the index of the log has been overwritten, and the log has nothing from which it could
be made again. -/
def hasLostIndex (file : DatabaseFile) (files : FileTree) : Bool :=
  file.usesLog && !file.isForgetful && DatabaseFile.hasIndex file.address &&
    files.entry? (DatabaseFile.logIndex file.place) != file.index &&
    (file.logged.isEmpty || !(Part.without file.logged (file.held files)).isEmpty)

/-- A session that makes the index of the log again if it has been lost.  It forgets what it has
read and written. -/
def reindexed (session : Session) (files : FileTree) : Session :=
  match session.file with
  | some file =>
    if hasLostIndex file files then
      let main := MainFile.ofContent (Opening.contentAt files file.place)
      let found := if main = .foreign then session
        else session.withFound main session.connection.footing
      { found with
          connection := { found.connection with remembered := [] }
          file := some { file with
            logged := []
            initial := if main = .foreign then file.initial
              else Opening.contentAt files file.place
            initialLost := if main = .foreign then file.initialLost else main.lost
            index := files.entry? (DatabaseFile.logIndex file.place) } }
    else session
  | none => session

/-- A session once its files have been looked at again. -/
def renew (session : Session) (files : FileTree) : Session × FileTree :=
  let session := session.reindexed files
  match session.file with
  | none => (session, files)
  | some file =>
    if file.isForgetful then (session.renewForgetful file files, files)
    else if file.usesLog || file.address.isFrozen then (session.renewLogged file files, files)
    else session.renewUnlogged file files

/-- The files once a session has ended. -/
def finish (session : Session) (files : FileTree) : FileTree :=
  (session.reindexed files).close files

end Session

end SchemaPlan
