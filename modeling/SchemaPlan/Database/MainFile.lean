import SchemaPlan.Files.Content

/-!
# Files of databases

What the file of a database holds before it is opened: nothing yet, a database, or something else.
A journal beside it may hold pages as they were before, which are put back.
-/

set_option autoImplicit false

namespace SchemaPlan

/-- What the file of a database holds before it is opened. -/
inductive MainFile where
  /-- Nothing, or a single byte, which counts as nothing. -/
  | unwritten
  | written (content : Database) (isMarked : Bool) (lost : List Part)
  /-- Something that is no database. -/
  | foreign
deriving DecidableEq, Repr

namespace MainFile

/-- What bytes hold, if they are to be a database. -/
def ofBytes (bytes : List UInt8) : MainFile :=
  if bytes.length ≤ 1 then unwritten
  else
    match ImageContent.ofBytes? bytes with
    | some image =>
      written (.ofRelations image.relations image.version) image.isLogged (image.lost.map .tree)
    | none => foreign

/-- What a file holds, if it is to be a database. -/
def ofContent : FileContent → MainFile
  | .database content isMarked lost =>
    if Part.heading ∈ lost then foreign else written content isMarked lost
  | .firstPage => written Database.empty true []
  | content =>
    match content.bytes? with
    | some bytes => ofBytes bytes
    | none => foreign

/-- What the database in a file holds. -/
def content : MainFile → Database
  | written content _ _ => content
  | _ => Database.empty

/-- Whether a file says that there is a log beside it. -/
def isMarked : MainFile → Bool
  | written _ isMarked _ => isMarked
  | _ => false

/-- The parts that a file has lost. -/
def lost : MainFile → List Part
  | written _ _ lost => lost
  | _ => []

/-- What a file with some content holds once it says that there is a log. -/
def marked (main : MainFile) (content : FileContent) : FileContent :=
  match main, content.bytes? with
  | written _ _ _, some bytes => .ofBytes (Image.marked bytes)
  | written content _ lost, none => .database content true lost
  | _, _ => .firstPage

end MainFile

namespace FileContent

/-- The number of pages that a database has once a journal with a heading has been rolled back. -/
def pagesBefore (head : JournalHead) (stored : Database) : Nat :=
  if stored.relations.isSome then head.pageCount
  else (head.pageCount * head.pageSize + pageLength - 1) / pageLength

/-- What a file holds once a journal has been rolled back.  A database that is not told byte by
byte loses its heading if it becomes too short. -/
def rolledBack (content journal : FileContent) : FileContent :=
  match journal.bytes?, content with
  | none, _ => content
  | some journal, database stored isLogged lost =>
    match JournalHead.first? pageLength (Image.whole journal) with
    | none => content
    | some head =>
      if head.pageCount = 0 then text ""
      else if stored.parts.length ≤ pagesBefore head stored then content
      else database stored isLogged (Part.both [Part.heading] lost)
  | some journal, content =>
    match content.bytes? with
    | some bytes => .ofBytes (Image.rolledBack journal bytes)
    | none => content

end FileContent

end SchemaPlan
