import SchemaPlan.Database.Basic
import SchemaPlan.Image.Journal
import SchemaPlan.Image.Schema

/-!
# Contents of files

A file holds bytes, which may be a text or the image of a database, or what an open database has
written.  Of the latter it is kept what is stored and not in which bytes.
-/

set_option autoImplicit false

namespace SchemaPlan

/-- What a file holds. -/
inductive FileContent where
  | text (content : String)
  /-- Bytes that are no text in UTF-8. -/
  | binary (bytes : List UInt8)
  /-- A database, whether the file says that changes are kept in a log beside it, and the parts
  that have been lost. -/
  | database (content : Database) (isLogged : Bool) (lost : List Part)
  /-- The file of a logged database without tables into which no log has been folded yet. -/
  | firstPage
  /-- A log, with the content that the database has once the log is folded into it, and the parts
  of the database that the log holds. -/
  | log (content : Database) (held : List Part)
  /-- The index of a log. -/
  | logIndex
deriving DecidableEq, Repr

namespace FileContent

/-- The content that bytes make up. -/
def ofBytes (bytes : List UInt8) : FileContent :=
  match String.fromUTF8? ⟨bytes.toArray⟩ with
  | some content => text content
  | none => binary bytes

/-- The bytes of a first page: a heading of a hundred bytes, with the lengths of a page and of the
file, and an empty page after it. -/
def firstPageBytes : List Nat :=
  Image.magic.map UInt8.toNat ++
    [0x10, 0, 2, 2, 0, 0x40, 0x20, 0x20, 0, 0, 0, 1, 0, 0, 0, 1] ++ List.replicate 60 0 ++
    [0, 0, 0, 1, 0, 0x2e, 0x7a, 0x70] ++ [0x0d, 0, 0, 0, 0, 0x10, 0, 0] ++ List.replicate 3988 0

/-- The text in a file.  A first page is one too, since none of its bytes is beyond ASCII. -/
def text? : FileContent → Option String
  | text content => some content
  | firstPage => some (String.ofList (firstPageBytes.map Char.ofNat))
  | _ => none

/-- The bytes in a file that is told byte by byte. -/
def bytes? : FileContent → Option (List UInt8)
  | text content => some content.toUTF8.toList
  | binary bytes => some bytes
  | firstPage => some (firstPageBytes.map Nat.toUInt8)
  | _ => none

/-- The length in bytes of a page, the unit in which a database is written. -/
def pageLength : Nat := 4096

/-- The length of a file in bytes, where a database counts with its least length. -/
def size : FileContent → Nat
  | text content => Text.byteLength content.toList
  | binary bytes => bytes.length
  | database content _ _ => content.parts.length * pageLength
  | firstPage | log _ _ | logIndex => pageLength

/-- The number of pages that a file takes up.  A single byte counts as nothing, and an image has
pages of its own. -/
def pages (content : FileContent) : Nat :=
  match content.bytes?.bind Image.ofBytes? with
  | some image => image.pageCount
  | none => if content.size ≤ 1 then 0 else (content.size + pageLength - 1) / pageLength

/-- Whether a file is no log, but long enough for the heading of a log and without zeros where the
heading of a log has its two salts. -/
def isSalted (content : FileContent) : Bool :=
  match content.bytes? with
  | some bytes =>
    decide (LogHead.length ≤ bytes.length) && ((bytes.drop 16).take 8).any (· != 0) &&
      (LogHead.read? (Image.whole bytes)).isNone
  | none => true

/-- What is found in a file as in a log. -/
def logReading (content : FileContent) : LogReading :=
  match content.bytes? with
  | some bytes => LogReading.ofBytes bytes
  | none => .nothing

/-- What a file holds once the pages of a log have been put into it. -/
def withLog (content log : FileContent) : FileContent :=
  match content.bytes?, log.logReading with
  | some bytes, .pages found => ofBytes (found.applied bytes)
  | _, _ => content

/-- Whether the first byte of a file is zero. -/
def startsWithZero : FileContent → Bool
  | text content => content.toList.head? == some '\x00'
  | binary bytes => bytes.head? == some 0
  | database _ _ _ | firstPage | log _ _ | logIndex => false

end FileContent

end SchemaPlan
