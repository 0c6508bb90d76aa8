import SchemaPlan.Image.Page

/-!
# Journals and logs

A journal keeps pages of an image as they were before a change.  Rolling it back puts them in their
places again and gives the image the number of pages that it had.  A journal has several parts,
each with a heading; what does not look like a heading or a record ends it.

A log holds pages of an image as they are after changes, in frames.  Every frame carries the salts
of the heading and a sum over all that comes before it; the first frame that does not ends the log.
Changes count up to the last frame that ends one.
-/

set_option autoImplicit false

namespace SchemaPlan

/-- The heading of a part of a journal. -/
structure JournalHead where
  /-- The number of records in the part. -/
  count : Nat
  /-- The number from which the sums of the records start. -/
  seed : Nat
  /-- The number of pages that the image had. -/
  pageCount : Nat
  /-- The size of the room for a heading. -/
  sectorSize : Nat
  pageSize : Nat
deriving DecidableEq, Repr

namespace JournalHead

/-- The bytes with which a heading begins. -/
def magic : List UInt8 := [0xd9, 0xd5, 0x05, 0xf9, 0x20, 0xa1, 0x63, 0xd7]

/-- The room that the first heading must have. -/
def leastRoom : Nat := 512

/-- The heading at an offset. -/
def read? (journal : Image) (offset : Nat) : Option JournalHead := do
  if (← journal.slice? offset 8) ≠ magic then none
  return {
    count := ← journal.number? (offset + 8) 4
    seed := ← journal.number? (offset + 12) 4
    pageCount := ← journal.number? (offset + 16) 4
    sectorSize := ← journal.number? (offset + 20) 4
    pageSize := ← journal.number? (offset + 24) 4 }

/-- The first heading of a journal.  It may leave the size of a page open, which is the usual one
then. -/
def first? (usualSize : Nat) (journal : Image) : Option JournalHead := do
  if journal.pageSize < leastRoom then none
  let head ← read? journal 0
  let head := if head.pageSize = 0 then { head with pageSize := usualSize } else head
  let isSize (size : Nat) : Bool := decide (size ≤ 65536 ∧ Nat.pow 2 size.log2 = size)
  if isSize head.pageSize && isSize head.sectorSize && decide (512 ≤ head.pageSize) &&
      decide (32 ≤ head.sectorSize) then
    return head
  else none

/-- The length of a record: the number of a page, the page and its sum. -/
def recordLength (head : JournalHead) : Nat := head.pageSize + 8

/-- The number of records in a part, which may be left open. -/
def records (head : JournalHead) (journal : Image) : Nat :=
  if head.count = Nat.pow 2 32 - 1 then (journal.pageSize - head.sectorSize) / head.recordLength
  else head.count

/-- The page that no image uses. -/
def unusedPage (head : JournalHead) : Nat := Nat.pow 2 30 / head.pageSize + 1

end JournalHead

namespace Image

/-- The bytes of a file as a single page. -/
def whole (bytes : List UInt8) : Image := ⟨bytes.toArray, bytes.length, bytes.length, 1⟩

/-- The most pages without bytes of their own that an image is given. -/
def mostBlankPages : Nat := 256

/-- The first pages in some bytes.  What is missing is filled up with zeros. -/
def pagesOf (pageSize count : Nat) (bytes : List UInt8) : List (List UInt8) :=
  (List.range count).map fun place =>
    let page := (bytes.drop (place * pageSize)).take pageSize
    page ++ List.replicate (pageSize - page.length) 0

/-! ## Records -/

/-- The sum of a page in a journal: the seed and every two hundredth byte from the end. -/
def journalSum (seed : Nat) (page : List UInt8) : Nat :=
  let places := (List.range (page.length / 200)).map fun place => page.length - 200 * (place + 1)
  places.foldl (fun sum place => sum + (page.getD place 0).toNat) seed % Nat.pow 2 32

/-- Puts the pages of records back from an offset on, and returns where the records end, unless the
journal ends before. -/
def replayRecords (journal : Image) (head : JournalHead) :
    Nat → Nat → List (List UInt8) → List (List UInt8) × Option Nat
  | 0, offset, pages => (pages, some offset)
  | count + 1, offset, pages =>
    match journal.number? offset 4, journal.slice? (offset + 4) head.pageSize with
    | some number, some page =>
      let next := offset + head.recordLength
      if number = 0 || number = head.unusedPage then (pages, none)
      else if pages.length < number then replayRecords journal head count next pages
      else if journal.number? (next - 4) 4 = some (journalSum head.seed page) then
        replayRecords journal head count next (pages.set (number - 1) page)
      else (pages, none)
    | _, _ => (pages, none)

/-- Puts the pages of the parts of a journal back from an offset on. -/
def replayParts (journal : Image) (first : JournalHead) :
    Nat → Nat → List (List UInt8) → List (List UInt8)
  | 0, _, pages => pages
  | fuel + 1, offset, pages =>
    let start := (offset + first.sectorSize - 1) / first.sectorSize * first.sectorSize
    if journal.pageSize < start + first.sectorSize then pages
    else
      match JournalHead.read? journal start with
      | none => pages
      | some head =>
        let head := { head with sectorSize := first.sectorSize, pageSize := first.pageSize }
        let next := start + first.sectorSize
        match replayRecords journal head (head.records journal) next pages with
        | (pages, some next) => replayParts journal first fuel next pages
        | (pages, none) => pages

/-! ## Rolling back -/

/-- The size of the pages of an image if nothing else tells it. -/
def usualPageSize (main : Image) : Nat :=
  let told := match main.number? 16 2 with
    | some 1 => 65536
    | some size => size
    | none => 0
  if 512 ≤ told ∧ Nat.pow 2 told.log2 = told then told else 4096

/-- The bytes of an image once a journal has been rolled back. -/
def rolledBack (journal main : List UInt8) : List UInt8 :=
  match JournalHead.first? (usualPageSize (whole main)) (whole journal) with
  | none => main
  | some head =>
    let known := (main.length + journal.length) / head.pageSize + mostBlankPages
    let pages := pagesOf head.pageSize (min head.pageCount known) main
    (replayParts (whole journal) head journal.length 0 pages).flatten

end Image

/-! ## Logs -/

/-- The heading of a log. -/
structure LogHead where
  /-- Whether the words of sums have their highest byte first. -/
  isBig : Bool
  pageSize : Nat
  salts : List UInt8
deriving DecidableEq, Repr

/-- What a log holds: the number of pages of the image and those that have been changed, the latest
first. -/
structure LogPages where
  pageSize : Nat
  pageCount : Nat
  pages : List (Nat × List UInt8)
deriving DecidableEq, Repr

/-- What is found in a log. -/
inductive LogReading where
  | nothing
  /-- A log of another form. -/
  | unknown
  | pages (found : LogPages)
deriving DecidableEq, Repr

namespace LogHead

/-- The length of a heading. -/
def length : Nat := 32

/-- The length of what stands before the page of a frame. -/
def frameHeadLength : Nat := 24

/-- The number with which a heading begins, apart from its last bit. -/
def magic : Nat := 0x377f0682

/-- The number that tells the form of a log. -/
def form : Nat := 3007000

/-- The heading of a log, whose sum need not be right. -/
def read? (log : Image) : Option LogHead := do
  if log.pageSize ≤ length then none
  let found ← log.number? 0 4
  let pageSize ← log.number? 8 4
  let isSize := decide (512 ≤ pageSize ∧ pageSize ≤ 65536 ∧ Nat.pow 2 pageSize.log2 = pageSize)
  if found / 2 = magic / 2 && isSize then
    return ⟨found % 2 = 1, pageSize, ← log.slice? 16 8⟩
  else none

end LogHead

namespace Image

/-! ## Sums -/

/-- The word that four bytes make up. -/
def logWord (isBig : Bool) (bytes : List UInt8) : UInt32 :=
  (bytesValue (if isBig then bytes else bytes.reverse)).toUInt32

/-- The sum of a log, continued over pairs of words. -/
def logSum (isBig : Bool) : UInt32 × UInt32 → List UInt8 → UInt32 × UInt32
  | sum, a :: b :: c :: d :: e :: f :: g :: h :: rest =>
    let first := sum.1 + logWord isBig [a, b, c, d] + sum.2
    let second := sum.2 + logWord isBig [e, f, g, h] + first
    logSum isBig (first, second) rest
  | sum, _ => sum

/-- Whether bytes tell a sum. -/
def tellsSum (sum : UInt32 × UInt32) (bytes : List UInt8) : Bool :=
  bytesValue (bytes.take 4) == sum.1.toNat && bytesValue ((bytes.drop 4).take 4) == sum.2.toNat

/-! ## Frames -/

/-- Reads frames from an offset on, given the sum and the pages before it and what has been found
by then. -/
def readFrames (log : Image) (head : LogHead) :
    Nat → Nat → UInt32 × UInt32 → List (Nat × List UInt8) → LogReading → LogReading
  | 0, _, _, _, found => found
  | fuel + 1, offset, sum, pages, found =>
    match log.slice? offset LogHead.frameHeadLength,
        log.slice? (offset + LogHead.frameHeadLength) head.pageSize with
    | some frameHead, some page =>
      let sum := logSum head.isBig (logSum head.isBig sum (frameHead.take 8)) page
      let number := bytesValue (frameHead.take 4)
      let count := bytesValue ((frameHead.drop 4).take 4)
      if (frameHead.drop 8).take 8 = head.salts ∧ number ≠ 0 ∧ tellsSum sum (frameHead.drop 16) then
        let pages := (number, page) :: pages
        let found := if count = 0 then found else .pages ⟨head.pageSize, count, pages⟩
        let next := offset + LogHead.frameHeadLength + head.pageSize
        readFrames log head fuel next sum pages found
      else found
    | _, _ => found

end Image

/-- What is found in the bytes of a log. -/
def LogReading.ofBytes (bytes : List UInt8) : LogReading :=
  let log := Image.whole bytes
  match LogHead.read? log with
  | none => nothing
  | some head =>
    let sum := Image.logSum head.isBig (0, 0) (bytes.take 24)
    if !Image.tellsSum sum (bytes.drop 24) then nothing
    else if log.number? 4 4 ≠ some LogHead.form then unknown
    else Image.readFrames log head bytes.length LogHead.length sum [] nothing

namespace LogPages

/-- The bytes of an image once the pages of a log are put into it. -/
def applied (found : LogPages) (main : List UInt8) : List UInt8 :=
  let known := main.length / found.pageSize + found.pages.length + Image.mostBlankPages
  let pages := Image.pagesOf found.pageSize (min found.pageCount known) main
  (pages.mapIdx fun place page => (found.pages.lookup (place + 1)).getD page).flatten

end LogPages

end SchemaPlan
