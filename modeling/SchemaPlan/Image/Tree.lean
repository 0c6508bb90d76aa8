import SchemaPlan.Image.Page

/-!
# Trees of pages

The records of a table or an index are kept in a tree of pages.  The leaves of a table hold records
with their numbers.  An index holds records in all its pages, in order.
-/

set_option autoImplicit false

namespace SchemaPlan.Image

/-- A record in a tree, with its number if it is in a table. -/
structure Entry where
  number : Int
  payload : List UInt8
deriving DecidableEq, Repr

/-- The greatest depth of a tree. -/
def maxDepth : Nat := 20

/-- The length of the heading of an image, after which its first page begins. -/
def headingLength : Nat := 100

/-- The offset at which a page begins. -/
def pageStart (image : Image) (page : Nat) : Nat := (page - 1) * image.pageSize

/-- The offset at which the heading of a page begins. -/
def pageHead (image : Image) (page : Nat) : Nat :=
  if page = 1 then headingLength else image.pageStart page

/-- Whether there is a page with a number. -/
def hasPage (image : Image) (page : Nat) : Bool := decide (0 < page ∧ page ≤ image.pageCount)

/-! ## Cells -/

/-- The greatest number of bytes of a record that a cell holds. -/
def mostLocal (image : Image) (isTable : Bool) : Nat :=
  if isTable then image.usable - 35 else (image.usable - 12) * 64 / 255 - 23

/-- The number of bytes of a record that its cell holds. -/
def localLength (image : Image) (isTable : Bool) (length : Nat) : Nat :=
  let most := image.mostLocal isTable
  let least := (image.usable - 12) * 32 / 255 - 23
  if length ≤ most then length
  else
    let even := least + (length - least) % (image.usable - 4)
    if even ≤ most then even else least

/-- The bytes of a record that chained pages hold. -/
def chained? (image : Image) : Nat → Nat → Nat → Option (List UInt8)
  | _, _, 0 => some []
  | 0, _, _ => none
  | fuel + 1, page, left => do
    if !image.hasPage page then none
    let start := image.pageStart page
    let length := min left (image.usable - 4)
    let bytes ← image.slice? (start + 4) length
    let next ← image.number? start 4
    return bytes ++ (← image.chained? fuel next (left - length))

/-- The bytes of a record of which a cell holds the beginning at an offset. -/
def payload? (image : Image) (isTable : Bool) (offset pageEnd length : Nat) :
    Option (List UInt8) := do
  let held := image.localLength isTable length
  if pageEnd < offset + held then none
  let bytes ← image.slice? offset held
  if held = length then return bytes
  let next ← image.number? (offset + held) 4
  return bytes ++ (← image.chained? image.pageCount next (length - held))

/-- The number of varying length at an offset of a page, and the offset after it. -/
def varyingAt? (image : Image) (offset pageEnd : Nat) : Option (Nat × Nat) := do
  let bytes ← image.slice? offset (min 9 (pageEnd - offset))
  let (value, rest) ← varying? bytes
  return (value, offset + (bytes.length - rest.length))

/-- The record of a cell at an offset. -/
def entry? (image : Image) (isTable : Bool) (offset pageEnd : Nat) : Option Entry := do
  let (length, offset) ← image.varyingAt? offset pageEnd
  if isTable then
    let (number, offset) ← image.varyingAt? offset pageEnd
    return ⟨signed 64 (number % Nat.pow 2 64), ← image.payload? isTable offset pageEnd length⟩
  else return ⟨0, ← image.payload? isTable offset pageEnd length⟩

/-! ## Pages -/

/-- What a page of a tree is. -/
inductive PageKind where
  | leaf
  | branch
deriving DecidableEq, Repr

/-- The kind of a page that its first byte tells. -/
def PageKind.ofByte? (isTable : Bool) (byte : Nat) : Option PageKind :=
  if byte = (if isTable then 13 else 10) then some leaf
  else if byte = (if isTable then 5 else 2) then some branch
  else none

/-- The offsets of the cells of a page. -/
def cells? (image : Image) (page : Nat) (kind : PageKind) : Option (List Nat) := do
  let head := image.pageHead page
  let first := head + (if kind = .leaf then 8 else 12)
  (List.range (← image.number? (head + 3) 2)).mapM fun place => do
    let offset ← image.number? (first + 2 * place) 2
    if offset < image.usable then some (image.pageStart page + offset) else none

/-- The records of a tree from a page down. -/
def entriesBelow? (image : Image) (isTable : Bool) : Nat → Nat → Option (List Entry)
  | 0, _ => none
  | depth + 1, page => do
    if !image.hasPage page then none
    let head := image.pageHead page
    let pageEnd := image.pageStart page + image.pageSize
    let kind ← PageKind.ofByte? isTable (← image.byte? head)
    let cells ← image.cells? page kind
    match kind with
    | .leaf => cells.mapM fun cell => image.entry? isTable cell pageEnd
    | .branch =>
      let parts ← cells.mapM fun cell => do
        let below ← image.entriesBelow? isTable depth (← image.number? cell 4)
        if isTable then return below
        else return below ++ [← image.entry? isTable (cell + 4) pageEnd]
      return parts.flatten ++
        (← image.entriesBelow? isTable depth (← image.number? (head + 8) 4))

/-- The records of a tree. -/
def entries? (image : Image) (isTable : Bool) (root : Nat) : Option (List Entry) :=
  image.entriesBelow? isTable maxDepth root

end SchemaPlan.Image
