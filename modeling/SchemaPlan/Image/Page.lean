import SchemaPlan.Relational.Value

/-!
# Pages and records

The image of a database is a sequence of pages of one size.  Records are stored in the cells of
pages; what does not fit into a cell goes on in a chain of further pages.
-/

set_option autoImplicit false

namespace SchemaPlan

/-- The bytes of a database with the size of a page, the size of the part of it that is used and
the number of pages. -/
structure Image where
  bytes : Array UInt8
  pageSize : Nat
  usable : Nat
  pageCount : Nat
deriving DecidableEq, Repr

namespace Image

/-! ## Numbers -/

/-- The byte at an offset.  The last page is filled up with zeros. -/
def byte? (image : Image) (offset : Nat) : Option Nat :=
  match image.bytes[offset]? with
  | some byte => some byte.toNat
  | none => if offset < image.pageCount * image.pageSize then some 0 else none

/-- The number that bytes from an offset on make up. -/
def number? (image : Image) (offset : Nat) : Nat → Option Nat
  | 0 => some 0
  | length + 1 => do
    let high ← image.number? offset length
    return high * 256 + (← image.byte? (offset + length))

/-- The bytes from an offset on. -/
def slice? (image : Image) (offset length : Nat) : Option (List UInt8) :=
  (List.range length).mapM fun place => (image.byte? (offset + place)).map Nat.toUInt8

/-- A number that is negative if its first bit is set. -/
def signed (bits value : Nat) : Int :=
  if value < Nat.pow 2 (bits - 1) then value else value - Nat.pow 2 bits

/-- The number that bytes make up. -/
def bytesValue (bytes : List UInt8) : Nat :=
  bytes.foldl (fun value byte => value * 256 + byte.toNat) 0

/-- A number of seven bits a byte, of which the last one has no highest bit; a ninth byte counts
with all its bits.  The rest is returned with it. -/
def readVarying? : Nat → Nat → List UInt8 → Option (Nat × List UInt8)
  | _, _, [] => none
  | 0, value, byte :: rest => some (value * 256 + byte.toNat, rest)
  | left + 1, value, byte :: rest =>
    if byte.toNat < 128 then some (value * 128 + byte.toNat, rest)
    else readVarying? left (value * 128 + (byte.toNat - 128)) rest

/-- The number of varying length that stands in front of bytes, and the rest. -/
def varying? (bytes : List UInt8) : Option (Nat × List UInt8) := readVarying? 8 0 bytes

/-! ## Records -/

/-- The value of a kind that stands in front of bytes, and the rest. -/
def readValue? (encoding : Relational.Encoding) (kind : Nat) (bytes : List UInt8) :
    Option (Relational.Value × List UInt8) :=
  let whole (length : Nat) : Option (Relational.Value × List UInt8) :=
    if bytes.length < length then none
    else some (.integer (signed (8 * length) (bytesValue (bytes.take length))), bytes.drop length)
  match kind with
  | 0 => some (.null, bytes)
  | 1 => whole 1
  | 2 => whole 2
  | 3 => whole 3
  | 4 => whole 4
  | 5 => whole 6
  | 6 => whole 8
  | 7 =>
    if bytes.length < 8 then none
    else
      let number := Float.ofBits (bytesValue (bytes.take 8)).toUInt64
      some (Relational.Value.ofFloat number, bytes.drop 8)
  | 8 => some (.integer 0, bytes)
  | 9 => some (.integer 1, bytes)
  | 10 | 11 => some (.null, bytes)
  | kind =>
    let length := (kind - 12) / 2
    if bytes.length < length then none
    else if kind % 2 = 0 then some (.blob (bytes.take length), bytes.drop length)
    else some (encoding.textOf (bytes.take length), bytes.drop length)

/-- The kinds of values that the heading of a record lists. -/
def kinds? : Nat → List UInt8 → Option (List Nat)
  | _, [] => some []
  | 0, _ => none
  | fuel + 1, bytes => do
    let (kind, rest) ← varying? bytes
    return kind :: (← kinds? fuel rest)

/-- The values of kinds. -/
def values? (encoding : Relational.Encoding) :
    List Nat → List UInt8 → Option (List Relational.Value)
  | [], _ => some []
  | kind :: kinds, bytes => do
    let (value, rest) ← readValue? encoding kind bytes
    return value :: (← values? encoding kinds rest)

/-- The values of a record: a heading with its own length and the kinds of the values, and the
values after it. -/
def record? (encoding : Relational.Encoding) (bytes : List UInt8) :
    Option (List Relational.Value) := do
  let (length, rest) ← varying? bytes
  let read := bytes.length - rest.length
  if bytes.length < length then none
  let heading := rest.take (length - read)
  values? encoding (← kinds? heading.length heading) (rest.drop (length - read))

end Image

end SchemaPlan
