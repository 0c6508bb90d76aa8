import SchemaPlan.Relational.Document.Path

/-!
# Documents as bytes

In bytes a document begins with a heading that tells its kind and the length of what follows.  A
document with others inside is followed by these, one after the other.
-/

set_option autoImplicit false

namespace SchemaPlan.Relational.Document

/-! ## Writing -/

/-- The bytes of characters. -/
def utf8 (characters : List Char) : List UInt8 := (String.ofList characters).toUTF8.toList

/-- A number in some bytes, the greatest one first. -/
def bigEndian (number : Nat) : Nat → List UInt8
  | 0 => []
  | count + 1 => (number / Nat.pow 256 count % 256).toUInt8 :: bigEndian number count

/-- The heading of a document of a kind with a length. -/
def heading (code length : Nat) : List UInt8 :=
  let first (size : Nat) : UInt8 := (code + 16 * size).toUInt8
  if length ≤ 11 then [first length]
  else if length < 256 then first 12 :: bigEndian length 1
  else if length < 65536 then first 13 :: bigEndian length 2
  else first 14 :: bigEndian length 4

/-- Bytes with a heading before them. -/
def headed (code : Nat) (content : List UInt8) : List UInt8 :=
  heading code content.length ++ content

/-- The number for how a text is to be taken. -/
def wordingCode : Wording → Nat
  | .plain => 7
  | .escaped => 8
  | .relaxed => 9
  | .raw => 10

/-- The bytes of a text. -/
def labelBytes (label : Label) : List UInt8 :=
  headed (wordingCode label.wording) (utf8 label.content)

mutual

/-- The bytes of a document. -/
def bytes : Document → List UInt8
  | null => headed 0 []
  | truth true => headed 1 []
  | truth false => headed 2 []
  | number isReal isRelaxed digits =>
    headed (3 + (if isRelaxed then 1 else 0) + if isReal then 2 else 0) (utf8 digits)
  | text label => labelBytes label
  | array items => headed 11 (itemBytes items)
  | object members => headed 12 (membersBytes members)

/-- The bytes of documents. -/
def itemBytes : List Document → List UInt8
  | [] => []
  | item :: rest => bytes item ++ itemBytes rest

/-- The bytes of a member of an object. -/
def memberBytes : Member → List UInt8
  | ⟨label, document⟩ => labelBytes label ++ bytes document

/-- The bytes of members of an object. -/
def membersBytes : List Member → List UInt8
  | [] => []
  | member :: rest => memberBytes member ++ membersBytes rest

end

/-! ## Reading -/

/-- The kind and the content of the document at the front of bytes, and the rest. -/
def split? (bytes : List UInt8) : Option (Nat × List UInt8 × List UInt8) := do
  let first ← bytes.head?
  let size := first.toNat / 16
  let count := if size ≤ 11 then 0 else Nat.pow 2 (size - 12)
  let counted := (bytes.drop 1).take count
  if counted.length < count then none
  let length := if size ≤ 11 then size
    else counted.foldl (fun number byte => number * 256 + byte.toNat) 0
  let rest := bytes.drop (1 + count)
  if rest.length < length then none
  return (first.toNat % 16, rest.take length, rest.drop length)

/-- The characters of bytes. -/
def chars? (bytes : List UInt8) : Option (List Char) :=
  (String.fromUTF8? ⟨bytes.toArray⟩).map (·.toList)

/-- The way to take a text with a number. -/
def wording? (code : Nat) : Option Wording :=
  [(7, Wording.plain), (8, .escaped), (9, .relaxed), (10, .raw)].lookup code

/-- The members that labels and documents in turn make up. -/
def members? : List Document → Option (List Member)
  | [] => some []
  | text label :: document :: rest => do return ⟨label, document⟩ :: (← members? rest)
  | _ => none

mutual

/-- The document that bytes of a kind make up, in at most as many steps as given. -/
def ofContent? : Nat → Nat → List UInt8 → Option Document
  | 0, _, _ => none
  | fuel + 1, code, content =>
    match code with
    | 0 => if content.isEmpty then some null else none
    | 1 => if content.isEmpty then some (truth true) else none
    | 2 => if content.isEmpty then some (truth false) else none
    | 3 | 4 | 5 | 6 =>
      (chars? content).map (number (decide (5 ≤ code)) (decide (code % 2 = 0)))
    | 11 => (itemsOf? fuel content).map array
    | 12 => do return object (← members? (← itemsOf? fuel content))
    | code => do return text ⟨← wording? code, ← chars? content⟩

/-- The documents that bytes make up. -/
def itemsOf? : Nat → List UInt8 → Option (List Document)
  | _, [] => some []
  | 0, _ => none
  | fuel + 1, bytes => do
    let (code, content, rest) ← split? bytes
    return (← ofContent? fuel code content) :: (← itemsOf? fuel rest)

end

/-- Whether bytes look like a document. -/
def looksLike (bytes : List UInt8) : Bool :=
  match split? bytes with
  | some (code, content, []) => decide (code ≤ 12) && (decide (2 < code) || content.isEmpty)
  | _ => false

/-- The document that bytes make up. -/
def ofBytes? (bytes : List UInt8) : Option Document := do
  let (code, content, rest) ← split? bytes
  if rest.isEmpty then ofContent? (bytes.length + 1) code content else none

end SchemaPlan.Relational.Document
