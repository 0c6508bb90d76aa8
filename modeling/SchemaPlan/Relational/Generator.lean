import SchemaPlan.Relational.Basic
import SchemaPlan.Relational.Function.Document

/-!
# Functions that give rows

A function in the place of a table gives rows for the values that it takes.  The parts of a document
are numbered by where they would begin among its bytes.
-/

set_option autoImplicit false

namespace SchemaPlan.Relational

/-! ## Parts of documents -/

namespace Document

/-- The length of what comes before the content of a document in its bytes. -/
def headingLength : Document → Nat
  | array items => (heading 11 (itemBytes items).length).length
  | object members => (heading 12 (membersBytes members).length).length
  | _ => 1

/-- A part of a document. -/
structure Part where
  key : Value
  document : Document
  /-- Where the part begins, with its label if it has one. -/
  start : Nat
  /-- Where the document begins. -/
  origin : Nat
  parent : Option Nat
  /-- The path to the part, and the path to what it is a part of. -/
  full : List Char
  path : List Char

/-- The path to a member with a label, after the path to its object. -/
def labelPath (label : Label) : List Char :=
  let content := label.content
  let isPlain := content.head?.any Char.isAlpha && content.all Char.isAlphanum
  if isPlain then '.' :: content else '.' :: '\x22' :: content ++ ['\x22']

/-- The items of an array from a place on, which begin somewhere, as parts. -/
def itemParts (parent : Nat) (path : List Char) : Nat → Nat → List Document → List Part
  | _, _, [] => []
  | place, start, document :: rest =>
    { key := .integer place
      document, start, path
      origin := start
      parent := some parent
      full := path ++ '[' :: (toString place).toList ++ [']'] } ::
      itemParts parent path (place + 1) (start + document.bytes.length) rest

/-- The members of an object, which begin somewhere, as parts. -/
def memberParts (parent : Nat) (path : List Char) : Nat → List Member → List Part
  | _, [] => []
  | start, ⟨label, document⟩ :: rest =>
    let origin := start + (labelBytes label).length
    { key := label.value
      document, start, origin, path
      parent := some parent
      full := path ++ labelPath label } ::
      memberParts parent path (origin + document.bytes.length) rest

/-- The parts of a part. -/
def Part.parts (part : Part) : List Part :=
  let start := part.origin + part.document.headingLength
  match part.document with
  | array items => itemParts part.start part.full 0 start items
  | object members => memberParts part.start part.full start members
  | _ => []

/-- A part with all parts inside, nested up to a depth. -/
def Part.tree : Nat → Part → List Part
  | 0, part => [part]
  | depth + 1, part => part :: part.parts.flatMap (tree depth)

/-- The part at the end of a path, which has at most as many steps as given. -/
def Part.find? : Nat → List Char → Part → Place Part
  | _, [], part => .here part
  | 0, _, _ => .unfit
  | fuel + 1, '.' :: path, part =>
    match labelStep? path, part.document with
    | none, _ => .unfit
    | some (label, path), .object members =>
      match members.findIdx? (·.label.isSame label) with
      | some place =>
        match part.parts[place]? with
        | some inner => find? fuel path inner
        | none => .missing
      | none => .missing
    | some _, _ => .missing
  | fuel + 1, '[' :: path, part =>
    match part.document with
    | .array items =>
      match placeStep? items.length path with
      | none => .unfit
      | some (none, _) => .missing
      | some (some place, path) =>
        match part.parts[place]? with
        | some inner => find? fuel path inner
        | none => .missing
    | _ => .missing
  | _, _, _ => .unfit

/-- A whole document as a part. -/
def whole (document : Document) : Part :=
  { key := .null, document, start := 0, origin := 0, parent := none, full := ['$'], path := ['$'] }

/-! ## Paths of parts -/

/-- The length of the path to what a part is in whose path is given: the longest part of the path
before a step at which something begins with the part. -/
def outerLength (document : Document) (path : List Char) (start : Nat) : Nat :=
  let steps := (List.range path.length).filter fun place =>
    decide (0 < place) && ((path[place]?).any fun mark => mark == '[' || mark == '.')
  let isOuter (length : Nat) : Bool :=
    match (whole document).find? (length + 1) ((path.take length).drop 1) with
    | .here part => part.origin + part.document.headingLength == start
    | _ => false
  (steps.reverse.find? isOuter).getD 1

/-- The key that is read from the last steps of a path. -/
def keyOf (steps : List Char) : Value :=
  match steps with
  | [] => .null
  | '[' :: rest => .integer (Value.wholeOf (.ofChars rest))
  | _ :: '\x22' :: rest => .ofChars rest.dropLast
  | _ :: rest => .ofChars rest

/-- The part at the end of a path as the first row of its tree. -/
def rooted (document : Document) (path : List Char) (part : Part) : Part :=
  if path.length < 2 then { part with key := .null, parent := none }
  else
    let length := outerLength document path part.start
    { part with
      key := keyOf (path.drop length)
      parent := none
      full := path
      path := path.take length }

end Document

/-! ## Functions -/

/-- A function that gives rows. -/
structure Generator where
  heads : List Head
  rows : List Value → Except Trouble (List (Array Cell))

namespace Generator

/-- The columns of the parts of documents. -/
def partHeads : List Head :=
  let plain (name : String) : Head := { name, affinity := some .blob }
  plain "key" :: { plain "value" with mark := some 9 } ::
    ["type", "atom", "id", "parent", "fullkey", "path"].map plain ++
    ["json", "root", ""].map fun name => { plain name with isHidden := true }

/-- The row of a part, with its number. -/
def partRow (json root : Value) (isTree : Bool) (part : Document.Part) (number : Nat) :
    Array Cell :=
  let document := part.document
  let parent := match isTree, part.parent with
    | true, some parent => Value.integer parent
    | _, _ => .null
  let values : List Value :=
    [part.key, document.value, .text document.kind,
      if document.isNesting then .null else document.value, .integer part.start, parent,
      .ofChars part.full, .ofChars part.path, json, root, .ofBool document.isNesting,
      .integer number]
  (values.map .ok).toArray

/-- The parts of a document from the end of a path on: all of them, or those on the next level. -/
def partsOf (isTree : Bool) (document : Document) (path : List Char) :
    Except Trouble (List Document.Part) :=
  match (Document.whole document).find? path.length (path.drop 1) with
  | .unfit => .error Function.Documents.badPath
  | .missing => .ok []
  | .here part =>
    let part := { part with full := path, path }
    if isTree then
      let inner := part.parts.flatMap (Document.Part.tree Document.maxDepth)
      .ok (Document.rooted document path part :: inner)
    else if part.document.isNesting then .ok part.parts
    else .ok [{ part with key := .null, parent := none }]

/-- The function that gives the parts of a document. -/
def ofParts (isTree : Bool) : Generator where
  heads := partHeads
  rows := fun arguments => do
    let json := arguments.headD .null
    let root := (arguments.drop 1).headD (.text "$")
    match ← Function.Documents.take json with
    | none => return []
    | some document =>
      if root == .null then return []
      let path := Function.counted root
      if path.head? != some '$' then throw Function.Documents.badPath
      return (← partsOf isTree document path).mapIdx fun number part =>
        partRow json root isTree part number

/-- The function of rows with a name and a number of arguments. -/
def ofName? (_relations : Relations) (name : String) (count : Nat) : Option Generator :=
  if 2 < count then none
  else
    match Text.upper name with
    | "JSON_EACH" => some (ofParts false)
    | "JSON_TREE" => some (ofParts true)
    | _ => none

end Generator

end SchemaPlan.Relational
