import SchemaPlan.Relational.Document.Reader

/-!
# Paths into documents

A path leads into a document by the labels of members and the numbers of items, which may also be
counted from the end.  A document can be changed at the end of a path.
-/

set_option autoImplicit false

namespace SchemaPlan.Relational.Document

/-! ## Steps -/

/-- The label at the front of a path after its point, and the rest of the path. -/
def labelStep? (path : List Char) : Option (Label × List Char) :=
  match path with
  | '\x22' :: rest =>
    let content := rest.takeWhile (· != '\x22')
    let wording := if content.contains '\\' then Wording.relaxed else .raw
    match rest.drop content.length with
    | _ :: rest => some (⟨wording, content⟩, rest)
    | [] => none
  | path =>
    let isInside (character : Char) : Bool := character != '.' && character != '['
    let content := path.takeWhile isInside
    if content.isEmpty then none else some (⟨.raw, content⟩, path.dropWhile isInside)

/-- The place in an array of some length that a path begins with after its bracket, with the rest of
the path.  There is no place if it would be before the first item. -/
def placeStep? (length : Nat) (path : List Char) : Option (Option Nat × List Char) :=
  let closed (place : Option Nat) (path : List Char) : Option (Option Nat × List Char) :=
    match path with
    | ']' :: rest => some (place, rest)
    | _ => none
  let digits := path.takeWhile Char.isDigit
  match path with
  | '#' :: '-' :: rest =>
    let digits := rest.takeWhile Char.isDigit
    let number := Numeral.digitsValue digits
    if digits.isEmpty then none
    else if length < number then some (none, [])
    else closed (some (length - number)) (rest.drop digits.length)
  | '#' :: rest => closed (some length) rest
  | path =>
    if digits.isEmpty then none
    else closed (some (Numeral.digitsValue digits)) (path.drop digits.length)

/-! ## Looking -/

/-- What is at the end of a path. -/
inductive Place (Item : Type) where
  | here (item : Item)
  | missing
  /-- The path is none. -/
  | unfit

/-- The document at the end of a path, which has at most as many steps as given. -/
def find? : Nat → List Char → Document → Place Document
  | _, [], document => .here document
  | 0, _, _ => .unfit
  | fuel + 1, '.' :: path, document =>
    match labelStep? path, document with
    | none, _ => .unfit
    | some (label, path), .object members =>
      match members.find? (·.label.isSame label) with
      | some member => find? fuel path member.document
      | none => .missing
    | some _, _ => .missing
  | fuel + 1, '[' :: path, .array items =>
    match placeStep? items.length path with
    | none => .unfit
    | some (none, _) => .missing
    | some (some place, path) =>
      match items[place]? with
      | some item => find? fuel path item
      | none => .missing
  | _, '[' :: _, _ => .missing
  | _, _, _ => .unfit

/-! ## Changing -/

/-- How a document is changed at the end of a path. -/
inductive Edit where
  | remove
  | replace (document : Document)
  | insert (document : Document)
  | set (document : Document)

/-- The document that is put where there is none. -/
def Edit.added? : Edit → Option Document
  | .insert document | .set document => some document
  | .remove | .replace _ => none

/-- What a change leaves of a document. -/
inductive Edited where
  | kept
  | removed
  | changed (document : Document)

/-- What a change leaves of the document at which it is aimed. -/
def Edit.onto : Edit → Edited
  | .remove => .removed
  | .replace document | .set document => .changed document
  | .insert _ => .kept

/-- Members with what a change has left of the one with a label. -/
def withMember (label : Label) (edited : Edited) : List Member → List Member
  | [] => []
  | member :: rest =>
    if member.label.isSame label then
      match edited with
      | .kept => member :: rest
      | .removed => rest
      | .changed document => { member with document } :: rest
    else member :: withMember label edited rest

/-- A document changed at the end of a path, which has at most as many steps as given. -/
def edit (edit : Edit) : Nat → List Char → Document → Place Edited
  | _, [], _ => .here edit.onto
  | 0, _, _ => .unfit
  | fuel + 1, path, document =>
    let create (path : List Char) (add : Document → Document) : Place Edited :=
      match edit.added? with
      | none => .missing
      | some added =>
        match path with
        | [] => .here (.changed (add added))
        | first :: _ =>
          match Document.edit edit fuel path (if first == '.' then object [] else array []) with
          | .here (.changed document) => .here (.changed (add document))
          | .here _ => .missing
          | .missing => .missing
          | .unfit => .unfit
    match path, document with
    | '.' :: path, document =>
      match labelStep? path, document with
      | none, _ => .unfit
      | some (label, path), .object members =>
        match members.find? (·.label.isSame label) with
        | some member =>
          match Document.edit edit fuel path member.document with
          | .here .kept => .here .kept
          | .here edited => .here (.changed (.object (withMember label edited members)))
          | .missing => .missing
          | .unfit => .unfit
        | none => create path fun added => .object (members ++ [⟨label, added⟩])
      | some _, _ => .missing
    | '[' :: path, .array items =>
      match placeStep? items.length path with
      | none => .unfit
      | some (none, _) => .missing
      | some (some place, path) =>
        match items[place]? with
        | some item =>
          match Document.edit edit fuel path item with
          | .here .kept => .here .kept
          | .here .removed => .here (.changed (.array (items.eraseIdx place)))
          | .here (.changed document) => .here (.changed (.array (items.set place document)))
          | .missing => .missing
          | .unfit => .unfit
        | none =>
          if place = items.length then create path fun added => .array (items ++ [added])
          else .missing
    | '[' :: _, _ => .missing
    | _, _ => .unfit

/-! ## Merging -/

/-- A document with the changes that another one says, where documents are nested up to a depth: its
members take the place of members, and missing ones remove members. -/
def merge : Nat → Document → Document → Document
  | 0, target, _ => target
  | depth + 1, target, .object patch =>
    let members := match target with
      | .object members => members
      | _ => []
    .object <| patch.foldl (fun members change =>
      let isHere := members.any (·.label.isSame change.label)
      match change.document, isHere with
      | .null, true => withMember change.label .removed members
      | .null, false => members
      | document, true =>
        members.map fun member =>
          if member.label.isSame change.label then
            { member with document := merge depth member.document document }
          else member
      | .object inner, false =>
        members ++ [⟨change.label, merge depth (.object []) (.object inner)⟩]
      | document, false => members ++ [⟨change.label, document⟩]) members
  | _ + 1, _, document => document

end SchemaPlan.Relational.Document
