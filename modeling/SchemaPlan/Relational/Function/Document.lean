import SchemaPlan.Relational.Document.Bytes
import SchemaPlan.Relational.Trouble

/-!
# Functions of documents

Functions take documents as texts or as bytes.  A text that one of them returns counts as a document
where another one takes it; any other text is only a text in a document.
-/

set_option autoImplicit false

namespace SchemaPlan.Relational

/-- A value that may be a document and not only the text of one. -/
structure Marked where
  value : Value
  isDocument : Bool := false
deriving DecidableEq, Repr

namespace Marked

/-- A document as a text. -/
def ofChars (characters : List Char) : Marked := ⟨.ofChars characters, true⟩

/-- A missing value. -/
def null : Marked := { value := .null }

end Marked

namespace Function.Documents

/-- What the functions return of a document: its text or its bytes. -/
inductive Form where
  | text
  | bytes
deriving DecidableEq, Repr

/-- The trouble of something that is no document. -/
def malformed : Trouble := .unfit "JSON"

/-! ## Taking -/

/-- The document of a text, with whether it is in the relaxed form. -/
def ofText (characters : List Char) : Except Trouble (Document × Bool) :=
  match Document.ofChars characters with
  | .ok found => .ok found
  | .error _ => .error malformed

/-- The document that a value is, unless it is missing. -/
def take (value : Value) : Except Trouble (Option Document) :=
  match value with
  | .null => .ok none
  | .blob bytes =>
    if Document.looksLike bytes then
      match Document.ofBytes? bytes with
      | some document => .ok (some document)
      | none => .error malformed
    else (ofText value.chars).map fun (document, _) => some document
  | value => (ofText value.chars).map fun (document, _) => some document

/-- The document for a value in another one. -/
def inner (argument : Marked) : Except Trouble Document :=
  match argument.value with
  | .null => .ok .null
  | .integer value => .ok (.number false false (toString value).toList)
  | .real bits =>
    let number := Value.toFloat bits
    let digits := if number.isInf then (if number < 0 then "-9e999" else "9e999").toList
      else argument.value.chars
    .ok (.number true false digits)
  | .blob bytes =>
    match if Document.looksLike bytes then Document.ofBytes? bytes else none with
    | some document => .ok document
    | none => .error malformed
  | value =>
    if argument.isDocument then (ofText value.chars).map (·.1)
    else .ok (.text (.ofChars value.chars))

/-- A value as it is written in a document. -/
def written (argument : Marked) : Except Trouble (List Char) :=
  match argument.value with
  | .null => .ok "null".toList
  | .integer value => .ok (toString value).toList
  | .real bits =>
    let number := Value.toFloat bits
    .ok (if number.isInf then (if number < 0 then "-9.0e+999" else "9.0e+999").toList
      else argument.value.chars)
  | .blob bytes =>
    match if Document.looksLike bytes then Document.ofBytes? bytes else none with
    | some document => .ok document.write
    | none => .error malformed
  | value =>
    if argument.isDocument then .ok value.chars else .ok (Label.ofChars value.chars).write

/-! ## Returning -/

/-- A document in a form. -/
def give (form : Form) (document : Document) : Marked :=
  match form with
  | .text => .ofChars document.write
  | .bytes => { value := .blob document.bytes }

/-- A text of a document in a form. -/
def giveText (form : Form) (characters : List Char) : Except Trouble Marked :=
  match form with
  | .text => .ok (.ofChars characters)
  | .bytes => (ofText characters).map fun (document, _) => give .bytes document

/-- The value of a document, where one with others inside is given in a form. -/
def giveValue (form : Form) (document : Document) : Marked :=
  if document.isNesting then give form document else { value := document.value }

/-! ## Paths -/

/-- The trouble of something that is no path. -/
def badPath : Trouble := .unfit "JSON path"

/-- The path that a value is, after its first character, unless it is missing. -/
def path (value : Value) : Except Trouble (Option (List Char)) :=
  if value == .null then .ok none
  else
    match counted value with
    | '$' :: path => .ok (some path)
    | _ => .error badPath

/-- The document at the end of a path, if it is there. -/
def at? (document : Document) (path : List Char) : Except Trouble (Option Document) :=
  match document.find? (path.length + 1) path with
  | .here found => .ok (some found)
  | .missing => .ok none
  | .unfit => .error badPath

/-- The document at the end of a path that need not be given, if both are there. -/
def atPath? (document : Value) (given : List Marked) : Except Trouble (Option Document) := do
  match ← take document, given with
  | none, _ => return none
  | some document, [] => return some document
  | some document, argument :: _ =>
    match ← path argument.value with
    | none => return none
    | some path => at? document path

/-- The path that an operand of an operator is short for, unless it is missing. -/
def shortPath (value : Value) : Option (List Char) :=
  let characters := counted value
  match value, characters with
  | .null, _ => none
  | _, '$' :: path => some path
  | .integer _, characters => some ('[' :: characters ++ [']'])
  | _, characters =>
    if characters.all Char.isAlphanum then some ('.' :: characters)
    else if characters.head? == some '[' && characters.getLast? == some ']' &&
        2 < characters.length then some characters
    else some ('.' :: '\x22' :: characters ++ ['\x22'])

/-! ## Functions -/

/-- What is at the ends of paths, of which several make up an array. -/
def extract (form : Form) (document : Document) (paths : List Marked) : Except Trouble Marked := do
  match ← paths.mapM fun argument => path argument.value with
  | [] => return .null
  | [some path] => return ((← at? document path).map (giveValue form)).getD .null
  | paths =>
    if paths.contains none then return .null
    let found ← (paths.filterMap id).mapM (at? document)
    return give form (.array (found.map fun found => found.getD .null))

/-- What an operand stands for in a document: as a document or as a value. -/
def follow (isValue : Bool) (document : Value) (operand : Value) : Except Trouble Marked := do
  match ← take document, shortPath operand with
  | some document, some path =>
    match ← at? document path with
    | none => return .null
    | some found =>
      return if isValue then { value := found.value } else give .text found
  | _, _ => return .null

/-- A document with changes at the ends of paths. -/
def changed (edit : Document → Document.Edit) : List Marked → Document → Except Trouble Document
  | target :: argument :: rest, document => do
    match target.value with
    | .null => changed edit rest document
    | value =>
      let steps := (← path value).getD []
      match document.edit (edit (← inner argument)) (steps.length + 1) steps with
      | .here (.changed document) => changed edit rest document
      | .here _ | .missing => changed edit rest document
      | .unfit => throw badPath
  | _, document => .ok document

/-- A document with changes at the ends of paths, in a form. -/
def change (form : Form) (edit : Document → Document.Edit) (arguments : List Marked) :
    Except Trouble Marked := do
  if arguments.length % 2 = 0 then throw (.unfit "JSON")
  match arguments with
  | [] => return .null
  | target :: changes =>
    match ← take target.value with
    | none => return .null
    | some document => return give form (← changed edit changes document)

/-- A document without what is at the ends of paths, unless nothing is left. -/
def without : List Marked → Document → Except Trouble (Option Document)
  | [], document => .ok (some document)
  | argument :: rest, document => do
    match ← path argument.value with
    | none => return none
    | some path =>
      match document.edit .remove (path.length + 1) path with
      | .here (.changed document) => without rest document
      | .here .removed => return none
      | .here .kept | .missing => without rest document
      | .unfit => throw badPath

/-- The text of an object of labels and values in turn. -/
def members : List Marked → Except Trouble (List (List Char))
  | [] => .ok []
  | label :: argument :: rest => do
    if !label.value.isText then throw (.unfit "JSON")
    let written ← written argument
    return ((Label.ofChars label.value.chars).write ++ ':' :: written) :: (← members rest)
  | [_] => .error (.unfit "JSON")

/-- Whether a value is a document in one of some forms, which a number tells. -/
def isValid (value : Value) (forms : Nat) : Value :=
  let ofForm (form : Nat) : Bool := forms / form % 2 == 1
  let asText (characters : List Char) : Bool :=
    match Document.ofChars characters with
    | .ok (_, isRelaxed) => ofForm 2 || (ofForm 1 && !isRelaxed)
    | .error _ => false
  match value with
  | .null => .null
  | .blob bytes =>
    .ofBool (if Document.looksLike bytes then
        ofForm 4 || (ofForm 8 && (Document.ofBytes? bytes).isSome)
      else asText value.chars)
  | value => .ofBool (asText value.chars)

/-- The place of what is wrong in a document, counted from one. -/
def wrongPlace (value : Value) : Value :=
  match value with
  | .null => .null
  | .blob bytes =>
    if Document.looksLike bytes then
      .integer (if (Document.ofBytes? bytes).isSome then 0 else 1)
    else ofChars value.chars
  | value => ofChars value.chars
where
  /-- The place of what is wrong in characters. -/
  ofChars (characters : List Char) : Value :=
    let characters := characters.takeWhile (· != '\x00')
    match Document.ofChars characters with
    | .ok _ => .integer 0
    | .error left => .integer (characters.length - left + 1)

/-- How deep documents are merged. -/
def mergeDepth : Nat := 2000

/-- A document with the changes that another one says. -/
def patch (form : Form) (target changes : Value) : Except Trouble Marked := do
  match ← take target, ← take changes with
  | some target, some changes => return give form (target.merge mergeDepth changes)
  | _, _ => return .null

/-- The number of items of an array; anything else has none. -/
def count (document : Option Document) : Value :=
  match document with
  | none => .null
  | some (.array items) => .integer items.length
  | some _ => .integer 0

/-- A document on several lines. -/
def lines (document : Value) (indent : List Marked) : Except Trouble Marked := do
  let indent := match indent with
    | argument :: _ =>
      if argument.value == Value.null then none else some (counted argument.value)
    | [] => none
  match ← take document with
  | none => return .null
  | some document =>
    return { value := .ofChars (document.pretty (indent.getD (List.replicate 4 ' ')) 0) }

/-- The name of the kind of a document, if it is there. -/
def kindOf (document : Option Document) : Value :=
  (document.map fun document => Value.text document.kind).getD .null

/-- The answer of a function that makes documents in a form, if there is one of this name. -/
def make? (form : Form) (function : String) (arguments : List Marked) :
    Option (Except Trouble Marked) :=
  match function, arguments with
  | "JSON", [argument] | "JSONB", [argument] => some do
    return ((← take argument.value).map (give form)).getD .null
  | "ARRAY", arguments => some do
    giveText form ('[' :: Document.joined (← arguments.mapM written) ++ [']'])
  | "OBJECT", arguments => some do
    giveText form ('{' :: Document.joined (← members arguments) ++ ['}'])
  | "EXTRACT", [] => some (.ok .null)
  | "EXTRACT", target :: paths => some do
    match ← if paths.isEmpty then pure none else take target.value with
    | none => return .null
    | some document => extract form document paths
  | "INSERT", arguments => some (change form .insert arguments)
  | "REPLACE", arguments => some (change form .replace arguments)
  | "SET", arguments => some (change form .set arguments)
  | "PATCH", [target, changes] => some (patch form target.value changes.value)
  | "REMOVE", [] => some (.ok .null)
  | "REMOVE", target :: paths => some do
    match ← take target.value with
    | none => return .null
    | some document => return ((← without paths document).map (give form)).getD .null
  | _, _ => none

/-- The answer of a function about documents, if there is one of this name. -/
def describe? (function : String) (arguments : List Marked) : Option (Except Trouble Marked) :=
  match function, arguments with
  | "JSON_ARRAY_LENGTH", [target] => some do return { value := count (← take target.value) }
  | "JSON_ARRAY_LENGTH", [target, path] => some do
    return { value := count (← atPath? target.value [path]) }
  | "JSON_TYPE", [target] => some do return { value := kindOf (← take target.value) }
  | "JSON_TYPE", [target, path] => some do
    return { value := kindOf (← atPath? target.value [path]) }
  | "JSON_VALID", [target] => some (.ok { value := isValid target.value 1 })
  | "JSON_VALID", [target, forms] =>
    let number := forms.value.wholeOf
    some (if 1 ≤ number ∧ number ≤ 15 then .ok { value := isValid target.value number.toNat }
      else .error (.unfit function))
  | "JSON_ERROR_POSITION", [target] => some (.ok { value := wrongPlace target.value })
  | "JSON_PRETTY", [target] => some (lines target.value [])
  | "JSON_PRETTY", [target, indent] => some (lines target.value [indent])
  | "JSON_QUOTE", [argument] => some do return .ofChars (← written argument)
  | "->", [target, operand] => some (follow false target.value operand.value)
  | "->>", [target, operand] => some (follow true target.value operand.value)
  | _, _ => none

/-- The functions that make documents. -/
def makers : List String :=
  ["ARRAY", "OBJECT", "EXTRACT", "INSERT", "REPLACE", "SET", "PATCH", "REMOVE"]

/-- The answer of a function of documents, if there is one of this name for as many arguments. -/
def invoke? (function : String) (arguments : List Marked) : Option (Except Trouble Marked) :=
  if function == "JSON" then make? .text function arguments
  else if function == "JSONB" then make? .bytes function arguments
  else
    match makers.find? fun maker => function == "JSON_" ++ maker with
    | some maker => make? .text maker arguments
    | none =>
      match makers.find? fun maker => function == "JSONB_" ++ maker with
      | some maker => make? .bytes maker arguments
      | none => describe? function arguments

/-! ## Functions of all rows -/

/-- The text of an array or an object of all rows, if there is a function of this name for as many
arguments. -/
def gather? (function : String) (count : Nat) (rows : List (List Marked)) :
    Option (Except Trouble Marked) :=
  let items : Except Trouble (List (List Char)) :=
    rows.mapM fun row => written (row.headD .null)
  let members : Except Trouble (List (List Char)) :=
    rows.mapM fun row => do
      let label := (row.headD .null).value
      let before := if label == .null then [] else (Label.ofChars label.chars).write
      return before ++ ':' :: (← written ((row.drop 1).headD .null))
  match function, count with
  | "JSON_GROUP_ARRAY", 1 => some do giveText .text ('[' :: Document.joined (← items) ++ [']'])
  | "JSONB_GROUP_ARRAY", 1 => some do giveText .bytes ('[' :: Document.joined (← items) ++ [']'])
  | "JSON_GROUP_OBJECT", 2 => some do
    giveText .text ('{' :: Document.joined (← members) ++ ['}'])
  | "JSONB_GROUP_OBJECT", 2 => some do
    giveText .bytes ('{' :: Document.joined (← members) ++ ['}'])
  | _, _ => none

end Function.Documents

end SchemaPlan.Relational
