import SchemaPlan.Json.Basic

/-!
# TOML documents

A document is a table that grows line by line.  A table remembers how it came about, because that
decides what may still be added to it: a table in braces is closed, a table with a header must not
get the same header again, a table that was only passed through on the way to another one may get
its header later, and a table made by a dotted key may only be extended by dotted keys.
-/

set_option autoImplicit false

namespace SchemaPlan

/-- How a table came about. -/
inductive TableOrigin where
  | braces
  | header
  | passage
  | dottedKey
deriving DecidableEq, Repr

/-- A TOML value. -/
inductive Toml where
  | integer (value : Int)
  | float
  | bool (value : Bool)
  | string (text : String)
  /-- A date, a time or both. -/
  | moment
  | array (items : List Toml)
  | table (origin : TableOrigin) (entries : List (String × Toml))
  /-- Tables that share a header in double brackets. -/
  | tables (elements : List Toml)
deriving Repr

namespace Toml

/-- The entries of a table. -/
abbrev Entries : Type := List (String × Toml)

/-- The value of a key. -/
def lookup (key : String) (entries : Entries) : Option Toml :=
  (entries.find? fun entry => entry.1 == key).map (·.2)

/-- The entries with another value for a key, which goes to the end if it is new. -/
def store (key : String) (value : Toml) : Entries → Entries
  | [] => [(key, value)]
  | entry :: rest =>
    if entry.1 == key then (key, value) :: rest else entry :: store key value rest

/-- Changes the last of some tables. -/
def changeLast (change : Entries → Option Entries) : List Toml → Option (List Toml)
  | [] => none
  | [table origin entries] => (change entries).map fun entries => [table origin entries]
  | [_] => none
  | first :: rest => (changeLast change rest).map (first :: ·)

/-! ## Growing -/

/-- Adds a value under a key that is new. -/
def add (key : String) (value : Toml) (entries : Entries) : Option Entries :=
  if (lookup key entries).isSome then none else some (entries ++ [(key, value)])

/-- Adds a value under a dotted key.  The tables that the key passes through are made as needed;
the last one must have been made by a dotted key. -/
def addDotted : List String → String → Toml → Entries → Option Entries
  | [], key, value, entries => add key value entries
  | name :: rest, key, value, entries =>
    match lookup name entries with
    | none =>
      (addDotted rest key value []).map fun inner => entries ++ [(name, table .dottedKey inner)]
    | some (table .dottedKey inner) =>
      (addDotted rest key value inner).map fun inner => store name (table .dottedKey inner) entries
    | some (table .passage inner) =>
      if rest.isEmpty then none
      else (addDotted rest key value inner).map fun inner =>
        store name (table .passage inner) entries
    | some (tables elements) =>
      if rest.isEmpty then none
      else (changeLast (addDotted rest key value) elements).map fun elements =>
        store name (tables elements) entries
    | some _ => none

/-- Changes the table that a header path leads to.  The tables that the path passes through are
made as needed. -/
def changeAt (change : Entries → Option Entries) : List String → Entries → Option Entries
  | [], entries => change entries
  | name :: rest, entries =>
    match lookup name entries with
    | none =>
      (changeAt change rest []).map fun inner => entries ++ [(name, table .passage inner)]
    | some (table .braces _) => none
    | some (table origin inner) =>
      (changeAt change rest inner).map fun inner => store name (table origin inner) entries
    | some (tables elements) =>
      (changeLast (changeAt change rest) elements).map fun elements =>
        store name (tables elements) entries
    | some _ => none

/-- Gives a table its header. -/
def openTable (name : String) (entries : Entries) : Option Entries :=
  match lookup name entries with
  | none => some (entries ++ [(name, table .header [])])
  | some (table .passage inner) => some (store name (table .header inner) entries)
  | some _ => none

/-- Adds one more table to those that share a header. -/
def openElement (name : String) (entries : Entries) : Option Entries :=
  match lookup name entries with
  | none => some (entries ++ [(name, tables [table .header []])])
  | some (tables elements) =>
    some (store name (tables (elements ++ [table .header []])) entries)
  | some _ => none

/-! ## Statements -/

/-- A line of a document that says something. -/
inductive Statement where
  | entry (path : List String) (key : String) (value : Toml)
  | header (path : List String) (name : String)
  | elementHeader (path : List String) (name : String)
deriving Repr

/-- What the lines read so far have made, and the path of the table that the next entry is for. -/
structure Progress where
  entries : Entries
  current : List String
deriving Repr

/-- Takes one more line into account. -/
def Progress.step (progress : Progress) : Statement → Option Progress
  | .entry path key value => do
    let entries ← changeAt (addDotted path key value) progress.current progress.entries
    return { progress with entries }
  | .header path name => do
    return ⟨← changeAt (openTable name) path progress.entries, path ++ [name]⟩
  | .elementHeader path name => do
    return ⟨← changeAt (openElement name) path progress.entries, path ++ [name]⟩

/-- The entries of the document that some lines make. -/
def ofStatements? (statements : List Statement) : Option Entries :=
  (statements.foldlM Progress.step ⟨[], []⟩).map (·.entries)

/-- The table in braces that some entries make. -/
def ofBraces? (pieces : List (List String × String × Toml)) : Option Toml :=
  (pieces.foldlM (fun entries (path, key, value) => addDotted path key value entries) []).map
    (table .braces)

/-! ## As JSON -/

mutual

/-- The value as JSON, where a float has no value and a moment counts as an empty table. -/
def toJson : Toml → Json
  | integer value => .integer value
  | float => .fraction
  | bool value => .bool value
  | string text => .string text
  | moment => .object []
  | array items => .array (itemsToJson items)
  | table _ entries => .object (entriesToJson entries)
  | tables elements => .array (itemsToJson elements)

/-- The values as JSON. -/
def itemsToJson : List Toml → List Json
  | [] => []
  | item :: rest => item.toJson :: itemsToJson rest

/-- The entries as the members of an object. -/
def entriesToJson : List (String × Toml) → List (String × Json)
  | [] => []
  | (key, value) :: rest => (key, value.toJson) :: entriesToJson rest

end

end Toml

end SchemaPlan
