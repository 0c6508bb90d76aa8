import SchemaPlan.Error
import SchemaPlan.Object.Basic

/-!
# Sources of routines

The text of a routine is a list of lines.  It is looked up by owner, package and name; an object
without an owner has no source, and that an object has no source is not a failure.
-/

set_option autoImplicit false

namespace SchemaPlan

/-- Where the source text of an object is looked up. -/
structure SourceStore where
  fetch : ObjectRef → Except SourceError (Option (List String))

/-- A source text in a shelf of sources. -/
structure SourceEntry where
  owner : String
  package : String
  name : String
  lines : List String
deriving DecidableEq, Repr

namespace SourceEntry

/-- A source text under its names in stored form. -/
def new (owner package name text : String) : SourceEntry :=
  ⟨Text.canonical owner, normalizePackage package, Text.canonical name, Text.lines text⟩

/-- Whether the text is the source of an object of this owner and key. -/
def isSourceOf (entry : SourceEntry) (owner : String) (key : ObjectKey) : Bool :=
  entry.owner == owner && entry.package == key.package && entry.name == key.name

end SourceEntry

/-- Source texts held as values, the latest first, so that a later text replaces an earlier one
of the same name. -/
structure SourceShelf where
  entries : List SourceEntry
deriving DecidableEq, Repr

namespace SourceShelf

/-- The shelf with one more text. -/
def insert (shelf : SourceShelf) (entry : SourceEntry) : SourceShelf :=
  ⟨entry :: shelf.entries⟩

/-- The shelf of texts that were added one after the other. -/
def ofEntries (entries : List SourceEntry) : SourceShelf :=
  ⟨entries.reverse⟩

/-- The source of an object, if there is one. -/
def find? (shelf : SourceShelf) (object : ObjectRef) : Option (List String) :=
  object.owner.bind fun owner =>
    (shelf.entries.find? fun entry => entry.isSourceOf owner object.key).map (·.lines)

/-- A shelf as a source store.  It never fails. -/
def store (shelf : SourceShelf) : SourceStore where
  fetch object := .ok (shelf.find? object)

end SourceShelf

end SchemaPlan
