import SchemaPlan.Files.Content
import SchemaPlan.Files.Place
import SchemaPlan.Source.Basic

/-!
# Trees of files

A tree holds the files and directories below a working directory.  A path is followed name by
name; it leads nowhere when a directory on the way does not exist, and it cannot be followed
through a file or by a name that is too long.

The source of an object is the file of its name below the directories of its owner and of its
package.
-/

set_option autoImplicit false

namespace SchemaPlan

/-- What stands at a place. -/
inductive FileEntry where
  | directory
  | file (content : FileContent)
deriving DecidableEq, Repr

/-- Why a file cannot be read. -/
inductive FileError where
  | notFound
  | unreadable
deriving DecidableEq, Repr

/-- The files below a working directory.  Every beginning of the place of an entry is a
directory. -/
structure FileTree where
  entries : List (Place × FileEntry)
deriving DecidableEq, Repr

namespace FileTree

/-- The tree without files. -/
def empty : FileTree := ⟨[]⟩

/-- What stands at a place. -/
def entry? (tree : FileTree) (place : Place) : Option FileEntry :=
  match tree.entries.find? fun entry => decide (entry.1 = place) with
  | some entry => some entry.2
  | none =>
    if place.isAround || tree.entries.any fun entry => place.isPrefixOf entry.1 then
      some .directory
    else none

/-- The tree with nothing of its own at a place. -/
def remove (tree : FileTree) (place : Place) : FileTree :=
  ⟨tree.entries.filter fun other => decide (other.1 ≠ place)⟩

/-- The tree with something else at a place. -/
def put (tree : FileTree) (place : Place) (entry : FileEntry) : FileTree :=
  ⟨(place, entry) :: (tree.remove place).entries⟩

/-! ## Following paths -/

/-- The greatest length of a name in bytes. -/
def maxNameLength : Nat := 255

/-- The greatest length of a path in bytes. -/
def maxPathLength : Nat := 4095

/-- The place that a name leads to from a place. -/
def step (tree : FileTree) (place : Place) (name : String) : Except FileError Place :=
  match tree.entry? place with
  | none => .error .notFound
  | some (.file _) => .error .unreadable
  | some .directory =>
    if name = "." then .ok place
    else if name = ".." then .ok place.parent
    else if maxNameLength < Text.byteLength name.toList then .error .unreadable
    else .ok (place ++ [name])

/-- The place that names lead to; there need not be anything. -/
def walk (tree : FileTree) (names : List String) : Except FileError Place :=
  names.foldlM tree.step Place.here

/-- The place that a path leads to; there need not be anything. -/
def follow (tree : FileTree) (path : String) : Except FileError Place :=
  let characters := path.toList
  if characters.contains '\x00' || maxPathLength < Text.byteLength characters then
    .error .unreadable
  else tree.walk (Place.namesOf path)

/-- Whether a path leads to something. -/
def exists? (tree : FileTree) (path : String) : Bool :=
  match tree.follow path with
  | .ok place => (tree.entry? place).isSome
  | .error _ => false

/-- The content of a file. -/
def read (tree : FileTree) (path : String) : Except FileError FileContent := do
  match tree.entry? (← tree.follow path) with
  | some (.file content) => return content
  | some .directory => throw .unreadable
  | none => throw .notFound

/-! ## Writing -/

/-- Goes on to a name from a place, where a directory is created unless something stands there. -/
def enter (reached : FileTree × Place) (name : String) : FileTree × Place :=
  let (tree, place) := reached
  if name = "." then (tree, place)
  else if name = ".." then (tree, place.parent)
  else
    let next := place ++ [name]
    if (tree.entry? next).isSome then (tree, next) else (tree.put next .directory, next)

/-- Writes a file or creates a directory, with the directories on the way to it. -/
def write (tree : FileTree) (path : String) (entry : FileEntry) : FileTree :=
  let names := Place.namesOf path
  match entry with
  | .directory => (names.foldl enter (tree, Place.here)).1
  | .file content =>
    let (tree, place) := names.dropLast.foldl enter (tree, Place.here)
    tree.put (place ++ names.getLast?.toList) (.file content)

end FileTree

/-! ## Sources -/

/-- The path of the source of an object, if the object has an owner. -/
def sourcePath? (root : String) (object : ObjectRef) : Option String :=
  object.owner.map fun owner =>
    Path.join (Path.join (Path.join root owner) object.key.package) (object.key.name ++ ".sql")

namespace FileTree

/-- The lines of a source.  A file that does not exist is no source; any other file has to be
readable. -/
def readSource (tree : FileTree) (path : String) : Except SourceError (Option (List String)) :=
  match tree.read path with
  | .ok content =>
    match content.text? with
    | some text => .ok (some (Text.lines text))
    | none => .error (.invalidEncoding path)
  | .error .notFound => .ok none
  | .error .unreadable => .error (.readFailed path "not a readable file")

/-- The sources below a directory. -/
def sources (tree : FileTree) (root : String) : SourceStore where
  fetch object :=
    match sourcePath? root object with
    | some path => tree.readSource path
    | none => .ok none

end FileTree

end SchemaPlan
