import SchemaPlan.Text.Basic

/-!
# Paths and places of files

A path is a text in which slashes separate names.  Joining keeps the text of the first path; an
absolute path replaces what it is joined to.

A place is the list of the names that lead to a file or directory from the working directory.
Double dots at its beginning lead to the directories around the working directory, and a slash at
its beginning leads to the top of all files.
-/

set_option autoImplicit false

/-! ## Paths -/

namespace SchemaPlan.Path

/-- Whether a path begins at the top of all files. -/
def isAbsolute (path : String) : Bool := path.toList.head? == some '/'

/-- The path of something as seen from a directory. -/
def join (directory path : String) : String :=
  if isAbsolute path then path
  else if directory.isEmpty || directory.toList.getLast? == some '/' then directory ++ path
  else directory ++ "/" ++ path

end SchemaPlan.Path

/-! ## Places -/

namespace SchemaPlan

/-- The names that lead to a file or directory. -/
abbrev Place : Type := List String

namespace Place

/-- The working directory. -/
def here : Place := []

/-- The top of all files. -/
def top : Place := ["/"]

/-- Whether a place is the working directory, one that holds it, or the top of all files. -/
def isAround (place : Place) : Bool := place == top || place.all (· == "..")

/-- The directory that holds a place; the top holds itself. -/
def parent (place : Place) : Place :=
  if place == top then place
  else if place.isAround then place ++ [".."]
  else place.dropLast

/-- The place beside a place whose name goes on with a further text. -/
def beside (place : Place) (ending : String) : Place :=
  place.dropLast ++ [place.getLastD "" ++ ending]

/-- The length of the last name in bytes. -/
def nameLength (place : Place) : Nat := Text.byteLength (place.getLastD "").toList

/-- The length in bytes that the path of the working directory is taken to have. -/
def hereLength : Nat := 15

/-- The length in bytes of the path of a place that begins at the top of all files. -/
def pathLength (place : Place) : Nat :=
  let names := place.filter fun name => name != "/" && name != ".."
  (if place.head? == some "/" || place.head? == some ".." then 0 else hereLength) +
    (names.map fun name => 1 + Text.byteLength name.toList).foldl (· + ·) 0

/-- The names of a path.  The first name of an absolute path is the slash that it begins with. -/
def namesOf (path : String) : List String :=
  let names := (Text.splitOn '/' path).filter fun name => !name.isEmpty
  if Path.isAbsolute path then "/" :: names else names

end Place

end SchemaPlan
