import SchemaPlan.Text.Basic

/-!
# Schema objects

An object of a schema is identified by its type, its package and its name.  The owner travels
with the identity but is not part of it.  Objects that belong to no package carry the root
package `NONE`, so a package is never blank.
-/

set_option autoImplicit false

namespace SchemaPlan

/-- What an object of a schema is. -/
inductive ObjectType where
  | table
  | view
  | sequence
  | package
  | procedure
  | function
  | localFunction
  | trigger
deriving DecidableEq, Repr

namespace ObjectType

/-- Every type, in ascending order. -/
def all : List ObjectType :=
  [table, view, sequence, package, procedure, function, localFunction, trigger]

/-- The place of a type in the order of types. -/
def rank : ObjectType → Nat
  | table => 0
  | view => 1
  | sequence => 2
  | package => 3
  | procedure => 4
  | function => 5
  | localFunction => 6
  | trigger => 7

/-- The name of a type. -/
def name : ObjectType → String
  | table => "TABLE"
  | view => "VIEW"
  | sequence => "SEQUENCE"
  | package => "PACKAGE"
  | procedure => "PROCEDURE"
  | function => "FUNCTION"
  | localFunction => "LOCAL_FUNCTION"
  | trigger => "TRIGGER"

/-- Routines carry source text; a routine without source cannot be installed. -/
def isRoutine : ObjectType → Bool
  | package | procedure | function | localFunction | trigger => true
  | table | view | sequence => false

/-- The type with a given name. -/
def ofName? (text : String) : Option ObjectType :=
  all.find? fun objectType => objectType.name == text

/-- The spelling under which a type is looked up: capitals, with underscores for blanks. -/
def spelling (text : String) : String :=
  String.ofList ((Text.canonical text).toList.map fun character =>
    if character == ' ' then '_' else character)

/-- Reads a type.  A materialized view is a view and a package body is a package. -/
def parse (text : String) : Except String ObjectType :=
  let spelled := spelling text
  if spelled == "MATERIALIZED_VIEW" then .ok view
  else if spelled == "PACKAGE_BODY" then .ok package
  else match ofName? spelled with
    | some objectType => .ok objectType
    | none => .error ("unknown object type: " ++ spelled)

instance : Ord ObjectType := ⟨compareOn rank⟩

instance : Std.TransOrd ObjectType := inferInstanceAs (Std.TransCmp (compareOn rank))

theorem rank_injective {left right : ObjectType} (equal : left.rank = right.rank) :
    left = right := by
  cases left <;> cases right <;> first | rfl | cases equal

instance : Std.LawfulEqOrd ObjectType where
  eq_of_compare equal := rank_injective (Nat.compare_eq_eq.1 equal)

end ObjectType

/-- The package of the objects that belong to no package. -/
def rootPackage : String := "NONE"

/-- The stored form of a package name; a blank name means the root package. -/
def normalizePackage (package : String) : String :=
  if (Text.trim package).isEmpty then rootPackage else Text.canonical package

/-- The identity of an object. -/
structure ObjectKey where
  objectType : ObjectType
  package : String
  name : String
deriving DecidableEq, Repr

namespace ObjectKey

/-- The key of an object, with package and name in stored form. -/
def new (objectType : ObjectType) (package name : String) : ObjectKey :=
  ⟨objectType, normalizePackage package, Text.canonical name⟩

/-- The key of an object that belongs to no package. -/
def rootLevel (objectType : ObjectType) (name : String) : ObjectKey :=
  new objectType rootPackage name

/-- The key of a package itself. -/
def packageNode (package : String) : ObjectKey :=
  rootLevel .package package

/-- Whether the object belongs to no package. -/
def isRootLevel (key : ObjectKey) : Bool :=
  key.package == rootPackage

/-- The package that the object belongs to. -/
def package? (key : ObjectKey) : Option String :=
  if key.isRootLevel then none else some key.package

/-- The package that the object is delivered with: its own name for a package, otherwise the
package that it belongs to. -/
def deliveryPackage? (key : ObjectKey) : Option String :=
  if key.objectType = .package then some key.name else key.package?

/-- The written form of a key. -/
def describe (key : ObjectKey) : String :=
  key.objectType.name ++ ":" ++ key.package ++ "." ++ key.name

instance : Ord ObjectKey :=
  ⟨compareLex (compareOn objectType) (compareLex (compareOn package) (compareOn name))⟩

instance : Std.TransOrd ObjectKey :=
  inferInstanceAs (Std.TransCmp
    (compareLex (compareOn objectType) (compareLex (compareOn package) (compareOn name))))

instance : Std.LawfulEqOrd ObjectKey where
  eq_of_compare {left right} equal := by
    have ⟨types, rest⟩ := compareLex_eq_eq.1 equal
    have ⟨packages, names⟩ := compareLex_eq_eq.1 rest
    cases left
    cases right
    rw [ObjectKey.mk.injEq]
    exact ⟨Std.LawfulEqCmp.eq_of_compare types, Std.LawfulEqCmp.eq_of_compare packages,
      Std.LawfulEqCmp.eq_of_compare names⟩

end ObjectKey

/-- An object together with its owner, if the owner is known. -/
structure ObjectRef where
  owner : Option String
  key : ObjectKey
deriving DecidableEq, Repr

namespace ObjectRef

/-- An owner in stored form; a blank owner is no owner. -/
def normalizeOwner (owner : Option String) : Option String :=
  (owner.map Text.canonical).filter fun name => !name.isEmpty

/-- A reference to an object, with the owner in stored form. -/
def new (owner : Option String) (key : ObjectKey) : ObjectRef :=
  ⟨normalizeOwner owner, key⟩

/-- The written form of a reference. -/
def describe (reference : ObjectRef) : String :=
  reference.owner.getD "?" ++ "/" ++ reference.key.describe

instance : Ord ObjectRef := ⟨compareLex (compareOn owner) (compareOn key)⟩

instance : Std.TransOrd ObjectRef :=
  inferInstanceAs (Std.TransCmp (compareLex (compareOn owner) (compareOn key)))

instance : Std.LawfulEqOrd ObjectRef where
  eq_of_compare {left right} equal := by
    have ⟨owners, keys⟩ := compareLex_eq_eq.1 equal
    cases left
    cases right
    rw [ObjectRef.mk.injEq]
    exact ⟨Std.LawfulEqCmp.eq_of_compare owners, Std.LawfulEqCmp.eq_of_compare keys⟩

end ObjectRef

end SchemaPlan
