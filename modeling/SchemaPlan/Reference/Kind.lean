import SchemaPlan.Collection.OrderedSet
import SchemaPlan.Object.Basic

/-!
# Kinds of references

Source text refers to tables, routines, sequences and packages.  A kind says which types of
objects can satisfy a reference, and which type is assumed when no object does.
-/

set_option autoImplicit false

namespace SchemaPlan

/-- The kind of a reference found in source text. -/
inductive ReferenceKind where
  | table
  | function
  | localFunction
  | procedure
  | sequence
  | package
deriving DecidableEq, Repr

namespace ReferenceKind

/-- Every kind, in ascending order. -/
def all : List ReferenceKind := [table, function, localFunction, procedure, sequence, package]

/-- The place of a kind in the order of kinds. -/
def rank : ReferenceKind → Nat
  | table => 0
  | function => 1
  | localFunction => 2
  | procedure => 3
  | sequence => 4
  | package => 5

/-- The name of a kind. -/
def name : ReferenceKind → String
  | table => "TABLE"
  | function => "FUNCTION"
  | localFunction => "LOCAL_FUNCTION"
  | procedure => "PROCEDURE"
  | sequence => "SEQUENCE"
  | package => "PACKAGE"

/-- The kind with a given name. -/
def ofName? (text : String) : Option ReferenceKind :=
  all.find? fun kind => kind.name == text

/-- The type of object assumed for a reference that nothing satisfies. -/
def defaultType : ReferenceKind → ObjectType
  | table => .table
  | function => .function
  | localFunction => .localFunction
  | procedure => .procedure
  | sequence => .sequence
  | package => .package

/-- Whether an object of a type satisfies a reference of the kind.  A view serves as a table. -/
def accepts (kind : ReferenceKind) (objectType : ObjectType) : Bool :=
  decide (objectType = kind.defaultType) ||
    (decide (kind = .table) && decide (objectType = .view))

/-- Routine references may mean a routine of the referring package. -/
def isRoutine : ReferenceKind → Bool
  | function | procedure | localFunction => true
  | table | sequence | package => false

instance : Ord ReferenceKind := ⟨compareOn rank⟩

instance : Std.TransOrd ReferenceKind := inferInstanceAs (Std.TransCmp (compareOn rank))

theorem rank_injective {left right : ReferenceKind} (equal : left.rank = right.rank) :
    left = right := by
  cases left <;> cases right <;> first | rfl | cases equal

instance : Std.LawfulEqOrd ReferenceKind where
  eq_of_compare equal := rank_injective (Nat.compare_eq_eq.1 equal)

end ReferenceKind

/-- A kind together with the names referred to in that kind. -/
structure KindNames where
  kind : ReferenceKind
  names : OrderedSet String
deriving DecidableEq

/-- Referenced names grouped by kind, the kinds in ascending order. -/
structure References where
  byKind : List KindNames
deriving DecidableEq

namespace References

/-- No references. -/
def empty : References := ⟨[]⟩

/-- Adds a name to its group, opening the group where it is missing. -/
def insertInto (kind : ReferenceKind) (name : String) : List KindNames → List KindNames
  | [] => [⟨kind, OrderedSet.empty.insert name⟩]
  | group :: rest =>
    match compare kind group.kind with
    | .lt => ⟨kind, OrderedSet.empty.insert name⟩ :: group :: rest
    | .eq => { group with names := group.names.insert name } :: rest
    | .gt => group :: insertInto kind name rest

/-- The references with one more. -/
def insert (references : References) (kind : ReferenceKind) (name : String) : References :=
  ⟨insertInto kind name references.byKind⟩

/-- The names of a kind. -/
def namesOf (references : References) (kind : ReferenceKind) : OrderedSet String :=
  match references.byKind.find? fun group => decide (group.kind = kind) with
  | some group => group.names
  | none => ∅

/-- Whether a name is referred to in a kind. -/
def contains (references : References) (kind : ReferenceKind) (name : String) : Bool :=
  (references.namesOf kind).contains name

/-- Removes a name from its group; a group that becomes empty is closed. -/
def removeFrom (kind : ReferenceKind) (name : String) : List KindNames → List KindNames
  | [] => []
  | group :: rest =>
    if group.kind = kind then
      let names := group.names.erase name
      if names.isEmpty then rest else { group with names } :: rest
    else group :: removeFrom kind name rest

/-- The references without one of them. -/
def remove (references : References) (kind : ReferenceKind) (name : String) : References :=
  ⟨removeFrom kind name references.byKind⟩

/-- Removes a name from its group and tells whether it was there; a group that becomes empty is
closed. -/
def withdrawFrom (kind : ReferenceKind) (name : String) :
    List KindNames → List KindNames × Bool
  | [] => ([], false)
  | group :: rest =>
    if group.kind = kind then
      let names := group.names.erase name
      (if names.isEmpty then rest else { group with names } :: rest, group.names.contains name)
    else
      let (others, wasThere) := withdrawFrom kind name rest
      (group :: others, wasThere)

/-- The references without one of them, and whether it was there. -/
def withdraw (references : References) (kind : ReferenceKind) (name : String) :
    References × Bool :=
  let (groups, wasThere) := withdrawFrom kind name references.byKind
  (⟨groups⟩, wasThere)

/-- All references, by kind and then by name. -/
def toList (references : References) : List (ReferenceKind × String) :=
  references.byKind.flatMap fun group => group.names.toList.map (group.kind, ·)

/-- The number of references. -/
def size (references : References) : Nat :=
  references.byKind.foldr (fun group total => group.names.size + total) 0

/-- Whether no kind has a group. -/
def isEmpty (references : References) : Bool := references.byKind.isEmpty

/-- The references of a list. -/
def ofList (mentions : List (ReferenceKind × String)) : References :=
  mentions.foldl (fun references mention => references.insert mention.1 mention.2) empty

end References

end SchemaPlan
