import SchemaPlan.Edge.Basic
import SchemaPlan.Reference.Kind

/-!
# Qualified references

A raw name from source text is qualified as seen from the object that refers to it.  In `A.B.C`
the owner is `A` and the package `B`.  In `A.B` the first segment is the owner when it is a known
owner or when the reference is not to a routine, since tables and sequences never belong to a
package; otherwise it is the package.
-/

set_option autoImplicit false

namespace SchemaPlan

/-- The package, with its owner, whose routines an unqualified routine reference may mean. -/
structure Scope where
  owner : Option String
  package : String
deriving DecidableEq, Repr

/-- A qualified reference.  Two raw names that qualify alike are the same reference. -/
structure Reference where
  kind : ReferenceKind
  owner : Option String
  package : Option String
  name : String
  scope : Option Scope
deriving DecidableEq, Repr

namespace Scope

/-- The package that unqualified routine references of an object are scoped to. -/
def ofReferrer (referrer : ObjectRef) : Option Scope :=
  referrer.key.deliveryPackage?.map fun package => ⟨referrer.owner, package⟩

instance : Ord Scope := ⟨compareLex (compareOn owner) (compareOn package)⟩

instance : Std.TransOrd Scope :=
  inferInstanceAs (Std.TransCmp (compareLex (compareOn owner) (compareOn package)))

instance : Std.LawfulEqOrd Scope where
  eq_of_compare {left right} equal := by
    have ⟨owners, packages⟩ := compareLex_eq_eq.1 equal
    cases left
    cases right
    rw [Scope.mk.injEq]
    exact ⟨Std.LawfulEqCmp.eq_of_compare owners, Std.LawfulEqCmp.eq_of_compare packages⟩

end Scope

namespace Reference

/-- The segments of a raw name that are not empty. -/
def segments (raw : String) : List String :=
  (Text.splitOn '.' raw).filter fun segment => !segment.isEmpty

/-- The owner, the package and the name that a raw name gives. -/
def parts (kind : ReferenceKind) (raw : String) (owners : List String) :
    Option String × Option String × String :=
  match segments raw with
  | [] => (none, none, raw)
  | [name] => (none, none, name)
  | [qualifier, name] =>
    if owners.contains qualifier || !kind.isRoutine then (some qualifier, none, name)
    else (none, some qualifier, name)
  | owner :: package :: name :: rest =>
    (some owner, some package, (name :: rest).getLast?.getD name)

/-- The reference that a raw name stands for, as seen from a referrer. -/
def qualify (kind : ReferenceKind) (raw : String) (owners : List String) (referrer : ObjectRef) :
    Reference :=
  let (owner, package, name) := parts kind raw owners
  { kind, owner, package, name
    scope := if kind.isRoutine && package.isNone then Scope.ofReferrer referrer else none }

/-- The object that stands for a reference that nothing satisfies. -/
def placeholder (reference : Reference) : ObjectRef :=
  ObjectRef.new reference.owner
    (ObjectKey.new reference.kind.defaultType (reference.package.getD "") reference.name)

/-- The dotted name of a reference. -/
def dottedName (reference : Reference) : String :=
  (reference.owner.map (· ++ ".")).getD "" ++ (reference.package.map (· ++ ".")).getD "" ++
    reference.name

/-- The written form of a reference. -/
def describe (reference : Reference) : String :=
  reference.kind.name ++ " " ++ reference.dottedName

instance : Ord Reference :=
  ⟨compareLex (compareOn kind) (compareLex (compareOn owner) (compareLex (compareOn package)
    (compareLex (compareOn name) (compareOn scope))))⟩

instance : Std.TransOrd Reference :=
  inferInstanceAs (Std.TransCmp
    (compareLex (compareOn kind) (compareLex (compareOn owner) (compareLex (compareOn package)
      (compareLex (compareOn name) (compareOn scope))))))

instance : Std.LawfulEqOrd Reference where
  eq_of_compare {left right} equal := by
    have ⟨kinds, rest⟩ := compareLex_eq_eq.1 equal
    have ⟨owners, rest⟩ := compareLex_eq_eq.1 rest
    have ⟨packages, rest⟩ := compareLex_eq_eq.1 rest
    have ⟨names, scopes⟩ := compareLex_eq_eq.1 rest
    cases left
    cases right
    rw [Reference.mk.injEq]
    exact ⟨Std.LawfulEqCmp.eq_of_compare kinds, Std.LawfulEqCmp.eq_of_compare owners,
      Std.LawfulEqCmp.eq_of_compare packages, Std.LawfulEqCmp.eq_of_compare names,
      Std.LawfulEqCmp.eq_of_compare scopes⟩

end Reference

end SchemaPlan
