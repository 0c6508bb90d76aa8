import SchemaPlan.Object.Basic

/-!
# Dependency records

A record says that one object requires another.  A record without a dependency is a leaf: the
object is part of the plan and references nothing.  The status says what is known or decided
about the object.
-/

set_option autoImplicit false

namespace SchemaPlan

/-- The status of a record. -/
inductive EdgeStatus where
  /-- Confirmed by the source text and the catalog. -/
  | ok
  /-- The object is not in the catalog or has no source. -/
  | missing
  /-- Chosen for delivery. -/
  | install
  /-- Not to be delivered. -/
  | skip
deriving DecidableEq, Repr

namespace EdgeStatus

/-- Every status, in ascending order. -/
def all : List EdgeStatus := [ok, missing, install, skip]

/-- The place of a status in the order of statuses. -/
def rank : EdgeStatus → Nat
  | ok => 0
  | missing => 1
  | install => 2
  | skip => 3

/-- The name of a status. -/
def name : EdgeStatus → String
  | ok => "OK"
  | missing => "MISSING"
  | install => "INSTALL"
  | skip => "SKIP"

/-- The status with a given name. -/
def ofName? (text : String) : Option EdgeStatus :=
  all.find? fun status => status.name == text

/-- Reads a status, ignoring case and surrounding blanks. -/
def parse (text : String) : Except String EdgeStatus :=
  let spelled := Text.canonical text
  match ofName? spelled with
  | some status => .ok status
  | none => .error ("unknown edge status: " ++ spelled)

instance : Ord EdgeStatus := ⟨compareOn rank⟩

instance : Std.TransOrd EdgeStatus := inferInstanceAs (Std.TransCmp (compareOn rank))

theorem rank_injective {left right : EdgeStatus} (equal : left.rank = right.rank) :
    left = right := by
  cases left <;> cases right <;> first | rfl | cases equal

instance : Std.LawfulEqOrd EdgeStatus where
  eq_of_compare equal := rank_injective (Nat.compare_eq_eq.1 equal)

end EdgeStatus

/-- A dependency record. -/
structure Edge where
  status : EdgeStatus
  object : ObjectRef
  dependency : Option ObjectRef
deriving DecidableEq, Repr

namespace Edge

/-- A confirmed record that one object requires another. -/
def requires (object dependency : ObjectRef) : Edge := ⟨.ok, object, some dependency⟩

/-- A confirmed record that an object references nothing. -/
def leaf (object : ObjectRef) : Edge := ⟨.ok, object, none⟩

/-- A record that an object is missing. -/
def missing (object : ObjectRef) : Edge := ⟨.missing, object, none⟩

/-- The record with another status. -/
def withStatus (edge : Edge) (status : EdgeStatus) : Edge := { edge with status }

/-- Whether the record names no dependency. -/
def isLeaf (edge : Edge) : Bool := edge.dependency.isNone

/-- Whether the dependency is the object itself. -/
def isSelfReference (edge : Edge) : Bool :=
  edge.dependency.any fun dependency => decide (dependency.key = edge.object.key)

/-- The written form of a record. -/
def describe (edge : Edge) : String :=
  "[" ++ edge.status.name ++ "] " ++ edge.object.describe ++
    match edge.dependency with
    | some dependency => " -> " ++ dependency.describe
    | none => ""

instance : Ord Edge :=
  ⟨compareLex (compareOn status) (compareLex (compareOn object) (compareOn dependency))⟩

instance : Std.TransOrd Edge :=
  inferInstanceAs (Std.TransCmp
    (compareLex (compareOn status) (compareLex (compareOn object) (compareOn dependency))))

instance : Std.LawfulEqOrd Edge where
  eq_of_compare {left right} equal := by
    have ⟨statuses, rest⟩ := compareLex_eq_eq.1 equal
    have ⟨objects, dependencies⟩ := compareLex_eq_eq.1 rest
    cases left
    cases right
    rw [Edge.mk.injEq]
    exact ⟨Std.LawfulEqCmp.eq_of_compare statuses, Std.LawfulEqCmp.eq_of_compare objects,
      Std.LawfulEqCmp.eq_of_compare dependencies⟩

end Edge

end SchemaPlan
