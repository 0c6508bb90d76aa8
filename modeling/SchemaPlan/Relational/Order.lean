import SchemaPlan.Relational.Meaning

/-!
# Rows in order

Rows are put in order by keys.  Every key has a collation and a direction, and its missing values
come before or after the others.  Rows with equal keys stay in the order in which they come.
-/

set_option autoImplicit false

namespace SchemaPlan.Relational

/-- How the values of a key are put in order. -/
structure Direction where
  collation : Collation := .binary
  isDescending : Bool := false
  /-- Whether missing values come first. -/
  nullsFirst : Bool := true
deriving DecidableEq, Repr

namespace Direction

/-- The order of two values of a key. -/
def compare (encoding : Encoding) (direction : Direction) (first second : Value) : Ordering :=
  match first == .null, second == .null with
  | true, true => .eq
  | true, false => if direction.nullsFirst then .lt else .gt
  | false, true => if direction.nullsFirst then .gt else .lt
  | false, false =>
    let order := Value.compareBy direction.collation encoding first second
    if direction.isDescending then order.swap else order

/-- The order of the keys of two rows. -/
def compareAll (encoding : Encoding) : List Direction → List Value → List Value → Ordering
  | direction :: directions, first :: firsts, second :: seconds =>
    (direction.compare encoding first second).then (compareAll encoding directions firsts seconds)
  | _, _, _ => .eq

/-- Rows put in order by their keys. -/
def sort {Row : Type} (encoding : Encoding) (directions : List Direction)
    (rows : List (List Value × Row)) : List (List Value × Row) :=
  if directions.isEmpty then rows
  else rows.mergeSort fun first second =>
    (compareAll encoding directions first.1 second.1).isLE

/-- The directions of keys that only have collations. -/
def ofCollations (collations : List Collation) : List Direction :=
  collations.map fun collation => { collation }

/-- Rows that follow each other with equal keys, put together. -/
def groups {Row : Type} (encoding : Encoding) (directions : List Direction) :
    List (List Value × Row) → List (List Value × List Row)
  | [] => []
  | (key, row) :: rest =>
    match groups encoding directions rest with
    | [] => [(key, [row])]
    | (next, rows) :: others =>
      if compareAll encoding directions key next == .eq then (key, row :: rows) :: others
      else (key, [row]) :: (next, rows) :: others

end Direction

/-- Keys that are told apart by their collations, with the first row of each, in the order in which
they come. -/
def distinctBy {Row : Type} (encoding : Encoding) (directions : List Direction)
    (rows : List (List Value × Row)) : List (List Value × Row) :=
  let sorted := Direction.sort encoding directions
    (rows.zipIdx.map fun ((key, row), place) => (key, ((key, row), place)))
  let firsts := (Direction.groups encoding directions sorted).filterMap fun (_, rows) => rows.head?
  (firsts.mergeSort fun first second => first.2 ≤ second.2).map (·.1)

end SchemaPlan.Relational
