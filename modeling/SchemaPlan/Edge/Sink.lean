import SchemaPlan.Edge.Basic
import SchemaPlan.Error

/-!
# Sinks for dependency records

A sink receives records while the closure is computed.  Appending a record that is already there
changes nothing.  When the owner of a dependency becomes known later, the records that lack it are
repaired, and a repaired record that repeats another one is dropped.
-/

set_option autoImplicit false

namespace SchemaPlan

/-- A destination for records whose content is a value of type `Log`.  A failing operation leaves
the content as it was. -/
structure EdgeSink (Log : Type) where
  append : Log → List Edge → Except StorageError Log
  backfill : Log → String → String → Except StorageError Log

namespace EdgeList

/-- Adds a record at the end, unless it is there already. -/
def add (edges : List Edge) (edge : Edge) : List Edge :=
  if edge ∈ edges then edges else edges ++ [edge]

/-- Adds records at the end, each unless it is there already. -/
def append (edges records : List Edge) : List Edge :=
  records.foldl add edges

/-- The record names a dependency of this name and does not say who owns it. -/
def needsOwner (name : String) (edge : Edge) : Bool :=
  edge.dependency.any fun dependency =>
    dependency.owner.isNone && dependency.key.name == name

/-- The record with the owner of its dependency set. -/
def giveOwner (owner : String) (edge : Edge) : Edge :=
  { edge with
    dependency := edge.dependency.map fun dependency => { dependency with owner := some owner } }

/-- Goes through the records and repairs those that need the owner.  A repaired record is dropped
when it equals a record that was complete from the start or one repaired before; `complete` and
`repaired` hold those. -/
def backfillFrom (name owner : String) (complete repaired : List Edge) :
    List Edge → List Edge × Nat
  | [] => ([], 0)
  | edge :: rest =>
    if needsOwner name edge then
      let fixed := giveOwner owner edge
      if fixed ∈ complete ∨ fixed ∈ repaired then backfillFrom name owner complete repaired rest
      else
        let (kept, count) := backfillFrom name owner complete (fixed :: repaired) rest
        (fixed :: kept, count + 1)
    else
      let (kept, count) := backfillFrom name owner complete repaired rest
      (edge :: kept, count)

/-- The records after every unowned dependency of a name has been given an owner, and the number
of repaired records that were kept. -/
def backfillCounted (edges : List Edge) (name owner : String) : List Edge × Nat :=
  backfillFrom name owner (edges.filter fun edge => !needsOwner name edge) [] edges

/-- The records after every unowned dependency of a name has been given an owner. -/
def backfill (edges : List Edge) (name owner : String) : List Edge :=
  (backfillCounted edges name owner).1

/-- A list of records as a sink.  It never fails. -/
def sink : EdgeSink (List Edge) where
  append edges records := .ok (append edges records)
  backfill edges name owner := .ok (backfill edges name owner)

end EdgeList

/-- A list of records together with the batches in which they were appended. -/
structure BatchLog where
  edges : List Edge
  /-- The accepted batches that were not empty, in order. -/
  batches : List (List Edge)
deriving DecidableEq, Repr

namespace BatchLog

/-- The log of nothing. -/
def empty : BatchLog := ⟨[], []⟩

/-- Adds a batch of records. -/
def append (log : BatchLog) (records : List Edge) : BatchLog :=
  ⟨EdgeList.append log.edges records,
    if records.isEmpty then log.batches else log.batches ++ [records]⟩

/-- Gives every unowned dependency of a name an owner. -/
def backfill (log : BatchLog) (name owner : String) : BatchLog :=
  { log with edges := EdgeList.backfill log.edges name owner }

/-- A batch log as a sink.  It never fails. -/
def sink : EdgeSink BatchLog where
  append log records := .ok (log.append records)
  backfill log name owner := .ok (log.backfill name owner)

end BatchLog

end SchemaPlan
