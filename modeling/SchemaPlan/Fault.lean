import SchemaPlan.Catalog
import SchemaPlan.Edge.Sink
import SchemaPlan.Failure
import SchemaPlan.Source.Basic

/-!
# Collaborators that fail

A catalog, a source store or a sink can be made to fail at chosen calls.  A fault says at which
place it strikes and, unless it strikes every call there, which name a call has to touch.  Of
several faults that strike a call the first one is answered.
-/

set_option autoImplicit false

namespace SchemaPlan

/-- The calls at which a fault can strike. -/
inductive FaultPlace where
  | owners
  | findInPackage
  | findByOwner
  | existingPackages
  | fetch
  | append
  | backfill
deriving DecidableEq, Repr

namespace FaultPlace

/-- Every place. -/
def all : List FaultPlace :=
  [owners, findInPackage, findByOwner, existingPackages, fetch, append, backfill]

/-- The name of a place. -/
def name : FaultPlace → String
  | owners => "owners"
  | findInPackage => "find_in_package"
  | findByOwner => "find_by_owner"
  | existingPackages => "existing_packages"
  | fetch => "fetch"
  | append => "append"
  | backfill => "backfill"

/-- The place with a given name. -/
def ofName? (text : String) : Option FaultPlace := all.find? fun place => place.name == text

end FaultPlace

/-- A failure that a collaborator is made to answer with. -/
structure Fault where
  place : FaultPlace
  /-- The name that a call has to touch; without one every call is struck. -/
  name : Option String
  failure : Failure
deriving DecidableEq, Repr

namespace Fault

/-- Whether a fault strikes a call that touches some names. -/
def strikes (fault : Fault) (place : FaultPlace) (touched : List String) : Bool :=
  decide (fault.place = place) && fault.name.all touched.contains

/-- The first of the faults that strikes a call, unless its failure is of a kind that the call
cannot answer with. -/
def answer {Error Value : Type} (faults : List Fault) (place : FaultPlace) (touched : List String)
    (failure? : Failure → Option Error) (value : Except Error Value) : Except Error Value :=
  match (faults.find? fun fault => fault.strikes place touched).bind
      fun fault => failure? fault.failure with
  | some error => .error error
  | none => value

end Fault

namespace Failure

/-- The failure as a catalog failure. -/
def catalog? : Failure → Option CatalogError
  | catalog error => some error
  | _ => none

/-- The failure as a source failure. -/
def source? : Failure → Option SourceError
  | source error => some error
  | _ => none

/-- The failure as a storage failure. -/
def storage? : Failure → Option StorageError
  | storage error => some error
  | _ => none

end Failure

/-- The catalog with faults. -/
def Catalog.withFaults (catalog : Catalog) (faults : List Fault) : Catalog where
  owners := Fault.answer faults .owners [] Failure.catalog? catalog.owners
  findInPackage owner package names :=
    Fault.answer faults .findInPackage names Failure.catalog?
      (catalog.findInPackage owner package names)
  findByOwner owner names :=
    Fault.answer faults .findByOwner names Failure.catalog? (catalog.findByOwner owner names)
  existingPackages names :=
    Fault.answer faults .existingPackages names Failure.catalog? (catalog.existingPackages names)

/-- The source store with faults. -/
def SourceStore.withFaults (sources : SourceStore) (faults : List Fault) : SourceStore where
  fetch object := Fault.answer faults .fetch [object.key.name] Failure.source?
    (sources.fetch object)

/-- The sink with faults.  An empty batch is never refused. -/
def EdgeSink.withFaults {Log : Type} (sink : EdgeSink Log) (faults : List Fault) :
    EdgeSink Log where
  append log edges :=
    if edges.isEmpty then sink.append log edges
    else Fault.answer faults .append (edges.map (·.object.key.name)) Failure.storage?
      (sink.append log edges)
  backfill log name owner :=
    Fault.answer faults .backfill [name] Failure.storage? (sink.backfill log name owner)

end SchemaPlan
