import SchemaPlan.Collection.Sorting
import SchemaPlan.Edge.Sink
import SchemaPlan.Reference.Basic

/-!
# Closures and the state of an expanding one

The closure of a list of roots holds every object that the roots reference, directly or through
other objects, together with the records of who requires whom.

Between two iterations the closure is described by the objects that are known, the references that
have been resolved, the keys that are missing and the records found so far.  A scan goes through
the known objects and turns every reference that can be answered from the state into a record;
the remaining references are pending.
-/

set_option autoImplicit false

namespace SchemaPlan

/-! ## Closures -/

/-- A reference that the catalog could not resolve. -/
structure Unresolved where
  kind : ReferenceKind
  reference : String
  referrer : ObjectKey
  iteration : Nat
deriving DecidableEq, Repr

/-- The closure of a list of roots. -/
structure Closure where
  /-- Every record, in the order of discovery. -/
  edges : List Edge
  /-- Every object that was found or given as a root, in ascending order of key. -/
  objects : List ObjectRef
  /-- The keys of objects that do not exist or have no source. -/
  missing : OrderedSet ObjectKey
  /-- The references that could not be resolved, in the order of their resolution. -/
  unresolved : List Unresolved
  /-- The number of iterations taken. -/
  iterations : Nat
  /-- The number of known objects after each iteration. -/
  growth : List Nat
deriving DecidableEq

namespace Closure

/-- The confirmed records. -/
def okEdges (closure : Closure) : List Edge :=
  closure.edges.filter fun edge => decide (edge.status = .ok)

/-- Whether a key is missing. -/
def isMissing (closure : Closure) (key : ObjectKey) : Bool := closure.missing.contains key

end Closure

/-! ## The state of an expansion -/

/-- An object that has been found, with the references of its source if it has one. -/
structure KnownObject where
  object : ObjectRef
  references : Option References
deriving DecidableEq

/-- The state of a closure between two steps. -/
structure ClosureState where
  /-- The owners that the catalog knows. -/
  owners : List String
  /-- The objects found so far, in the order in which they were admitted. -/
  known : List KnownObject
  /-- The references asked so far, each with the object found for it. -/
  resolved : List (Reference × Option ObjectRef)
  /-- The keys of objects that do not exist or have no source. -/
  missing : OrderedSet ObjectKey
  /-- Every record, in the order of discovery. -/
  edges : List Edge
  /-- The records that have not been written to the sink yet. -/
  batch : List Edge
  /-- The references that could not be resolved. -/
  unresolved : List Unresolved
  /-- The number of known objects after each iteration. -/
  growth : List Nat
deriving DecidableEq

/-- What the state says about a reference. -/
inductive Standing where
  /-- An object satisfies the reference. -/
  | present (object : ObjectRef)
  /-- No object satisfies the reference. -/
  | absent
  /-- The catalog has to be asked. -/
  | unasked
deriving DecidableEq

/-- What a reference in the source of an object comes to. -/
inductive Sighting where
  /-- The object itself, or the package it is delivered with. -/
  | own
  /-- Another object. -/
  | requires (dependency : ObjectRef)
  /-- Not known yet. -/
  | pending (reference : Reference)
deriving DecidableEq

/-- What an object has to require when its source refers to another one.  An object outside all
packages requires the package of a member as a whole; members and packages require members. -/
def deliveryUnit (object dependency : ObjectRef) : ObjectRef :=
  if object.key.isRootLevel && decide (object.key.objectType ≠ .package) then
    match dependency.key.package? with
    | some package => ObjectRef.new dependency.owner (ObjectKey.packageNode package)
    | none => dependency
  else dependency

/-- The dependency is the object itself or the package it is delivered with. -/
def isOwnDeliveryUnit (object dependency : ObjectRef) : Bool :=
  decide (dependency.key = object.key) ||
    (decide (dependency.key.objectType = .package) &&
      decide (object.key.deliveryPackage? = some dependency.key.name))

namespace Sighting

/-- The sighting of a reference that means an object. -/
def ofTarget (object target : ObjectRef) : Sighting :=
  let unit := deliveryUnit object target
  if isOwnDeliveryUnit object unit then own else requires unit

/-- The record that a sighting gives rise to. -/
def record? (object : ObjectRef) : Sighting → Option Edge
  | requires dependency => some (Edge.requires object dependency)
  | own | pending _ => none

/-- The reference that a sighting leaves open. -/
def pending? : Sighting → Option Reference
  | pending reference => some reference
  | own | requires _ => none

end Sighting

namespace ClosureState

/-- The state before anything is known. -/
def initial (owners : List String) : ClosureState :=
  ⟨owners, [], [], ∅, [], [], [], []⟩

/-! ## Records -/

/-- Takes up a record of an earlier run.  It is not written to the sink again. -/
def seedRecord (state : ClosureState) (edge : Edge) : ClosureState :=
  { state with
    missing := if edge.status = .missing then state.missing.insert edge.object.key
      else state.missing
    edges := EdgeList.add state.edges edge }

/-- Takes up the records of an earlier run. -/
def seed (state : ClosureState) (prior : List Edge) : ClosureState :=
  prior.foldl seedRecord state

/-- Adds a record, unless it is there already. -/
def emit (state : ClosureState) (edge : Edge) : ClosureState :=
  if edge ∈ state.edges then state
  else { state with edges := state.edges ++ [edge], batch := state.batch ++ [edge] }

/-- Adds records one after the other. -/
def emitAll (state : ClosureState) (records : List Edge) : ClosureState :=
  records.foldl emit state

/-- The state after the batch has been written. -/
def written (state : ClosureState) : ClosureState := { state with batch := [] }

/-! ## Known objects -/

/-- The known object with a key. -/
def known? (state : ClosureState) (key : ObjectKey) : Option KnownObject :=
  state.known.find? fun known => decide (known.object.key = key)

/-- Whether an object with a key is known. -/
def knows (state : ClosureState) (key : ObjectKey) : Bool := (state.known? key).isSome

/-- The keys of the known objects with a package and a name, in the order of admission. -/
def homonyms (state : ClosureState) (package name : String) : List ObjectKey :=
  (state.known.map (·.object.key)).filter fun key =>
    key.package == package && key.name == name

/-- The known objects in ascending order of key. -/
def sortedKnown (state : ClosureState) : List KnownObject :=
  Sorting.sortOn (·.object.key) state.known

/-- Takes up an object whose source has been looked at.  A routine without source is missing. -/
def enter (state : ClosureState) (object : ObjectRef) (references : Option References) :
    ClosureState :=
  let noted :=
    if references.isNone && object.key.objectType.isRoutine then
      { state with missing := state.missing.insert object.key }.emit (Edge.missing object)
    else state
  { noted with known := noted.known ++ [⟨object, references⟩] }

/-! ## Looking up a reference -/

/-- The owner that a reference asks for is not another one than that of the object. -/
def ownerAgrees (reference : Reference) (object : ObjectRef) : Bool :=
  match reference.owner, object.owner with
  | some wanted, some actual => wanted == actual
  | _, _ => true

/-- The packages in which a reference is looked up among the known objects. -/
def searchedPackages (reference : Reference) : List String :=
  match reference.package, reference.scope with
  | some package, _ => [package]
  | none, some scope => [scope.package, rootPackage]
  | none, none => [rootPackage]

/-- The first known object of a package that satisfies a reference. -/
def candidate? (state : ClosureState) (reference : Reference) (package : String) :
    Option ObjectRef :=
  (state.known.find? fun known =>
    known.object.key.package == package && known.object.key.name == reference.name &&
      reference.kind.accepts known.object.key.objectType &&
      ownerAgrees reference known.object).map (·.object)

/-- The answer to a reference that has been asked before. -/
def answered? (state : ClosureState) (reference : Reference) : Option (Option ObjectRef) :=
  (state.resolved.find? fun entry => decide (entry.1 = reference)).map (·.2)

/-- What the state says about a reference. -/
def lookup (state : ClosureState) (reference : Reference) : Standing :=
  match state.answered? reference with
  | some (some object) => .present object
  | some none => .absent
  | none =>
    match (searchedPackages reference).findSome? (state.candidate? reference) with
    | some object => .present object
    | none =>
      if reference.placeholder.key ∈ state.missing then .absent else .unasked

/-! ## Scanning -/

/-- The references of a known object that may lead to other objects. -/
def externalReferences (references : References) : List (ReferenceKind × String) :=
  references.toList.filter fun mention => decide (mention.1 ≠ .localFunction)

/-- What a raw name in the source of an object comes to. -/
def sight (state : ClosureState) (object : ObjectRef) (mention : ReferenceKind × String) :
    Sighting :=
  let reference := Reference.qualify mention.1 mention.2 state.owners object
  match state.lookup reference with
  | .present target => Sighting.ofTarget object target
  | .absent => Sighting.ofTarget object reference.placeholder
  | .unasked => .pending reference

/-- What the references of a known object come to. -/
def sightings (state : ClosureState) (known : KnownObject) : List Sighting :=
  match known.references with
  | some references => (externalReferences references).map (state.sight known.object)
  | none => []

/-- The records of a known object: one per other object that it requires, or a leaf record when
it refers to nothing but itself. -/
def recordsOf (state : ClosureState) (known : KnownObject) : List Edge :=
  let sightings := state.sightings known
  if sightings.all fun sighting => decide (sighting = .own) then [Edge.leaf known.object]
  else sightings.filterMap (Sighting.record? known.object)

/-- The open references of a known object, each with the object itself. -/
def openOf (state : ClosureState) (known : KnownObject) : List (Reference × ObjectRef) :=
  (state.sightings known).filterMap fun sighting =>
    sighting.pending?.map fun reference => (reference, known.object)

/-- Open references in ascending order, each once and with its first referrer. -/
def ordered (openReferences : List (Reference × ObjectRef)) : List (Reference × ObjectRef) :=
  (OrderedSet.ofList (openReferences.map (·.1))).toList.filterMap fun reference =>
    openReferences.find? fun entry => decide (entry.1 = reference)

/-- The references that the state cannot answer, each with its first referrer. -/
def pending (state : ClosureState) : List (Reference × ObjectRef) :=
  ordered (state.sortedKnown.flatMap state.openOf)

/-- The state with a record for every reference that it can answer. -/
def scanned (state : ClosureState) : ClosureState :=
  state.emitAll (state.sortedKnown.flatMap state.recordsOf)

/-! ## Resolving -/

/-- Notes the object found for a reference. -/
def noteFound (state : ClosureState) (reference : Reference) (object : ObjectRef) :
    ClosureState :=
  { state with resolved := state.resolved ++ [(reference, some object)] }

/-- Notes that nothing was found for a reference. -/
def noteUnresolved (state : ClosureState) (reference : Reference) (referrer : ObjectRef)
    (iteration : Nat) : ClosureState :=
  let placeholder := reference.placeholder
  let noted :=
    { state with missing := state.missing.insert placeholder.key }.emit (Edge.missing placeholder)
  { noted with
    resolved := noted.resolved ++ [(reference, none)]
    unresolved := noted.unresolved ++
      [⟨reference.kind, reference.describe, referrer.key, iteration⟩] }

/-- Notes the number of known objects. -/
def grown (state : ClosureState) : ClosureState :=
  { state with growth := state.growth ++ [state.known.length] }

/-! ## Finishing -/

/-- The owner of the known object with a name: of several, the owned one with the least key. -/
def ownerOfName? (state : ClosureState) (name : String) : Option String :=
  state.sortedKnown.findSome? fun known =>
    if known.object.key.name == name then known.object.owner else none

/-- The names of dependencies without an owner for which a known object gives one, each with that
owner, in ascending order. -/
def repairs (state : ClosureState) : List (String × String) :=
  let names := state.edges.filterMap fun edge =>
    edge.dependency.bind fun dependency =>
      if dependency.owner.isNone then some dependency.key.name else none
  (OrderedSet.ofList names).toList.filterMap fun name =>
    (state.ownerOfName? name).map fun owner => (name, owner)

/-- The records with the owners filled in. -/
def repairedEdges (state : ClosureState) : List Edge :=
  state.repairs.foldl (fun edges repair => EdgeList.backfill edges repair.1 repair.2) state.edges

/-- The closure that a finished state stands for. -/
def closure (state : ClosureState) (iterations : Nat) : Closure where
  edges := state.repairedEdges
  objects := state.sortedKnown.map (·.object)
  missing := state.missing
  unresolved := state.unresolved
  iterations := iterations
  growth := state.growth

end ClosureState

end SchemaPlan
