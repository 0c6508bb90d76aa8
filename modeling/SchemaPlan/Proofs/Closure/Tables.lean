import Mathlib.Logic.Function.Basic
import SchemaPlan.Proofs.Closure.Asking
import SchemaPlan.Proofs.Closure.Log

/-!
# The collections of a closure state, kept apart

A closure state lists the known objects and the noted answers, and everything that is
looked up is looked up in these lists.  The same can be kept in collections of their
own: a table of the known objects by key, an index of their keys by package and name,
a table of the answers, and the set of the records seen (`Tables`).  Every change of
the state then has to change several of them, and a look-up is right only if they stay
in step.

They do.  Tables that are changed along with a state from the start (`Evolves`) give the
known objects, their keys, the answers and the records of the state (`InStep`), so that
looking up a reference in them is looking it up in the state (`InStep.lookup_eq`).

A run takes its state through admissions, scans and resolutions (`Passes`), and each of
these is made of the changes that keep the tables in step.  So in every state that a run
passes the tables are consistent (`Tables.Consistent`): every known object is stored and
indexed under its own key and nothing else is indexed, packages of known members are
known, answers lead to known or missing keys, and the records are those seen, each once.
-/

set_option autoImplicit false

namespace SchemaPlan

/-- The collections of a closure state, each kept by itself. -/
structure Tables where
  /-- The known objects by key. -/
  known : ObjectKey → Option KnownObject
  /-- The keys of the known objects by package and name, in the order of admission. -/
  byName : String × String → List ObjectKey
  /-- The answers of the catalog. -/
  resolved : Reference → Option (Option ObjectRef)
  /-- The keys of objects that do not exist or have no source. -/
  missing : OrderedSet ObjectKey
  /-- Every record, in the order of discovery. -/
  edges : List Edge
  /-- The records that are not to be added again. -/
  seen : OrderedSet Edge

namespace Tables

/-- The tables with nothing in them. -/
def empty : Tables := ⟨fun _ => none, fun _ => [], fun _ => none, ∅, [], ∅⟩

/-! ## Changes -/

/-- Adds a record, unless it has been seen. -/
def emit (tables : Tables) (edge : Edge) : Tables :=
  if edge ∈ tables.seen then tables
  else { tables with edges := tables.edges ++ [edge], seen := tables.seen.insert edge }

/-- Makes an object missing and records it. -/
def noteMissing (tables : Tables) (object : ObjectRef) : Tables :=
  { tables with missing := tables.missing.insert object.key }.emit (Edge.missing object)

/-- Takes up a record of an earlier run. -/
def seedRecord (tables : Tables) (edge : Edge) : Tables :=
  let noted : Tables :=
    { tables with
      missing := if edge.status = .missing then tables.missing.insert edge.object.key
        else tables.missing }
  noted.emit edge

/-- Stores an object under its key and lists the key under its package and name. -/
def store (tables : Tables) (object : ObjectRef) (references : Option References) : Tables :=
  let name := (object.key.package, object.key.name)
  { tables with
    known := Function.update tables.known object.key (some ⟨object, references⟩)
    byName := Function.update tables.byName name (tables.byName name ++ [object.key]) }

/-- Takes up an object whose source has been looked at.  A routine without source is missing. -/
def enter (tables : Tables) (object : ObjectRef) (references : Option References) : Tables :=
  let noted :=
    if references.isNone && object.key.objectType.isRoutine then tables.noteMissing object
    else tables
  noted.store object references

/-- Notes an answer of the catalog. -/
def answer (tables : Tables) (reference : Reference) (found : Option ObjectRef) : Tables :=
  { tables with resolved := Function.update tables.resolved reference (some found) }

/-! ## Looking up -/

/-- The known object with a key, if it satisfies a reference. -/
def suited? (tables : Tables) (reference : Reference) (key : ObjectKey) : Option ObjectRef :=
  if reference.kind.accepts key.objectType then
    (tables.known key).bind fun member =>
      if ClosureState.ownerAgrees reference member.object then some member.object else none
  else none

/-- What the tables say about a reference: an answer noted before, the first suited object of
a package that is searched, or that its placeholder is missing. -/
def lookup (tables : Tables) (reference : Reference) : Standing :=
  match tables.resolved reference with
  | some (some object) => .present object
  | some none => .absent
  | none =>
    match (ClosureState.searchedPackages reference).findSome? fun package =>
        (tables.byName (package, reference.name)).findSome? (tables.suited? reference) with
    | some object => .present object
    | none => if reference.placeholder.key ∈ tables.missing then .absent else .unasked

/-! ## Consistency -/

/-- The collections agree with each other. -/
structure Consistent (tables : Tables) : Prop where
  ownKey : ∀ key member, tables.known key = some member → member.object.key = key
  listed : ∀ key member, tables.known key = some member →
    (tables.byName (key.package, key.name)).count key = 1
  onlyKnown : ∀ package name key, key ∈ tables.byName (package, name) →
    tables.known key ≠ none ∧ key.package = package ∧ key.name = name
  housed : ∀ key package, tables.known key ≠ none → key.package? = some package →
    tables.known (ObjectKey.packageNode package) ≠ none
  found : ∀ reference object, tables.resolved reference = some (some object) →
    tables.known object.key ≠ none
  absent : ∀ reference, tables.resolved reference = some none →
    reference.placeholder.key ∈ tables.missing
  distinct : tables.edges.Nodup
  seen : ∀ edge, edge ∈ tables.seen ↔ edge ∈ tables.edges

end Tables

/-! ## Keeping in step -/

/-- The tables say what the state says. -/
structure InStep (state : ClosureState) (tables : Tables) : Prop where
  keysDistinct : (state.known.map (·.object.key)).Nodup
  known : ∀ key, tables.known key = state.known? key
  byName : ∀ package name, tables.byName (package, name) = state.homonyms package name
  resolved : ∀ reference, tables.resolved reference = state.answered? reference
  missing : tables.missing = state.missing
  edges : tables.edges = state.edges
  distinct : state.edges.Nodup
  seen : ∀ edge, edge ∈ tables.seen ↔ edge ∈ state.edges

/-- A state and tables that undergo the same changes from the start on.  Objects are entered
only under new keys, and references are answered only once. -/
inductive Evolves : ClosureState → Tables → Prop
  | initial (owners : List String) : Evolves (.initial owners) .empty
  | seedRecord {state : ClosureState} {tables : Tables} (edge : Edge)
      (evolves : Evolves state tables) : Evolves (state.seedRecord edge) (tables.seedRecord edge)
  | emit {state : ClosureState} {tables : Tables} (edge : Edge) (evolves : Evolves state tables) :
      Evolves (state.emit edge) (tables.emit edge)
  | enter {state : ClosureState} {tables : Tables} (object : ObjectRef)
      (references : Option References) (evolves : Evolves state tables)
      (new : tables.known object.key = none) :
      Evolves (state.enter object references) (tables.enter object references)
  | noteFound {state : ClosureState} {tables : Tables} (reference : Reference)
      (object : ObjectRef) (evolves : Evolves state tables)
      (unasked : tables.resolved reference = none) :
      Evolves (state.noteFound reference object) (tables.answer reference (some object))
  | noteUnresolved {state : ClosureState} {tables : Tables} (reference : Reference)
      (referrer : ObjectRef) (iteration : Nat) (evolves : Evolves state tables)
      (unasked : tables.resolved reference = none) :
      Evolves (state.noteUnresolved reference referrer iteration)
        ((tables.noteMissing reference.placeholder).answer reference none)
  | written {state : ClosureState} {tables : Tables} (evolves : Evolves state tables) :
      Evolves state.written tables
  | grown {state : ClosureState} {tables : Tables} (evolves : Evolves state tables) :
      Evolves state.grown tables

/-- A record is added to the records of a state as to any list of records. -/
theorem ClosureState.edges_emit (state : ClosureState) (edge : Edge) :
    (state.emit edge).edges = EdgeList.add state.edges edge := by
  rw [emit, EdgeList.add]
  split <;> rfl

/-- One more known object is found under its own key. -/
theorem ClosureState.known?_append (state : ClosureState) (member : KnownObject)
    (key : ObjectKey) :
    ({ state with known := state.known ++ [member] } : ClosureState).known? key =
      (state.known? key).or (if member.object.key = key then some member else none) := by
  rw [known?, known?, List.find?_append, List.find?_singleton]
  simp only [decide_eq_true_eq]

/-- One more known object is listed under its own package and name. -/
theorem ClosureState.homonyms_append (state : ClosureState) (member : KnownObject)
    (package name : String) :
    ({ state with known := state.known ++ [member] } : ClosureState).homonyms package name =
      state.homonyms package name ++
        if (package, name) = (member.object.key.package, member.object.key.name)
          then [member.object.key] else [] := by
  simp only [homonyms, List.map_append, List.filter_append, List.map_singleton,
    List.filter_singleton, cond_eq_ite]
  refine congrArg _ (ite_congr (propext ?_) (fun _ => rfl) fun _ => rfl)
  rw [Bool.and_eq_true, beq_iff_eq, beq_iff_eq, Prod.mk.injEq, eq_comm, @eq_comm _ name]

namespace InStep

variable {state after : ClosureState} {tables : Tables}

theorem initial (owners : List String) : InStep (.initial owners) .empty where
  keysDistinct := List.nodup_nil
  known _ := rfl
  byName _ _ := rfl
  resolved _ := rfl
  missing := rfl
  edges := rfl
  distinct := List.nodup_nil
  seen _ := iff_of_false OrderedSet.not_mem_empty List.not_mem_nil

/-- What is not looked up may change. -/
theorem of_eq (inStep : InStep state tables) (bare : after.bare = state.bare)
    (edges : after.edges = state.edges) : InStep after tables := by
  obtain ⟨_, known, resolved, missing⟩ := ClosureState.fields_of_bare bare
  refine ⟨known ▸ inStep.keysDistinct, fun key => ?_, fun package name => ?_, fun reference => ?_,
    missing ▸ inStep.missing, edges ▸ inStep.edges, edges ▸ inStep.distinct, edges ▸ inStep.seen⟩
  · rw [inStep.known, ClosureState.known?, ClosureState.known?, known]
  · rw [inStep.byName, ClosureState.homonyms, ClosureState.homonyms, known]
  · rw [inStep.resolved, ClosureState.answered?, ClosureState.answered?, resolved]

theorem setMissing (inStep : InStep state tables) (missing : OrderedSet ObjectKey) :
    InStep { state with missing } { tables with missing } :=
  { inStep with missing := rfl }

theorem emit (inStep : InStep state tables) (edge : Edge) :
    InStep (state.emit edge) (tables.emit edge) := by
  by_cases present : edge ∈ state.edges
  · rw [ClosureState.emit, if_pos present, Tables.emit, if_pos ((inStep.seen edge).mpr present)]
    exact inStep
  · have unseen : edge ∉ tables.seen := mt (inStep.seen edge).mp present
    rw [ClosureState.emit, if_neg present, Tables.emit, if_neg unseen]
    refine { inStep with edges := ?_, distinct := ?_, seen := fun other => ?_ }
    · exact congrArg (· ++ [edge]) inStep.edges
    · refine List.nodup_append.mpr ⟨inStep.distinct, List.nodup_singleton edge, ?_⟩
      rintro old member other isEdge rfl
      exact present (List.mem_singleton.mp isEdge ▸ member)
    · rw [OrderedSet.mem_insert, inStep.seen, List.mem_append, List.mem_singleton, or_comm]

theorem noteMissing (inStep : InStep state tables) (object : ObjectRef) :
    InStep ({ state with missing := state.missing.insert object.key }.emit (Edge.missing object))
      (tables.noteMissing object) := by
  rw [Tables.noteMissing, inStep.missing]
  exact (inStep.setMissing _).emit _

theorem seedRecord (inStep : InStep state tables) (edge : Edge) :
    InStep (state.seedRecord edge) (tables.seedRecord edge) := by
  have seeded := (inStep.setMissing (if edge.status = .missing then
    state.missing.insert edge.object.key else state.missing)).emit edge
  rw [Tables.seedRecord, inStep.missing]
  -- A record that is seeded is not written, so the batches differ.
  refine seeded.of_eq ?_ ?_
  · rw [ClosureState.bare_emit]
    rfl
  · rw [ClosureState.edges_emit]
    rfl

theorem store (inStep : InStep state tables) {object : ObjectRef}
    (references : Option References) (new : tables.known object.key = none) :
    InStep { state with known := state.known ++ [⟨object, references⟩] }
      (tables.store object references) := by
  rw [inStep.known] at new
  have unlisted : ∀ member ∈ state.known, member.object.key ≠ object.key := fun member known same =>
    List.find?_eq_none.mp new member known (decide_eq_true same)
  refine { inStep with
    keysDistinct := ?_, known := fun key => ?_, byName := fun package name => ?_ }
  · rw [List.map_append, List.nodup_append]
    refine ⟨inStep.keysDistinct, List.nodup_singleton _, ?_⟩
    rintro key inKnown other isNew rfl
    obtain ⟨member, known, same⟩ := List.mem_map.mp inKnown
    exact unlisted member known (same.trans (List.mem_singleton.mp isNew))
  · rw [ClosureState.known?_append, Tables.store]
    dsimp only
    by_cases same : key = object.key
    · subst same
      rw [Function.update_self, new, if_pos rfl, Option.none_or]
    · rw [Function.update_of_ne same, inStep.known, if_neg (Ne.symm same), Option.or_none]
  · rw [ClosureState.homonyms_append, Tables.store]
    dsimp only
    by_cases same : (package, name) = (object.key.package, object.key.name)
    · rw [if_pos same, same, Function.update_self, inStep.byName, (Prod.mk.inj same).1,
        (Prod.mk.inj same).2]
    · rw [if_neg same, Function.update_of_ne same, inStep.byName, List.append_nil]

theorem enter (inStep : InStep state tables) {object : ObjectRef}
    (references : Option References) (new : tables.known object.key = none) :
    InStep (state.enter object references) (tables.enter object references) := by
  rw [ClosureState.enter, Tables.enter]
  split
  · have stillNew : (tables.noteMissing object).known object.key = none := by
      rw [Tables.noteMissing, Tables.emit]
      split <;> exact new
    exact (inStep.noteMissing object).store references stillNew
  · exact inStep.store references new

theorem answer (inStep : InStep state tables) {reference : Reference} (found : Option ObjectRef)
    (unasked : tables.resolved reference = none) :
    InStep { state with resolved := state.resolved ++ [(reference, found)] }
      (tables.answer reference found) := by
  rw [inStep.resolved] at unasked
  refine { inStep with resolved := fun other => ?_ }
  simp only [Tables.answer, ClosureState.answered?, List.find?_append, Option.map_or]
  by_cases same : other = reference
  · subst same
    rw [Function.update_self, ← ClosureState.answered?, unasked]
    simp
  · rw [Function.update_of_ne same, inStep.resolved, ← ClosureState.answered?]
    simp [Ne.symm same]

theorem noteUnresolved (inStep : InStep state tables) {reference : Reference}
    (referrer : ObjectRef) (iteration : Nat) (unasked : tables.resolved reference = none) :
    InStep (state.noteUnresolved reference referrer iteration)
      ((tables.noteMissing reference.placeholder).answer reference none) := by
  have stillUnasked : (tables.noteMissing reference.placeholder).resolved reference = none := by
    rw [Tables.noteMissing, Tables.emit]
    split <;> exact unasked
  exact ((inStep.noteMissing reference.placeholder).answer none stillUnasked).of_eq rfl rfl

/-- A known object is stored under its key. -/
theorem known_of_mem (inStep : InStep state tables) {member : KnownObject}
    (known : member ∈ state.known) : tables.known member.object.key = some member := by
  rw [inStep.known]
  cases found : state.known? member.object.key with
  | none => exact absurd (decide_eq_true rfl) (List.find?_eq_none.mp found member known)
  | some other =>
      have same : other.object.key = member.object.key := by simpa using List.find?_some found
      rw [ClosureState.eq_of_key_eq inStep.keysDistinct (List.mem_of_find?_eq_some found) known
        same]

/-- What is stored under a key is a known object with that key. -/
theorem mem_of_known (inStep : InStep state tables) {key : ObjectKey} {member : KnownObject}
    (stored : tables.known key = some member) : member ∈ state.known ∧ member.object.key = key := by
  rw [inStep.known] at stored
  exact ⟨List.mem_of_find?_eq_some stored, by simpa using List.find?_some stored⟩

theorem known_ne_none (inStep : InStep state tables) {key : ObjectKey} :
    tables.known key ≠ none ↔ state.knows key = true := by
  rw [inStep.known, ClosureState.knows, Option.isSome_iff_ne_none]

/-- The index lists the candidates in the order in which the state does. -/
theorem candidate?_eq (inStep : InStep state tables) (reference : Reference) (package : String) :
    (tables.byName (package, reference.name)).findSome? (tables.suited? reference) =
      state.candidate? reference package := by
  rw [inStep.byName, ClosureState.homonyms, ClosureState.candidate?]
  have stored : ∀ member ∈ state.known, tables.known member.object.key = some member :=
    fun member known => inStep.known_of_mem known
  generalize state.known = members at stored ⊢
  induction members with
  | nil => rfl
  | cons first rest ih =>
      have here := stored first List.mem_cons_self
      have others := ih fun member known => stored member (List.mem_cons_of_mem first known)
      rw [List.map_cons, List.filter_cons, List.find?_cons]
      cases named : (first.object.key.package == package && first.object.key.name == reference.name)
        with
      | false => simpa using others
      | true =>
          rw [if_pos rfl, List.findSome?_cons, Tables.suited?, here]
          cases suits : reference.kind.accepts first.object.key.objectType with
          | false => simpa using others
          | true =>
              cases agrees : ClosureState.ownerAgrees reference first.object with
              | false => simpa [agrees] using others
              | true => simp [agrees]

/-- **Looking up in the tables is looking up in the state.** -/
theorem lookup_eq (inStep : InStep state tables) (reference : Reference) :
    tables.lookup reference = state.lookup reference := by
  have candidates : ((ClosureState.searchedPackages reference).findSome? fun package =>
      (tables.byName (package, reference.name)).findSome? (tables.suited? reference)) =
        (ClosureState.searchedPackages reference).findSome? (state.candidate? reference) :=
    congrArg (List.findSome? · _) (funext (inStep.candidate?_eq reference))
  rw [Tables.lookup, ClosureState.lookup, inStep.resolved, inStep.missing]
  cases state.answered? reference with
  | some answer => cases answer <;> rfl
  | none =>
      cases found : (ClosureState.searchedPackages reference).findSome? (state.candidate? reference)
        <;> simp only [candidates.trans found]

/-- Tables in step with a sound and settled state are consistent. -/
theorem consistent (inStep : InStep state tables) {expansion : Expansion}
    (sound : expansion.Sound state) (settled : Expansion.Settled state) : tables.Consistent where
  ownKey _ _ stored := (inStep.mem_of_known stored).2
  listed key member stored := by
    obtain ⟨known, rfl⟩ := inStep.mem_of_known stored
    rw [inStep.byName]
    refine List.count_eq_one_of_mem (inStep.keysDistinct.filter _) (List.mem_filter.mpr ⟨?_, ?_⟩)
    · exact List.mem_map.mpr ⟨member, known, rfl⟩
    · simp
  onlyKnown package name key listed := by
    rw [inStep.byName] at listed
    obtain ⟨isKey, named⟩ := List.mem_filter.mp listed
    obtain ⟨member, known, rfl⟩ := List.mem_map.mp isKey
    refine ⟨?_, by simpa using named⟩
    rw [inStep.known_of_mem known]
    exact Option.some_ne_none member
  housed key package stored isMember := by
    obtain ⟨member, isStored⟩ := Option.ne_none_iff_exists'.mp stored
    obtain ⟨known, rfl⟩ := inStep.mem_of_known isStored
    refine inStep.known_ne_none.mpr (settled.housed member known
      (ObjectRef.new member.object.owner (ObjectKey.packageNode package)) ?_)
    rw [Expansion.containerOf?, isMember]
    rfl
  found reference object answered := by
    rw [inStep.resolved] at answered
    exact inStep.known_ne_none.mpr
      (settled.found reference object (ClosureState.mem_resolved_of_answered? answered))
  absent reference answered := by
    rw [inStep.resolved] at answered
    rw [inStep.missing]
    exact sound.absent reference (ClosureState.mem_resolved_of_answered? answered)
  distinct := inStep.edges ▸ inStep.distinct
  seen := inStep.edges ▸ inStep.seen

end InStep

/-- **Tables that are changed along with a state stay in step with it.** -/
theorem Evolves.inStep {state : ClosureState} {tables : Tables} (evolves : Evolves state tables) :
    InStep state tables := by
  induction evolves with
  | initial owners => exact .initial owners
  | seedRecord edge _ ih => exact ih.seedRecord edge
  | emit edge _ ih => exact ih.emit edge
  | enter object references _ new ih => exact ih.enter references new
  | noteFound reference object _ unasked ih => exact ih.answer (some object) unasked
  | noteUnresolved reference referrer iteration _ unasked ih =>
      exact ih.noteUnresolved referrer iteration unasked
  | written _ ih => exact ih.of_eq rfl rfl
  | grown _ ih => exact ih.of_eq rfl rfl

/-! ## The states of a run -/

namespace Expansion

variable {Log : Type} {expansion : Expansion} {sink : EdgeSink Log} {roots : List ObjectRef}
  {log : Log} {state after : ClosureState}

/-- A run passes a state: one in which it has admitted the first of its objects, one with which
it begins an iteration, one that it has scanned, or one in which it has resolved the first of
the pending references. -/
inductive Passes (expansion : Expansion) (sink : EdgeSink Log) (roots : List ObjectRef)
    (log : Log) : ClosureState → Prop
  | admitted {owners : List String} {first rest : List ObjectRef} {state : ClosureState}
      (known : expansion.catalog.owners = .ok owners)
      (order : expansion.priorObjects ++ roots = first ++ rest)
      (taken : first.foldlM expansion.takeUp ((ClosureState.initial owners).seed expansion.prior) =
        .ok state) :
      Passes expansion sink roots log state
  | begun {iteration : Nat} {state : ClosureState} {asked : List Reference} {before : Log}
      (begins : Begins expansion sink roots log iteration state asked before) :
      Passes expansion sink roots log state
  | scanned {iteration : Nat} {state : ClosureState}
      (visits : Visits expansion sink roots log iteration state) :
      Passes expansion sink roots log state.scanned
  | resolved {iteration : Nat} {state after : ClosureState}
      {first rest : List (Reference × ObjectRef)}
      (visits : Visits expansion sink roots log iteration state)
      (order : state.pending = first ++ rest)
      (taken : expansion.resolveAll iteration state.scanned.written first = .ok after) :
      Passes expansion sink roots log after

theorem Visits.scans {iteration : Nat}
    (visits : Visits expansion sink roots log iteration state) :
    Scans expansion roots iteration state := by
  obtain ⟨_, _, begins, _⟩ := visits
  exact begins.scans

/-- **Every state that a run passes is sound and settled.** -/
theorem Passes.sound (passes : Passes expansion sink roots log state) :
    Sound expansion state ∧ Settled state := by
  cases passes with
  | admitted known _ taken =>
      exact @Outcome.foldlM_induction _ _ _ _ (fun state => Sound expansion state ∧ Settled state)
        _ _ _ (sound_seed known) (fun _ _ _ _ both one => ⟨both.1.takeUp one, both.2.takeUp one⟩)
        taken
  | begun begins => exact begins.scans.sound
  | scanned visits =>
      obtain ⟨sound, settled⟩ := visits.scans.sound
      have same := ClosureState.bare_scanned
      exact ⟨sound.of_bare (same _), settled.of_bare (same _)⟩
  | @resolved iteration before _ first rest visits order taken =>
      obtain ⟨sound, settled⟩ := visits.scans.sound
      have same := ClosureState.bare_written_scanned
      have resolving : Resolving expansion before state := Outcome.foldlM_induction
        ⟨sound.of_bare (same _), settled.of_bare (same _), ClosureState.Extends.of_bare (same _)⟩
        (fun _ _ isFirst _ resolving one =>
          resolving.resolveOne (order ▸ List.mem_append_left rest isFirst) one) taken
      exact ⟨resolving.sound, resolving.settled⟩

/-! ## Tables along a run -/

/-- Tables can be kept in step up to a state. -/
def HasTables (state : ClosureState) : Prop := ∃ tables, Evolves state tables

theorem hasTables_seed (owners : List String) (prior : List Edge) :
    HasTables ((ClosureState.initial owners).seed prior) := by
  have seeded : ∀ state, HasTables state → HasTables (state.seed prior) := by
    induction prior with
    | nil => exact fun _ has => has
    | cons first rest ih =>
        rintro state ⟨tables, evolves⟩
        exact ih _ ⟨_, evolves.seedRecord first⟩
  exact seeded _ ⟨_, .initial owners⟩

namespace HasTables

theorem emitAll (has : HasTables state) (records : List Edge) :
    HasTables (state.emitAll records) := by
  induction records generalizing state with
  | nil => exact has
  | cons first rest ih =>
      obtain ⟨tables, evolves⟩ := has
      exact ih ⟨_, evolves.emit first⟩

theorem scanned (has : HasTables state) : HasTables state.scanned := has.emitAll _

theorem written (has : HasTables state) : HasTables state.written :=
  has.imp fun _ evolves => evolves.written

theorem grown (has : HasTables state) : HasTables state.grown :=
  has.imp fun _ evolves => evolves.grown

theorem takeUp (has : HasTables state) {object : ObjectRef}
    (taken : expansion.takeUp state object = .ok after) : HasTables after := by
  refine takeUp_induction has (fun before other references has new _ _ => ?_) taken
  obtain ⟨tables, evolves⟩ := has
  refine ⟨_, evolves.enter other references (by_contra fun stored => ?_)⟩
  rw [evolves.inStep.known_ne_none.mp stored] at new
  cases new

theorem resolveOne (has : HasTables state) {iteration : Nat} {entry : Reference × ObjectRef}
    (unasked : entry.1 ∉ state.resolved.map (·.1))
    (resolved : expansion.resolveOne iteration state entry = .ok after) : HasTables after := by
  obtain ⟨tables, evolves⟩ := has
  have unanswered : tables.resolved entry.1 = none := by
    rw [evolves.inStep.resolved, ← Option.not_isSome_iff_eq_none]
    intro answered
    obtain ⟨answer, noted⟩ := ClosureState.answered?_isSome.mp answered
    exact unasked (List.mem_map.mpr ⟨_, noted, rfl⟩)
  rcases resolveOne_eq_ok resolved with ⟨row, _, taken⟩ | ⟨_, rfl⟩
  · exact takeUp ⟨_, evolves.noteFound entry.1 row.toRef unanswered⟩ taken
  · exact ⟨_, evolves.noteUnresolved entry.1 entry.2 iteration unanswered⟩

theorem resolveAll (has : HasTables state) {iteration : Nat}
    {pending : List (Reference × ObjectRef)} (once : (pending.map (·.1)).Nodup)
    (unasked : ∀ reference ∈ pending.map (·.1), reference ∉ state.resolved.map (·.1))
    (resolved : expansion.resolveAll iteration state pending = .ok after) : HasTables after := by
  induction pending generalizing state with
  | nil =>
      obtain rfl := Outcome.pure_eq_ok.mp resolved
      exact has
  | cons entry rest ih =>
      rw [Expansion.resolveAll, List.foldlM_cons, Outcome.bind_eq_ok] at resolved
      obtain ⟨middle, one, others⟩ := resolved
      obtain ⟨apart, once⟩ := List.nodup_cons.mp once
      refine ih (has.resolveOne (unasked _ List.mem_cons_self) one) once ?_ others
      intro reference isLater noted
      rw [map_resolved_resolveOne one, List.mem_append, List.mem_singleton] at noted
      rcases noted with old | rfl
      · exact unasked reference (List.mem_cons_of_mem _ isLater) old
      · exact apart isLater

/-- The first of the pending references of a state are resolved once each. -/
theorem resolveFirst (has : HasTables state) {iteration : Nat}
    {first rest : List (Reference × ObjectRef)} (order : state.pending = first ++ rest)
    (resolved : expansion.resolveAll iteration state.scanned.written first = .ok after) :
    HasTables after := by
  have once := ClosureState.nodup_map_pending state
  rw [order, List.map_append] at once
  refine has.scanned.written.resolveAll (List.nodup_append.mp once).1 (fun reference isFirst => ?_)
    resolved
  rw [(ClosureState.fields_of_bare (ClosureState.bare_written_scanned state)).2.2.1]
  refine ClosureState.not_mem_resolved_of_pending ?_
  rw [order, List.map_append]
  exact List.mem_append_left _ isFirst

end HasTables

theorem Scans.hasTables {iteration : Nat} (scans : Scans expansion roots iteration state) :
    HasTables state := by
  induction scans with
  | first started =>
      obtain ⟨owners, _, taken⟩ := start_eq_ok started
      exact (Outcome.foldlM_induction (hasTables_seed owners expansion.prior)
        (fun _ _ _ _ has one => has.takeUp one) taken).written
  | next _ _ resolved ih =>
      exact (ih.resolveFirst (List.append_nil _).symm resolved).written.grown

theorem Passes.hasTables (passes : Passes expansion sink roots log state) : HasTables state := by
  cases passes with
  | @admitted owners first rest _ _ _ taken =>
      exact Outcome.foldlM_induction (hasTables_seed owners expansion.prior)
        (fun _ _ _ _ has one => has.takeUp one) taken
  | begun begins => exact begins.scans.hasTables
  | scanned visits => exact visits.scans.hasTables.scanned
  | resolved visits order taken => exact visits.scans.hasTables.resolveFirst order taken

/-- **The collections of a run stay consistent.**  In every state that a run passes, tables
can have been changed along with the state, and whenever they have been they say what the
state says, answer references like it, and agree with each other. -/
theorem tables_consistent (passes : Passes expansion sink roots log state) :
    (∃ tables, Evolves state tables) ∧ ∀ tables, Evolves state tables →
      tables.Consistent ∧ InStep state tables ∧
        ∀ reference, tables.lookup reference = state.lookup reference := by
  obtain ⟨sound, settled⟩ := passes.sound
  refine ⟨passes.hasTables, fun tables evolves => ?_⟩
  have inStep := evolves.inStep
  exact ⟨inStep.consistent sound settled, inStep, inStep.lookup_eq⟩

/-- The expansion of a procedure that calls a function of a package and a procedure that does
not exist. -/
def packagedExpansion : Expansion where
  catalog := (Snapshot.ofRows [.new "A" .function "P" "F", .new "A" .procedure "" "MAIN"]).catalog
  sources := (SourceShelf.ofEntries [.new "A" "" "MAIN" "X := P.F(1); LOST(2);",
    .new "A" "P" "F" "NULL;", .new "A" "" "P" "NULL;"]).store
  config := {}

/-- The calling procedure. -/
def packagedRoot : ObjectRef := ObjectRef.new (some "A") (.rootLevel .procedure "MAIN")

/-- The state in which both calls have been resolved. -/
def packagedState : Except ClosureError ClosureState := do
  let first ← packagedExpansion.start [packagedRoot]
  packagedExpansion.resolveAll 1 first.written.scanned.written first.written.pending

theorem names_packagedState :
    (packagedState, ()).1.toOption.map (fun state => (state.homonyms "P" "F",
      state.homonyms rootPackage "P", state.missing.toList.map (·.name))) =
      some ([.new .function "P" "F"], [.packageNode "P"], ["LOST"]) := by
  with_unfolding_all rfl

/-- The function and its package are indexed, and what does not exist is missing. -/
theorem packagedState_consistent :
    ∃ state tables, Passes packagedExpansion EdgeList.sink [packagedRoot] [] state ∧
      Evolves state tables ∧ tables.Consistent ∧
      tables.byName ("P", "F") = [.new .function "P" "F"] ∧
      tables.byName (rootPackage, "P") = [.packageNode "P"] ∧
      tables.missing.toList.map (·.name) = ["LOST"] := by
  obtain ⟨state, _, resolved, names⟩ := Outcome.eq_ok_of_reading names_packagedState
  obtain ⟨first, started, resolved⟩ := Outcome.bind_eq_ok.mp (Prod.mk.inj resolved).1
  have visits : Visits packagedExpansion EdgeList.sink [packagedRoot] [] 1 first.written :=
    ⟨[], _, .first started rfl, by decide, rfl⟩
  have passes := Passes.resolved visits (List.append_nil _).symm resolved
  obtain ⟨⟨tables, evolves⟩, consistent⟩ := tables_consistent passes
  obtain ⟨agree, inStep, _⟩ := consistent tables evolves
  simp only [Prod.mk.injEq] at names
  refine ⟨state, tables, passes, evolves, agree, ?_, ?_, ?_⟩
  · rw [inStep.byName, names.1]
  · rw [inStep.byName, names.2.1]
  · rw [inStep.missing, names.2.2]

end Expansion

end SchemaPlan
