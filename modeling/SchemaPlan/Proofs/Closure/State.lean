import SchemaPlan.Closure.State
import SchemaPlan.Proofs.Collection
import SchemaPlan.Proofs.Edge.Sink

/-!
# Changes of a closure state

A closure state changes in a few elementary ways: records are added, an object
is entered, the answer to a reference is noted.  For each of them it is said
what it does to the known objects, the answers, the missing keys and the
records.  Looking up a reference reads neither the records nor the history, so
it is enough to compare states without these (`bare`).
-/

set_option autoImplicit false

namespace SchemaPlan

namespace ClosureState

variable {state : ClosureState} {edge : Edge} {object : ObjectRef}

/-! ## Records -/

/-- A state without its records and its history: what looking up depends on. -/
def bare (state : ClosureState) : ClosureState :=
  { state with edges := [], batch := [], unresolved := [], growth := [] }

theorem fields_of_bare {first second : ClosureState} (same : first.bare = second.bare) :
    first.owners = second.owners ∧ first.known = second.known ∧
      first.resolved = second.resolved ∧ first.missing = second.missing := by
  simpa [bare] using same

theorem bare_emit (state : ClosureState) (edge : Edge) : (state.emit edge).bare = state.bare := by
  rw [emit]
  split <;> rfl

theorem mem_edges_emit {other : Edge} :
    other ∈ (state.emit edge).edges ↔ other ∈ state.edges ∨ other = edge := by
  rw [emit]
  split
  · next present =>
    exact ⟨.inl, fun either => either.elim id fun same => same ▸ present⟩
  · simp

theorem bare_emitAll (state : ClosureState) (records : List Edge) :
    (state.emitAll records).bare = state.bare := by
  induction records generalizing state with
  | nil => rfl
  | cons first rest ih => exact (ih (state.emit first)).trans (bare_emit state first)

theorem mem_edges_emitAll {records : List Edge} :
    edge ∈ (state.emitAll records).edges ↔ edge ∈ state.edges ∨ edge ∈ records := by
  induction records generalizing state with
  | nil => simp [emitAll]
  | cons first rest ih =>
      have here := @ih (state.emit first)
      rw [mem_edges_emit, or_assoc] at here
      rw [List.mem_cons]
      exact here

theorem bare_scanned (state : ClosureState) : state.scanned.bare = state.bare :=
  bare_emitAll state _

theorem bare_written_scanned (state : ClosureState) : state.scanned.written.bare = state.bare :=
  bare_scanned state

/-- A scan adds the records of all known objects and nothing else. -/
theorem mem_edges_scanned :
    edge ∈ state.scanned.edges ↔
      edge ∈ state.edges ∨ ∃ member ∈ state.known, edge ∈ state.recordsOf member := by
  rw [scanned, mem_edges_emitAll, List.mem_flatMap]
  simp only [sortedKnown, Sorting.mem_sortOn]

theorem bare_seedRecord (state : ClosureState) (edge : Edge) :
    { (state.seedRecord edge).bare with missing := ∅ } = { state.bare with missing := ∅ } := rfl

/-- The records of an earlier run add their missing keys and themselves. -/
theorem seed_spec (state : ClosureState) (prior : List Edge) :
    { (state.seed prior).bare with missing := ∅ } = { state.bare with missing := ∅ } ∧
    (∀ edge, edge ∈ (state.seed prior).edges ↔ edge ∈ state.edges ∨ edge ∈ prior) ∧
    ∀ key, key ∈ (state.seed prior).missing ↔ key ∈ state.missing ∨
      ∃ edge ∈ prior, edge.status = .missing ∧ edge.object.key = key := by
  induction prior generalizing state with
  | nil => simp [seed]
  | cons first rest ih =>
      obtain ⟨bare, edges, missing⟩ := ih (state.seedRecord first)
      refine ⟨bare.trans (bare_seedRecord state first), fun edge => ?_, fun key => ?_⟩
      · refine (edges edge).trans ?_
        rw [seedRecord, EdgeList.mem_add, List.mem_cons, or_assoc]
      · refine (missing key).trans ?_
        by_cases isMissing : first.status = .missing
        · simp only [seedRecord, isMissing, if_true, OrderedSet.mem_insert,
            List.exists_mem_cons_iff, true_and]
          rw [or_comm (a := key = _), or_assoc, eq_comm (a := key)]
        · simp only [seedRecord, isMissing, if_false, List.exists_mem_cons_iff, false_and,
            false_or]

/-- A state made from the records of an earlier run knows no object and no
answer. -/
theorem fields_seed_initial (owners : List String) (prior : List Edge) :
    ((initial owners).seed prior).owners = owners ∧ ((initial owners).seed prior).known = [] ∧
      ((initial owners).seed prior).resolved = [] := by
  have fields := (seed_spec (initial owners) prior).1
  simp only [bare, initial, ClosureState.mk.injEq] at fields
  exact ⟨fields.1, fields.2.1, fields.2.2.1⟩

/-! ## Known objects -/

theorem knows_iff {key : ObjectKey} :
    state.knows key = true ↔ ∃ member ∈ state.known, member.object.key = key := by
  simp [knows, known?, List.find?_isSome]

/-- Of the objects that are known under distinct keys one has a given key. -/
theorem eq_of_key_eq (distinct : (state.known.map (·.object.key)).Nodup)
    {member other : KnownObject} (known : member ∈ state.known) (alsoKnown : other ∈ state.known)
    (same : member.object.key = other.object.key) : member = other :=
  List.inj_on_of_nodup_map distinct known alsoKnown same

/-- Entering an object makes it known and, when it is a routine without source,
missing. -/
theorem fields_enter (state : ClosureState) (object : ObjectRef)
    (references : Option References) :
    (state.enter object references).owners = state.owners ∧
    (state.enter object references).known = state.known ++ [⟨object, references⟩] ∧
    (state.enter object references).resolved = state.resolved ∧
    (state.enter object references).missing =
      if references.isNone && object.key.objectType.isRoutine then
        state.missing.insert object.key
      else state.missing := by
  rw [enter]
  split
  · obtain ⟨owners, known, resolved, missing⟩ := fields_of_bare (bare_emit
      { state with missing := state.missing.insert object.key } (Edge.missing object))
    exact ⟨owners, by rw [known], resolved, missing⟩
  · exact ⟨rfl, rfl, rfl, rfl⟩

/-- Entering a routine without source changes nothing else when the routine has been
recorded as missing. -/
theorem enter_of_recorded {references : Option References}
    (recorded : references = none → object.key.objectType.isRoutine = true →
      object.key ∈ state.missing ∧ Edge.missing object ∈ state.edges) :
    state.enter object references = { state with known := state.known ++ [⟨object, references⟩] } := by
  rw [enter]
  split
  · next sourceless =>
    rw [Bool.and_eq_true, Option.isNone_iff_eq_none] at sourceless
    obtain ⟨isMissing, present⟩ := recorded sourceless.1 sourceless.2
    rw [OrderedSet.insert_of_mem isMissing, emit, if_pos present]
  · rfl

theorem known_enter (state : ClosureState) (object : ObjectRef)
    (references : Option References) :
    (state.enter object references).known = state.known ++ [⟨object, references⟩] :=
  (fields_enter state object references).2.1

theorem mem_known_enter {references : Option References} {member : KnownObject} :
    member ∈ (state.enter object references).known ↔
      member ∈ state.known ∨ member = ⟨object, references⟩ := by
  rw [known_enter, List.mem_append, List.mem_singleton]

theorem mem_missing_enter {references : Option References} {key : ObjectKey} :
    key ∈ (state.enter object references).missing ↔ key ∈ state.missing ∨
      references = none ∧ object.key.objectType.isRoutine = true ∧ key = object.key := by
  rw [(fields_enter state object references).2.2.2]
  split
  · next sourceless =>
    rw [Bool.and_eq_true, Option.isNone_iff_eq_none] at sourceless
    simp only [OrderedSet.mem_insert, sourceless, true_and]
    exact or_comm
  · next sourced =>
    rw [Bool.and_eq_true, Option.isNone_iff_eq_none] at sourced
    refine ⟨.inl, ?_⟩
    rintro (old | ⟨noSource, isRoutine, _⟩)
    · exact old
    · exact absurd ⟨noSource, isRoutine⟩ sourced

/-- Entering an object adds a record when it is a routine without source. -/
theorem mem_edges_enter {references : Option References} :
    edge ∈ (state.enter object references).edges ↔ edge ∈ state.edges ∨
      references = none ∧ object.key.objectType.isRoutine = true ∧ edge = Edge.missing object := by
  rw [enter]
  split
  · next sourceless =>
    rw [Bool.and_eq_true, Option.isNone_iff_eq_none] at sourceless
    refine mem_edges_emit.trans ?_
    simp only [sourceless, true_and]
  · next sourced =>
    rw [Bool.and_eq_true, Option.isNone_iff_eq_none] at sourced
    refine ⟨.inl, ?_⟩
    rintro (old | ⟨noSource, isRoutine, _⟩)
    · exact old
    · exact absurd ⟨noSource, isRoutine⟩ sourced

/-- The confirmed records are the same before and after. -/
def SameRecords (before after : ClosureState) : Prop :=
  ∀ edge : Edge, edge.status = .ok → (edge ∈ after.edges ↔ edge ∈ before.edges)

theorem SameRecords.refl (state : ClosureState) : SameRecords state state := fun _ _ => Iff.rfl

theorem SameRecords.trans {first second third : ClosureState}
    (earlier : SameRecords first second) (later : SameRecords second third) :
    SameRecords first third :=
  fun edge ok => (later edge ok).trans (earlier edge ok)

/-- A record that an object is missing confirms nothing. -/
theorem sameRecords_emit_missing (state : ClosureState) (object : ObjectRef) :
    SameRecords state (state.emit (Edge.missing object)) := by
  intro edge ok
  rw [mem_edges_emit]
  refine ⟨fun either => either.resolve_right fun same => ?_, .inl⟩
  rw [same] at ok
  cases ok

theorem sameRecords_enter (state : ClosureState) (object : ObjectRef)
    (references : Option References) :
    SameRecords state (state.enter object references) := by
  rw [enter]
  split
  · exact sameRecords_emit_missing { state with missing := state.missing.insert object.key } object
  · exact SameRecords.refl state

/-! ## Answers -/

/-- Noting that nothing satisfies a reference makes its placeholder missing. -/
theorem fields_noteUnresolved (state : ClosureState) (reference : Reference)
    (referrer : ObjectRef) (iteration : Nat) :
    (state.noteUnresolved reference referrer iteration).owners = state.owners ∧
    (state.noteUnresolved reference referrer iteration).known = state.known ∧
    (state.noteUnresolved reference referrer iteration).resolved =
      state.resolved ++ [(reference, none)] ∧
    (state.noteUnresolved reference referrer iteration).missing =
      state.missing.insert reference.placeholder.key := by
  obtain ⟨owners, known, resolved, missing⟩ := fields_of_bare (bare_emit
    { state with missing := state.missing.insert reference.placeholder.key }
    (Edge.missing reference.placeholder))
  exact ⟨owners, known, congrArg (· ++ [(reference, none)]) resolved, missing⟩

theorem sameRecords_noteUnresolved (state : ClosureState) (reference : Reference)
    (referrer : ObjectRef) (iteration : Nat) :
    SameRecords state (state.noteUnresolved reference referrer iteration) :=
  sameRecords_emit_missing { state with missing := state.missing.insert reference.placeholder.key }
    reference.placeholder

end ClosureState

end SchemaPlan
