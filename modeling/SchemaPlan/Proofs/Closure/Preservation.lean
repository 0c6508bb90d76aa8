import SchemaPlan.Proofs.Closure.Run

/-!
# What every step preserves

The states of an expansion change by a few elementary steps: a scan, the entry
of an object whose source has been read, and the note of an answer of the
catalog.  A property that each of them preserves holds of every state that a run
scans, once it holds of the state made from the records of an earlier run
(`Preserved.scans`).

The first use is the log.  What is missing can be read off the records: a key is
missing exactly when some record says so, and whatever makes a key missing adds
the record (`Logged`).
-/

set_option autoImplicit false

namespace SchemaPlan.Expansion

variable {expansion : Expansion} {roots : List ObjectRef} {property : ClosureState → Prop}

/-- Every elementary step keeps the property. -/
structure Preserved (expansion : Expansion) (property : ClosureState → Prop) : Prop where
  scanned : ∀ state, property state → property state.scanned
  enter : ∀ (state : ClosureState) object references, property state →
    state.knows object.key = false → expansion.referencesOf object = .ok references →
    property (state.enter object references)
  noteFound : ∀ (state : ClosureState) reference row, property state →
    property (state.noteFound reference (CatalogRow.toRef row))
  noteUnresolved : ∀ (state : ClosureState) reference referrer iteration, property state →
    property (state.noteUnresolved reference referrer iteration)

namespace Preserved

variable {state after : ClosureState}

theorem takeUp (preserved : expansion.Preserved property) {object : ObjectRef}
    (holds : property state) (taken : expansion.takeUp state object = .ok after) :
    property after :=
  takeUp_induction holds
    (fun before other references holds new read _ =>
      preserved.enter before other references holds new read) taken

theorem takeUpAll (preserved : expansion.Preserved property) {objects : List ObjectRef}
    (holds : property state) (taken : objects.foldlM expansion.takeUp state = .ok after) :
    property after :=
  Outcome.foldlM_induction holds (fun _ _ _ _ holds one => preserved.takeUp holds one) taken

theorem resolveOne (preserved : expansion.Preserved property) {iteration : Nat}
    {entry : Reference × ObjectRef} (holds : property state)
    (resolved : expansion.resolveOne iteration state entry = .ok after) : property after := by
  rcases resolveOne_eq_ok resolved with ⟨row, _, taken⟩ | ⟨_, rfl⟩
  · exact preserved.takeUp (preserved.noteFound state entry.1 row holds) taken
  · exact preserved.noteUnresolved state entry.1 entry.2 iteration holds

theorem resolveAll (preserved : expansion.Preserved property) {iteration : Nat}
    {pending : List (Reference × ObjectRef)} (holds : property state)
    (resolved : expansion.resolveAll iteration state pending = .ok after) : property after :=
  Outcome.foldlM_induction holds (fun _ _ _ _ holds one => preserved.resolveOne holds one) resolved

/-- **What every step preserves holds of every scanned state**, if it holds at
the start and depends neither on what has been written nor on the growth. -/
theorem scans (preserved : expansion.Preserved property)
    (seeded : ∀ owners, property ((ClosureState.initial owners).seed expansion.prior))
    (written : ∀ state, property state → property (ClosureState.written state))
    (grown : ∀ state, property state → property (ClosureState.grown state))
    {iteration : Nat} (scans : Scans expansion roots iteration state) : property state := by
  induction scans with
  | first started =>
      obtain ⟨owners, _, taken⟩ := start_eq_ok started
      exact written _ (preserved.takeUpAll (seeded owners) taken)
  | next _ _ resolved ih =>
      have scanned := written _ (preserved.scanned _ ih)
      exact grown _ (written _ (preserved.resolveAll scanned resolved))

end Preserved

/-! ## Missing keys and their records -/

/-- The missing keys are those of the records that say so, and what makes a key
missing has its record. -/
structure Logged (state : ClosureState) : Prop where
  missing : ∀ key, key ∈ state.missing ↔
    ∃ edge ∈ state.edges, edge.status = .missing ∧ edge.object.key = key
  sourceless : ∀ member ∈ state.known, member.references = none →
    member.object.key.objectType.isRoutine = true → Edge.missing member.object ∈ state.edges
  unresolved : ∀ reference, (reference, none) ∈ state.resolved →
    Edge.missing reference.placeholder ∈ state.edges

namespace Logged

variable {state after : ClosureState}

/-- Confirmed records may be added at any time. -/
theorem of_bare (logged : Logged state) (same : after.bare = state.bare)
    (edges : ∀ edge ∈ state.edges, edge ∈ after.edges)
    (confirmed : ∀ edge ∈ after.edges, edge ∈ state.edges ∨ edge.status = .ok) :
    Logged after := by
  obtain ⟨_, known, resolved, missing⟩ := ClosureState.fields_of_bare same
  refine ⟨fun key => ?_, fun member inKnown sourceless isRoutine => ?_, fun reference noted => ?_⟩
  · rw [missing, logged.missing key]
    constructor
    · rintro ⟨edge, recorded, isMissing⟩
      exact ⟨edge, edges edge recorded, isMissing⟩
    · rintro ⟨edge, recorded, isMissing, sameKey⟩
      rcases confirmed edge recorded with old | ok
      · exact ⟨edge, old, isMissing, sameKey⟩
      · rw [isMissing] at ok
        cases ok
  · exact edges _ (logged.sourceless member (known ▸ inKnown) sourceless isRoutine)
  · exact edges _ (logged.unresolved reference (resolved ▸ noted))

/-- A missing key is added together with its record. -/
theorem emit_missing (logged : Logged state) (object : ObjectRef) :
    Logged ({ state with missing := state.missing.insert object.key }.emit
      (Edge.missing object)) := by
  let noted := { state with missing := state.missing.insert object.key }
  obtain ⟨_, known, resolved, missing⟩ :=
    ClosureState.fields_of_bare (ClosureState.bare_emit noted (Edge.missing object))
  have edges : ∀ {edge : Edge}, edge ∈ (noted.emit (Edge.missing object)).edges ↔
      edge ∈ state.edges ∨ edge = Edge.missing object := ClosureState.mem_edges_emit
  refine ⟨fun key => ?_, fun member inKnown sourceless isRoutine => ?_, fun reference here => ?_⟩
  · rw [missing, OrderedSet.mem_insert, logged.missing key]
    constructor
    · rintro (rfl | ⟨edge, recorded, said⟩)
      · exact ⟨Edge.missing object, edges.mpr (.inr rfl), rfl, rfl⟩
      · exact ⟨edge, edges.mpr (.inl recorded), said⟩
    · rintro ⟨edge, recorded, isMissing, sameKey⟩
      rcases edges.mp recorded with old | rfl
      · exact .inr ⟨edge, old, isMissing, sameKey⟩
      · exact .inl sameKey.symm
  · exact edges.mpr (.inl (logged.sourceless member (known ▸ inKnown) sourceless isRoutine))
  · exact edges.mpr (.inl (logged.unresolved reference (resolved ▸ here)))

theorem enter (logged : Logged state) (object : ObjectRef) (references : Option References) :
    Logged (state.enter object references) := by
  rw [ClosureState.enter]
  split
  · next sourceless =>
    have noted := logged.emit_missing object
    refine ⟨noted.missing, fun member inKnown isSourceless isRoutine => ?_, noted.unresolved⟩
    rcases List.mem_append.mp inKnown with old | new
    · exact noted.sourceless member old isSourceless isRoutine
    · rw [List.mem_singleton.mp new]
      exact ClosureState.mem_edges_emit.mpr (.inr rfl)
  · next sourced =>
    refine ⟨logged.missing, fun member inKnown isSourceless isRoutine => ?_, logged.unresolved⟩
    rcases List.mem_append.mp inKnown with old | new
    · exact logged.sourceless member old isSourceless isRoutine
    · rw [List.mem_singleton.mp new] at isSourceless isRoutine
      dsimp only at isSourceless isRoutine
      simp [isSourceless, isRoutine] at sourced

theorem noteFound (logged : Logged state) (reference : Reference) (object : ObjectRef) :
    Logged (state.noteFound reference object) := by
  refine ⟨logged.missing, logged.sourceless, fun other noted => ?_⟩
  rcases List.mem_append.mp noted with old | new
  · exact logged.unresolved other old
  · cases List.mem_singleton.mp new

theorem noteUnresolved (logged : Logged state) (reference : Reference) (referrer : ObjectRef)
    (iteration : Nat) : Logged (state.noteUnresolved reference referrer iteration) := by
  have noted := logged.emit_missing reference.placeholder
  refine ⟨noted.missing, noted.sourceless, fun other here => ?_⟩
  rcases List.mem_append.mp here with old | new
  · exact noted.unresolved other old
  · rw [(Prod.mk.inj (List.mem_singleton.mp new)).1]
    exact ClosureState.mem_edges_emit.mpr (.inr rfl)

theorem scanned (logged : Logged state) : Logged state.scanned := by
  refine logged.of_bare (ClosureState.bare_scanned state) (fun edge old => ?_) fun edge now => ?_
  · exact ClosureState.mem_edges_scanned.mpr (.inl old)
  · refine (ClosureState.mem_edges_scanned.mp now).imp_right ?_
    rintro ⟨member, _, recorded⟩
    exact (ClosureState.confirmed_of_mem_recordsOf recorded).1

theorem seed (owners : List String) (prior : List Edge) :
    Logged ((ClosureState.initial owners).seed prior) := by
  obtain ⟨_, edges, missing⟩ := ClosureState.seed_spec (.initial owners) prior
  obtain ⟨_, nothingKnown, nothingResolved⟩ := ClosureState.fields_seed_initial owners prior
  refine ⟨fun key => ?_, fun member known => ?_, fun reference noted => ?_⟩
  · have onlyPrior : ∀ edge, edge ∈ ((ClosureState.initial owners).seed prior).edges ↔
        edge ∈ prior := fun edge => (edges edge).trans (or_iff_right List.not_mem_nil)
    simp only [onlyPrior]
    exact (missing key).trans (or_iff_right OrderedSet.not_mem_empty)
  · exact absurd (nothingKnown ▸ known) List.not_mem_nil
  · exact absurd (nothingResolved ▸ noted) List.not_mem_nil

end Logged

/-- **What is missing is recorded** in every state that a run scans. -/
theorem Scans.logged {iteration : Nat} {state : ClosureState}
    (scans : Scans expansion roots iteration state) : Logged state := by
  have preserved : expansion.Preserved Logged := {
    scanned := fun _ logged => logged.scanned
    enter := fun _ object references logged _ _ => logged.enter object references
    noteFound := fun _ reference row logged => logged.noteFound reference row.toRef
    noteUnresolved := fun _ reference referrer iteration logged =>
      logged.noteUnresolved reference referrer iteration }
  refine preserved.scans (fun owners => Logged.seed owners expansion.prior) ?_ ?_ scans
  · exact fun _ logged => ⟨logged.missing, logged.sourceless, logged.unresolved⟩
  · exact fun _ logged => ⟨logged.missing, logged.sourceless, logged.unresolved⟩

end SchemaPlan.Expansion
