import SchemaPlan.Closure.Expansion
import SchemaPlan.Proofs.Closure.Extension
import SchemaPlan.Proofs.Outcome

/-!
# What holds throughout an expansion

Every state of an expansion is `Sound`: the known objects have distinct keys
and the references of their sources; every noted answer was given by the
catalog to a known object; a missing key is accounted for.  This is kept by each
elementary step.

An object is taken up together with its package, and an answer is noted
together with the object that it names.  So there is a second invariant,
`Settled`, that holds only before and after such a pair of steps: packages of
known objects are known, and so are the objects that answer references.
-/

set_option autoImplicit false

namespace SchemaPlan.Expansion

variable {expansion : Expansion} {state after : ClosureState}

/-! ## The invariants -/

/-- The catalog gives this answer to a reference of a known object. -/
def Asked (expansion : Expansion) (state : ClosureState) (reference : Reference)
    (answer : Option CatalogRow) : Prop :=
  ∃ member ∈ state.known, reference ∈ state.referencesFrom member ∧
    reference.resolve member.object.owner expansion.catalog = .ok answer

/-- A key is missing by an earlier run, as that of a routine without source, or
because nothing satisfies a reference. -/
def AccountsFor (expansion : Expansion) (state : ClosureState) (key : ObjectKey) : Prop :=
  (∃ edge ∈ expansion.prior, edge.status = .missing ∧ edge.object.key = key) ∨
  (∃ member ∈ state.known, member.object.key = key ∧ member.references = none ∧
    key.objectType.isRoutine = true) ∨
  ∃ reference, (reference, none) ∈ state.resolved ∧ reference.placeholder.key = key

/-- What every step of an expansion keeps. -/
structure Sound (expansion : Expansion) (state : ClosureState) : Prop where
  owners : expansion.catalog.owners = .ok state.owners
  keysDistinct : (state.known.map (·.object.key)).Nodup
  references : ∀ member ∈ state.known,
    expansion.referencesOf member.object = .ok member.references
  resolved : ∀ entry ∈ state.resolved, ∃ answer,
    expansion.Asked state entry.1 answer ∧ entry.2 = answer.map CatalogRow.toRef
  absent : ∀ reference, (reference, none) ∈ state.resolved →
    reference.placeholder.key ∈ state.missing
  missing : ∀ key ∈ state.missing, expansion.AccountsFor state key

/-- The packages of known objects are known. -/
def Housed (state : ClosureState) : Prop :=
  ∀ member ∈ state.known, ∀ container, containerOf? member.object = some container →
    state.knows container.key = true

/-- What holds between the steps of an expansion. -/
structure Settled (state : ClosureState) : Prop where
  housed : Housed state
  found : ∀ reference object, (reference, some object) ∈ state.resolved →
    state.knows object.key = true

theorem Asked.mono (owners : after.owners = state.owners)
    (known : ∀ member ∈ state.known, member ∈ after.known) {reference : Reference}
    {answer : Option CatalogRow} (asked : expansion.Asked state reference answer) :
    expansion.Asked after reference answer := by
  obtain ⟨member, inKnown, mentioned, answered⟩ := asked
  refine ⟨member, known member inKnown, ?_, answered⟩
  rw [ClosureState.referencesFrom, owners]
  exact mentioned

theorem AccountsFor.mono (known : ∀ member ∈ state.known, member ∈ after.known)
    (resolved : ∀ entry ∈ state.resolved, entry ∈ after.resolved) {key : ObjectKey}
    (accounts : expansion.AccountsFor state key) : expansion.AccountsFor after key := by
  rcases accounts with prior | ⟨member, inKnown, sourceless⟩ | ⟨reference, noted, same⟩
  · exact .inl prior
  · exact .inr (.inl ⟨member, known member inKnown, sourceless⟩)
  · exact .inr (.inr ⟨reference, resolved _ noted, same⟩)

/-! ## Elementary steps -/

namespace Sound

theorem of_bare (sound : Sound expansion state) (same : after.bare = state.bare) :
    Sound expansion after := by
  obtain ⟨owners, known, resolved, missing⟩ := ClosureState.fields_of_bare same
  refine ⟨owners ▸ sound.owners, known ▸ sound.keysDistinct, known ▸ sound.references, ?_, ?_, ?_⟩
  · intro entry noted
    obtain ⟨answer, asked, answered⟩ := sound.resolved entry (resolved ▸ noted)
    exact ⟨answer, asked.mono owners fun member inKnown => known ▸ inKnown, answered⟩
  · exact fun reference noted => missing ▸ sound.absent reference (resolved ▸ noted)
  · intro key isMissing
    exact (sound.missing key (missing ▸ isMissing)).mono (fun member inKnown => known ▸ inKnown)
      fun entry noted => resolved ▸ noted

theorem enter (sound : Sound expansion state) {object : ObjectRef}
    {references : Option References} (new : state.knows object.key = false)
    (read : expansion.referencesOf object = .ok references) :
    Sound expansion (state.enter object references) := by
  obtain ⟨owners, known, resolved, _⟩ := ClosureState.fields_enter state object references
  have widen : ∀ member ∈ state.known, member ∈ (state.enter object references).known :=
    fun member old => ClosureState.mem_known_enter.mpr (.inl old)
  refine ⟨owners ▸ sound.owners, ?_, ?_, ?_, ?_, ?_⟩
  · rw [known, List.map_append, List.nodup_append]
    refine ⟨sound.keysDistinct, List.nodup_singleton _, fun key member other here same => ?_⟩
    obtain ⟨old, inKnown, rfl⟩ := List.mem_map.mp member
    rw [List.map_singleton, List.mem_singleton] at here
    rw [ClosureState.knows_iff.mpr ⟨old, inKnown, same.trans here⟩] at new
    cases new
  · intro member inKnown
    rcases ClosureState.mem_known_enter.mp inKnown with old | rfl
    · exact sound.references member old
    · exact read
  · intro entry noted
    obtain ⟨answer, asked, answered⟩ := sound.resolved entry (resolved ▸ noted)
    exact ⟨answer, asked.mono owners widen, answered⟩
  · exact fun reference noted =>
      ClosureState.mem_missing_enter.mpr (.inl (sound.absent reference (resolved ▸ noted)))
  · intro key isMissing
    rcases ClosureState.mem_missing_enter.mp isMissing with old | ⟨sourceless, isRoutine, rfl⟩
    · exact (sound.missing key old).mono widen fun entry noted => resolved ▸ noted
    · exact .inr (.inl ⟨⟨object, references⟩, ClosureState.mem_known_enter.mpr (.inr rfl), rfl,
        sourceless, isRoutine⟩)

theorem noteFound (sound : Sound expansion state) {reference : Reference} {row : CatalogRow}
    (asked : expansion.Asked state reference (some row)) :
    Sound expansion (state.noteFound reference row.toRef) := by
  refine ⟨sound.owners, sound.keysDistinct, sound.references, ?_, ?_, ?_⟩
  · intro entry noted
    rcases List.mem_append.mp noted with old | new
    · exact sound.resolved entry old
    · exact ⟨some row, List.mem_singleton.mp new ▸ asked, List.mem_singleton.mp new ▸ rfl⟩
  · intro other noted
    rcases List.mem_append.mp noted with old | new
    · exact sound.absent other old
    · cases List.mem_singleton.mp new
  · intro key isMissing
    have known : ∀ member ∈ state.known, member ∈ (state.noteFound reference row.toRef).known :=
      fun member inKnown => inKnown
    exact (sound.missing key isMissing).mono known fun entry noted => List.mem_append_left _ noted

theorem noteUnresolved (sound : Sound expansion state) {reference : Reference}
    (referrer : ObjectRef) (iteration : Nat) (asked : expansion.Asked state reference none) :
    Sound expansion (state.noteUnresolved reference referrer iteration) := by
  obtain ⟨owners, known, resolved, missing⟩ :=
    ClosureState.fields_noteUnresolved state reference referrer iteration
  have widen : ∀ member ∈ state.known,
      member ∈ (state.noteUnresolved reference referrer iteration).known :=
    fun member old => known ▸ old
  refine ⟨owners ▸ sound.owners, known ▸ sound.keysDistinct, known ▸ sound.references, ?_, ?_, ?_⟩
  · rw [resolved]
    intro entry noted
    rcases List.mem_append.mp noted with old | new
    · obtain ⟨answer, wasAsked, answered⟩ := sound.resolved entry old
      exact ⟨answer, wasAsked.mono owners widen, answered⟩
    · rw [List.mem_singleton.mp new]
      exact ⟨none, asked.mono owners widen, rfl⟩
  · rw [resolved, missing]
    intro other noted
    rw [OrderedSet.mem_insert]
    rcases List.mem_append.mp noted with old | new
    · exact .inr (sound.absent other old)
    · rw [(Prod.mk.inj (List.mem_singleton.mp new)).1]
      exact .inl rfl
  · rw [missing]
    intro key isMissing
    rcases OrderedSet.mem_insert.mp isMissing with rfl | old
    · refine .inr (.inr ⟨reference, ?_, rfl⟩)
      rw [resolved]
      exact List.mem_append_right _ List.mem_cons_self
    · refine (sound.missing key old).mono widen fun entry noted => ?_
      rw [resolved]
      exact List.mem_append_left _ noted

end Sound

theorem Settled.of_bare (settled : Settled state) (same : after.bare = state.bare) :
    Settled after := by
  obtain ⟨_, known, resolved, _⟩ := ClosureState.fields_of_bare same
  have knows : ∀ key, state.knows key = true → after.knows key = true := fun key isKnown => by
    rw [ClosureState.knows, ClosureState.known?, known]
    exact isKnown
  refine ⟨fun member inKnown container contains => ?_, fun reference object noted => ?_⟩
  · exact knows _ (settled.housed member (known ▸ inKnown) container contains)
  · exact knows _ (settled.found reference object (resolved ▸ noted))

end SchemaPlan.Expansion
