import SchemaPlan.Proofs.Closure.Invariant
import SchemaPlan.Proofs.Object
import SchemaPlan.Proofs.Reference.Resolution

/-!
# Taking up objects and asking for references

To take up an object is to enter it, and then its package, unless they are
known; whatever is kept by entering an object is kept by this
(`takeUp_induction`).  To resolve the pending references of a state is to ask
the catalog for each of them, to note the answers and to take up the objects
found.  After each reference the state is sound and settled and extends the
state whose references were pending (`Resolving`), and no record has been
confirmed.

Nothing else is asked than the catalog and the source store, so every failure is one of
theirs (`FailsWith`).  A snapshot answers every question; with a snapshot and a source
store that never fails nothing does.
-/

set_option autoImplicit false

namespace SchemaPlan.Expansion

open ClosureState (SameRecords Extends)

variable {expansion : Expansion} {state after : ClosureState}

/-! ## Taking up an object -/

theorem takeUpObject_eq_ok {object : ObjectRef}
    (taken : expansion.takeUpObject state object = .ok after) :
    (state.knows object.key = true ∧ after = state) ∨
      state.knows object.key = false ∧ ∃ references,
        expansion.referencesOf object = .ok references ∧ after = state.enter object references := by
  rw [takeUpObject] at taken
  split at taken
  · next known => exact .inl ⟨known, (Except.ok.inj taken).symm⟩
  · next new =>
    obtain ⟨references, read, entered⟩ := Outcome.bind_eq_ok.mp taken
    exact .inr ⟨by simpa using new, references, read, (Outcome.pure_eq_ok.mp entered).symm⟩

theorem knows_takeUpObject {object : ObjectRef}
    (taken : expansion.takeUpObject state object = .ok after) : after.knows object.key = true := by
  rcases takeUpObject_eq_ok taken with ⟨known, rfl⟩ | ⟨_, references, _, rfl⟩
  · exact known
  · exact ClosureState.knows_iff.mpr
      ⟨_, ClosureState.mem_known_enter.mpr (.inr rfl), rfl⟩

theorem takeUp_eq_ok {object : ObjectRef} (taken : expansion.takeUp state object = .ok after) :
    (state.knows object.key = true ∧ after = state) ∨
      ∃ admitted, expansion.takeUpObject state object = .ok admitted ∧
        ((containerOf? object = none ∧ after = admitted) ∨ ∃ container,
          containerOf? object = some container ∧
          expansion.takeUpObject admitted container = .ok after) := by
  rw [takeUp] at taken
  split at taken
  · next known => exact .inl ⟨known, (Except.ok.inj taken).symm⟩
  · obtain ⟨admitted, first, taken⟩ := Outcome.bind_eq_ok.mp taken
    refine .inr ⟨admitted, first, ?_⟩
    cases contained : containerOf? object with
    | none =>
        rw [contained] at taken
        exact .inl ⟨rfl, (Outcome.pure_eq_ok.mp taken).symm⟩
    | some container =>
        rw [contained] at taken
        exact .inr ⟨container, rfl, taken⟩

/-- The container of an object is a package node, which has no container. -/
theorem containerOf?_eq_some {object container : ObjectRef}
    (contained : containerOf? object = some container) :
    (∃ package, object.key.package? = some package ∧
      container.key = ObjectKey.packageNode package) ∧ containerOf? container = none := by
  obtain ⟨package, isMember, rfl⟩ := Option.map_eq_some_iff.mp contained
  refine ⟨⟨package, isMember, rfl⟩, ?_⟩
  rw [containerOf?, Option.map_eq_none_iff, ObjectKey.package?, if_pos]
  exact isRootLevel_packageNode package

/-- Whatever entering the object, or its package, keeps holds after the object has
been taken up. -/
theorem takeUp_induction {property : ClosureState → Prop} {object : ObjectRef}
    (start : property state)
    (keeps : ∀ before other references, property before → before.knows other.key = false →
      expansion.referencesOf other = .ok references →
      (other = object ∨ containerOf? object = some other) →
      property (before.enter other references))
    (taken : expansion.takeUp state object = .ok after) : property after := by
  have step : ∀ before other later, property before →
      (other = object ∨ containerOf? object = some other) →
      expansion.takeUpObject before other = .ok later → property later := by
    intro before other later holds origin one
    rcases takeUpObject_eq_ok one with ⟨_, rfl⟩ | ⟨new, references, read, rfl⟩
    · exact holds
    · exact keeps before other references holds new read origin
  rcases takeUp_eq_ok taken with ⟨_, rfl⟩ | ⟨admitted, first, rest⟩
  · exact start
  · have middle := step state object admitted start (.inl rfl) first
    rcases rest with ⟨_, rfl⟩ | ⟨container, contained, second⟩
    · exact middle
    · exact step admitted container after middle (.inr contained) second

theorem Sound.takeUp (sound : Sound expansion state) {object : ObjectRef}
    (taken : expansion.takeUp state object = .ok after) : Sound expansion after :=
  takeUp_induction sound (fun _ _ _ sound new read _ => sound.enter new read) taken

theorem resolved_takeUp {object : ObjectRef} (taken : expansion.takeUp state object = .ok after) :
    after.resolved = state.resolved :=
  @takeUp_induction expansion state after (fun later => later.resolved = state.resolved) object rfl
    (fun before other references same _ _ _ =>
      (ClosureState.fields_enter before other references).2.2.1.trans same) taken

theorem known_takeUp {object : ObjectRef} (taken : expansion.takeUp state object = .ok after) :
    ∀ member ∈ state.known, member ∈ after.known :=
  @takeUp_induction expansion state after
    (fun later => ∀ member ∈ state.known, member ∈ later.known) object (fun _ known => known)
    (fun _ _ _ widen _ _ _ member known =>
      ClosureState.mem_known_enter.mpr (.inl (widen member known))) taken

theorem knows_takeUp_of_knows {object : ObjectRef} {key : ObjectKey}
    (taken : expansion.takeUp state object = .ok after) (known : state.knows key = true) :
    after.knows key = true := by
  obtain ⟨member, inKnown, same⟩ := ClosureState.knows_iff.mp known
  exact ClosureState.knows_iff.mpr ⟨member, known_takeUp taken member inKnown, same⟩

theorem sameRecords_takeUp {object : ObjectRef}
    (taken : expansion.takeUp state object = .ok after) : SameRecords state after :=
  @takeUp_induction expansion state after (SameRecords state) object (SameRecords.refl state)
    (fun before other references same _ _ _ =>
      same.trans (ClosureState.sameRecords_enter before other references)) taken

theorem knows_takeUp {object : ObjectRef} (taken : expansion.takeUp state object = .ok after) :
    after.knows object.key = true := by
  rcases takeUp_eq_ok taken with ⟨known, rfl⟩ | ⟨admitted, first, ⟨_, rfl⟩ | ⟨_, _, second⟩⟩
  · exact known
  · exact knows_takeUpObject first
  · have known := knows_takeUpObject first
    rcases takeUpObject_eq_ok second with ⟨_, rfl⟩ | ⟨_, _, _, rfl⟩
    · exact known
    · obtain ⟨member, inKnown, same⟩ := ClosureState.knows_iff.mp known
      exact ClosureState.knows_iff.mpr
        ⟨member, ClosureState.mem_known_enter.mpr (.inl inKnown), same⟩

theorem mem_known_takeUpObject {object : ObjectRef}
    (taken : expansion.takeUpObject state object = .ok after) {member : KnownObject}
    (known : member ∈ after.known) : member ∈ state.known ∨ member.object = object := by
  rcases takeUpObject_eq_ok taken with ⟨_, rfl⟩ | ⟨_, references, _, rfl⟩
  · exact .inl known
  · rcases ClosureState.mem_known_enter.mp known with old | rfl
    · exact .inl old
    · exact .inr rfl

/-- An object is taken up together with its package. -/
theorem Housed.takeUp (housed : Housed state) {object : ObjectRef}
    (taken : expansion.takeUp state object = .ok after) : Housed after := by
  rcases takeUp_eq_ok taken with ⟨_, rfl⟩ | ⟨admitted, first, rest⟩
  · exact housed
  · intro member known other contains
    have old : member ∈ state.known → after.knows other.key = true := fun inKnown =>
      knows_takeUp_of_knows taken (housed member inKnown other contains)
    rcases rest with ⟨uncontained, rfl⟩ | ⟨container, contained, second⟩
    · refine (mem_known_takeUpObject first known).elim old fun isObject => ?_
      rw [isObject, uncontained] at contains
      cases contains
    · rcases mem_known_takeUpObject second known with inAdmitted | isContainer
      · refine (mem_known_takeUpObject first inAdmitted).elim old fun isObject => ?_
        rw [isObject, contained] at contains
        exact Option.some.inj contains ▸ knows_takeUpObject second
      · rw [isContainer, (containerOf?_eq_some contained).2] at contains
        cases contains

theorem Settled.takeUp (settled : Settled state) {object : ObjectRef}
    (taken : expansion.takeUp state object = .ok after) : Settled after := by
  refine ⟨settled.housed.takeUp taken, fun reference other noted => ?_⟩
  rw [resolved_takeUp taken] at noted
  exact knows_takeUp_of_knows taken (settled.found reference other noted)

/-! ## Asking for a reference -/

theorem resolveOne_eq_ok {iteration : Nat} {entry : Reference × ObjectRef}
    (resolved : expansion.resolveOne iteration state entry = .ok after) :
    (∃ row, entry.1.resolve entry.2.owner expansion.catalog = .ok (some row) ∧
      expansion.takeUp (state.noteFound entry.1 row.toRef) row.toRef = .ok after) ∨
    entry.1.resolve entry.2.owner expansion.catalog = .ok none ∧
      after = state.noteUnresolved entry.1 entry.2 iteration := by
  obtain ⟨answer, asked, rest⟩ := Outcome.bind_eq_ok.mp resolved
  rw [Outcome.mapError_eq_ok] at asked
  cases answer with
  | some row => exact .inl ⟨row, asked, rest⟩
  | none => exact .inr ⟨asked, (Outcome.pure_eq_ok.mp rest).symm⟩

/-- What holds while the pending references of a state are resolved. -/
structure Resolving (expansion : Expansion) (base state : ClosureState) : Prop where
  sound : Sound expansion state
  settled : Settled state
  extension : Extends base state

theorem Settled.takeUp_noteFound (settled : Settled state) {reference : Reference}
    {object : ObjectRef}
    (taken : expansion.takeUp (state.noteFound reference object) object = .ok after) :
    Settled after := by
  have housed : Housed (state.noteFound reference object) := settled.housed
  refine ⟨housed.takeUp taken, fun other found noted => ?_⟩
  rw [resolved_takeUp taken] at noted
  rcases List.mem_append.mp noted with old | new
  · exact knows_takeUp_of_knows taken (settled.found other found old)
  · obtain rfl : found = object := Option.some.inj (Prod.mk.inj (List.mem_singleton.mp new)).2
    exact knows_takeUp taken

theorem Settled.noteUnresolved (settled : Settled state) (reference : Reference)
    (referrer : ObjectRef) (iteration : Nat) :
    Settled (state.noteUnresolved reference referrer iteration) := by
  obtain ⟨_, sameKnown, nowResolved, _⟩ :=
    ClosureState.fields_noteUnresolved state reference referrer iteration
  have knows : ∀ key, state.knows key = true →
      (state.noteUnresolved reference referrer iteration).knows key = true := fun key known => by
    rw [ClosureState.knows, ClosureState.known?, sameKnown]
    exact known
  refine ⟨fun other inKnown container contains =>
    knows _ (settled.housed other (sameKnown ▸ inKnown) container contains), ?_⟩
  rw [nowResolved]
  intro other object noted
  rcases List.mem_append.mp noted with old | new
  · exact knows _ (settled.found other object old)
  · cases List.mem_singleton.mp new

/-- What is found for an open reference is taken up as an object or as the package
of one, so the state is extended. -/
theorem extends_takeUp_noteFound {base : ClosureState} (extension : Extends base state)
    {reference : Reference} {object : ObjectRef} (unanswered : base.target? reference = none)
    (taken : expansion.takeUp (state.noteFound reference object) object = .ok after) :
    Extends base after := by
  refine (@takeUp_induction expansion _ after
    (fun later => Extends base later ∧ (reference, some object) ∈ later.resolved) object
    ⟨extension.noteFound unanswered, List.mem_append_right _ List.mem_cons_self⟩ ?_ taken).1
  rintro before other references ⟨extension, noted⟩ _ _ origin
  refine ⟨extension.enter references ?_, ?_⟩
  · rcases origin with rfl | contained
    · exact .inr ⟨reference, noted⟩
    · obtain ⟨⟨package, _, isPackage⟩, _⟩ := containerOf?_eq_some contained
      exact .inl ⟨package, isPackage⟩
  · rw [(ClosureState.fields_enter before other references).2.2.1]
    exact noted

/-- Resolving one pending reference of a state keeps what holds meanwhile. -/
theorem Resolving.resolveOne {base : ClosureState} (resolving : Resolving expansion base state)
    {iteration : Nat} {entry : Reference × ObjectRef} (pending : entry ∈ base.pending)
    (resolved : expansion.resolveOne iteration state entry = .ok after) :
    Resolving expansion base after := by
  obtain ⟨sound, settled, extension⟩ := resolving
  obtain ⟨reference, referrer⟩ := entry
  obtain ⟨member, inBase, rfl, mentioned, unanswered⟩ := ClosureState.mem_pending pending
  have stillMentioned : reference ∈ state.referencesFrom member := by
    rw [ClosureState.referencesFrom, extension.owners]
    exact mentioned
  have inState := extension.known.subset inBase
  rcases resolveOne_eq_ok resolved with ⟨row, asked, taken⟩ | ⟨asked, rfl⟩
  · have wasAsked : expansion.Asked state reference (some row) :=
      ⟨member, inState, stillMentioned, asked⟩
    exact ⟨(sound.noteFound wasAsked).takeUp taken, settled.takeUp_noteFound taken,
      extends_takeUp_noteFound extension unanswered taken⟩
  · have wasAsked : expansion.Asked state reference none :=
      ⟨member, inState, stillMentioned, asked⟩
    exact ⟨sound.noteUnresolved _ _ wasAsked, settled.noteUnresolved _ _ _,
      extension.noteUnresolved _ _ unanswered⟩

/-- **Resolving the pending references** of a sound and settled state leads to a
sound and settled state that extends it. -/
theorem resolving_resolveAll {base : ClosureState} {iteration : Nat}
    (sound : Sound expansion state) (settled : Settled state) (same : state.bare = base.bare)
    (resolved : expansion.resolveAll iteration state base.pending = .ok after) :
    Resolving expansion base after :=
  Outcome.foldlM_induction ⟨sound, settled, Extends.of_bare same⟩
    (fun _ _ pending _ resolving one => resolving.resolveOne pending one) resolved

/-- Asking for a reference confirms no record. -/
theorem sameRecords_resolveOne {iteration : Nat} {entry : Reference × ObjectRef}
    (resolved : expansion.resolveOne iteration state entry = .ok after) :
    SameRecords state after := by
  rcases resolveOne_eq_ok resolved with ⟨row, _, taken⟩ | ⟨_, rfl⟩
  · have same : SameRecords state (state.noteFound entry.1 row.toRef) := fun _ _ => Iff.rfl
    exact same.trans (sameRecords_takeUp taken)
  · exact ClosureState.sameRecords_noteUnresolved _ _ _ _

theorem sameRecords_resolveAll {iteration : Nat} {pending : List (Reference × ObjectRef)}
    (resolved : expansion.resolveAll iteration state pending = .ok after) :
    SameRecords state after :=
  Outcome.foldlM_induction (SameRecords.refl state)
    (fun _ _ _ _ same one => same.trans (sameRecords_resolveOne one)) resolved

/-! ## What can fail -/

variable {failure : ClosureError}

/-- A question to the catalog or to the source store fails, and the expansion with
it. -/
inductive FailsWith (expansion : Expansion) : ClosureError → Prop
  | owners {cause : CatalogError} (failed : expansion.catalog.owners = .error cause) :
      FailsWith expansion (.catalog cause)
  | packages {names : List String} {cause : CatalogError}
      (failed : expansion.catalog.existingPackages names = .error cause) :
      FailsWith expansion (.catalog cause)
  | answer {reference : Reference} {owner : Option String} {cause : CatalogError}
      (failed : reference.resolve owner expansion.catalog = .error cause) :
      FailsWith expansion (.catalog cause)
  | source {object : ObjectRef} {cause : SourceError}
      (failed : expansion.sources.fetch object = .error cause) :
      FailsWith expansion (.source cause)

theorem existingPackages_of_extractLines_eq_error {extractor : Extractor} {catalog : Catalog}
    {lines : List String} {cause : CatalogError}
    (failed : extractor.extractLines catalog lines = .error cause) :
    ∃ names, catalog.existingPackages names = .error cause := by
  rw [Extractor.extractLines, Extractor.extract] at failed
  split at failed
  · cases failed
  · rcases Outcome.bind_eq_error.mp failed with asked | ⟨_, _, confirmed⟩
    · exact ⟨_, asked⟩
    · cases confirmed

theorem referencesOf_eq_error {object : ObjectRef}
    (failed : expansion.referencesOf object = .error failure) : expansion.FailsWith failure := by
  rcases Outcome.bind_eq_error.mp failed with unfetched | ⟨source, _, rest⟩
  · obtain ⟨cause, isCause, rfl⟩ := Outcome.mapError_eq_error.mp unfetched
    exact .source isCause
  · cases source with
    | none => cases rest
    | some lines =>
        rcases Outcome.bind_eq_error.mp rest with unread | ⟨_, _, done⟩
        · obtain ⟨cause, isCause, rfl⟩ := Outcome.mapError_eq_error.mp unread
          obtain ⟨names, asked⟩ := existingPackages_of_extractLines_eq_error isCause
          exact .packages asked
        · cases done

theorem takeUpObject_eq_error {object : ObjectRef}
    (failed : expansion.takeUpObject state object = .error failure) :
    expansion.FailsWith failure := by
  rw [takeUpObject] at failed
  split at failed
  · cases failed
  · rcases Outcome.bind_eq_error.mp failed with unread | ⟨_, _, entered⟩
    · exact referencesOf_eq_error unread
    · cases entered

theorem takeUp_eq_error {object : ObjectRef}
    (failed : expansion.takeUp state object = .error failure) : expansion.FailsWith failure := by
  rw [takeUp] at failed
  split at failed
  · cases failed
  · rcases Outcome.bind_eq_error.mp failed with first | ⟨admitted, _, rest⟩
    · exact takeUpObject_eq_error first
    · cases contained : containerOf? object with
      | none =>
          rw [contained] at rest
          cases rest
      | some container =>
          rw [contained] at rest
          exact takeUpObject_eq_error rest

theorem start_eq_error {roots : List ObjectRef}
    (failed : expansion.start roots = .error failure) : expansion.FailsWith failure := by
  rcases Outcome.bind_eq_error.mp failed with unknown | ⟨_, _, untaken⟩
  · obtain ⟨cause, isCause, rfl⟩ := Outcome.mapError_eq_error.mp unknown
    exact .owners isCause
  · obtain ⟨_, _, _, one⟩ := Outcome.exists_of_foldlM_eq_error untaken
    exact takeUp_eq_error one

theorem resolveOne_eq_error {iteration : Nat} {entry : Reference × ObjectRef}
    (failed : expansion.resolveOne iteration state entry = .error failure) :
    expansion.FailsWith failure := by
  rcases Outcome.bind_eq_error.mp failed with unanswered | ⟨answer, _, rest⟩
  · obtain ⟨cause, isCause, rfl⟩ := Outcome.mapError_eq_error.mp unanswered
    exact .answer isCause
  · cases answer with
    | none => cases rest
    | some row => exact takeUp_eq_error rest

theorem resolveAll_eq_error {iteration : Nat} {pending : List (Reference × ObjectRef)}
    (failed : expansion.resolveAll iteration state pending = .error failure) :
    expansion.FailsWith failure := by
  obtain ⟨_, _, _, one⟩ := Outcome.exists_of_foldlM_eq_error failed
  exact resolveOne_eq_error one

/-- **Nothing fails** with a snapshot and sources that can all be fetched. -/
theorem not_failsWith {snapshot : Snapshot} (isSnapshot : expansion.catalog = snapshot.catalog)
    (fetches : ∀ object, ∃ source, expansion.sources.fetch object = .ok source) :
    ¬ expansion.FailsWith failure := by
  rintro (⟨failed⟩ | ⟨failed⟩ | @⟨reference, owner, cause, failed⟩ | @⟨object, cause, failed⟩)
  · rw [isSnapshot] at failed
    cases failed
  · rw [isSnapshot] at failed
    cases failed
  · obtain ⟨answer, answered⟩ := Reference.exists_resolve reference owner snapshot
    rw [isSnapshot, answered] at failed
    cases failed
  · obtain ⟨source, fetched⟩ := fetches object
    rw [fetched] at failed
    cases failed

end SchemaPlan.Expansion
