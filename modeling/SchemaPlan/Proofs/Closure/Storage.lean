import SchemaPlan.Proofs.Closure.Absence
import SchemaPlan.Proofs.Closure.Batches

/-!
# Tables, views and sequences outside packages

Tables, views and sequences belong to no package.  The name of one with a single
segment in front of it is read accordingly, whatever the segment is.  With two
segments or more the second one is read as a package, and what kind of object the name
stands for is not looked at.  So the placeholder of such a reference is a table or a
sequence of a package (`Reference.isMisplaced_placeholder_iff`).

Over a snapshot that keeps to the rule every object of a closure does, since it is a
package or a row.  The placeholders are the only exception.  So the misplaced keys
that a run records or misses are those of references with two segments or more in
front of a name that no row has (`Expansion.misplaced_of_run`).
-/

set_option autoImplicit false

namespace SchemaPlan

/-- A table, a view or a sequence of a package. -/
def ObjectKey.IsMisplaced (key : ObjectKey) : Prop :=
  key.objectType ∈ [ObjectType.table, .view, .sequence] ∧ key.package ≠ rootPackage

instance (key : ObjectKey) : Decidable key.IsMisplaced :=
  inferInstanceAs (Decidable (_ ∧ _))

/-- What carries no source text belongs to no package. -/
theorem ObjectKey.isMisplaced_iff {key : ObjectKey} :
    key.IsMisplaced ↔ key.objectType.isRoutine = false ∧ key.isRootLevel = false := by
  have storage : key.objectType ∈ [ObjectType.table, .view, .sequence] ↔
      key.objectType.isRoutine = false := by
    cases key.objectType <;> decide
  rw [IsMisplaced, storage, isRootLevel, beq_eq_false_iff_ne]

/-- No table, view or sequence of the snapshot belongs to a package. -/
def Snapshot.StoresAtRoot (snapshot : Snapshot) : Prop :=
  ∀ row ∈ snapshot.rows, ¬ row.key.IsMisplaced

/-- A record is one of the object with this key, or of one that requires it. -/
def Edge.Names (edge : Edge) (key : ObjectKey) : Prop :=
  edge.object.key = key ∨ edge.dependency.map (·.key) = some key

theorem Edge.names_fill {ownerOf : String → Option String} {edge : Edge} {key : ObjectKey} :
    (EdgeList.fill ownerOf edge).Names key ↔ edge.Names key := by
  simp [Edge.Names, EdgeList.fill, Function.comp_def]

/-- Only a dependency that is no delivery unit of another object is misplaced. -/
theorem key_of_isMisplaced_deliveryUnit {object target : ObjectRef}
    (misplaced : (deliveryUnit object target).key.IsMisplaced) :
    (deliveryUnit object target).key = target.key := by
  by_cases direct : object.key.isStandalone = true → target.key.package? = none
  · rw [deliveryUnit_eq_self direct]
  · rw [Classical.not_imp, ← ne_eq, Option.ne_none_iff_exists'] at direct
    obtain ⟨standalone, package, isMember⟩ := direct
    rw [deliveryUnit_of_member standalone isMember] at misplaced
    have rootLevel := (ObjectKey.isMisplaced_iff.mp misplaced).2
    rw [ObjectRef.new, isRootLevel_packageNode] at rootLevel
    cases rootLevel

/-! ## References -/

namespace Reference

variable {kind : ReferenceKind} {raw : String} {owners : List String} {referrer : ObjectRef}

/-- What is no routine has a package behind the owner only. -/
theorem package_qualify_eq_some (notRoutine : kind.isRoutine = false) {package : String} :
    (qualify kind raw owners referrer).package = some package ↔
      ∃ owner name rest, segments raw = owner :: package :: name :: rest := by
  change (parts kind raw owners).2.1 = some package ↔ _
  rw [parts]
  split
  · next split => simp [split]
  · next split => simp [split]
  · next split => simp [split, notRoutine]
  · next split => simp [split, eq_comm]

/-- **The placeholder of a reference is misplaced** when it stands for a table or a
sequence, and two segments or more stand in front of the name. -/
theorem isMisplaced_placeholder_iff :
    (qualify kind raw owners referrer).placeholder.key.IsMisplaced ↔
      (kind = .table ∨ kind = .sequence) ∧ ∃ owner package name rest,
        segments raw = owner :: package :: name :: rest ∧
        normalizePackage package ≠ rootPackage := by
  have storage : kind.defaultType ∈ [ObjectType.table, .view, .sequence] ↔
      kind = .table ∨ kind = .sequence := by
    cases kind <;> decide
  have sameKind : (qualify kind raw owners referrer).kind = kind := rfl
  rw [key_placeholder, ObjectKey.IsMisplaced]
  dsimp only
  rw [sameKind, storage]
  refine and_congr_right fun isStorage => ?_
  have notRoutine : kind.isRoutine = false := by
    rcases isStorage with rfl | rfl <;> rfl
  constructor
  · intro inPackage
    cases qualified : (qualify kind raw owners referrer).package with
    | none =>
        rw [qualified, Option.getD_none, normalizePackage_empty] at inPackage
        exact absurd rfl inPackage
    | some package =>
        rw [qualified, Option.getD_some] at inPackage
        obtain ⟨owner, name, rest, split⟩ := (package_qualify_eq_some notRoutine).mp qualified
        exact ⟨owner, package, name, rest, split, inPackage⟩
  · rintro ⟨owner, package, name, rest, split, inPackage⟩
    rw [(package_qualify_eq_some notRoutine).mpr ⟨owner, name, rest, split⟩]
    exact inPackage

end Reference

namespace Expansion

/-- The source of an object names a table or a sequence with two segments or more in
front of the name.  No row has the name and an accepted type, and the key is that of
the placeholder. -/
def Overqualifies (expansion : Expansion) (snapshot : Snapshot) (object : ObjectRef)
    (key : ObjectKey) : Prop :=
  ∃ owners references mention reference, expansion.catalog.owners = .ok owners ∧
    expansion.referencesOf object = .ok (some references) ∧ mention ∈ references.toList ∧
    3 ≤ (Reference.segments mention.2).length ∧
    Reference.qualify mention.1 mention.2 owners object = reference ∧
    reference.placeholder.key = key ∧
    ∀ row ∈ snapshot.rows, reference.isSatisfiedBy row = false

variable {expansion : Expansion} {roots : List ObjectRef} {snapshot : Snapshot}
  {iteration : Nat} {state : ClosureState} {key : ObjectKey}

/-- A reference that no row satisfies overqualifies its placeholder when that is
misplaced. -/
theorem overqualifies_iff {object : ObjectRef} (misplaced : key.IsMisplaced) :
    expansion.Overqualifies snapshot object key ↔
      ∃ reference, expansion.Mentions object reference ∧ reference.placeholder.key = key ∧
        ∀ row ∈ snapshot.rows, reference.isSatisfiedBy row = false := by
  constructor
  · rintro ⟨owners, references, mention, _, isOwners, read, listed, _, rfl, rfl, unsatisfied⟩
    refine ⟨_, ⟨owners, references, mention, isOwners, read, listed, ?_, rfl⟩, rfl, unsatisfied⟩
    intro isLocal
    rcases (Reference.isMisplaced_placeholder_iff.mp misplaced).1 with isTable | isSequence
    · cases isLocal.symm.trans isTable
    · cases isLocal.symm.trans isSequence
  · rintro ⟨_, ⟨owners, references, mention, isOwners, read, listed, _, rfl⟩, rfl, unsatisfied⟩
    refine ⟨owners, references, mention, _, isOwners, read, listed, ?_, rfl, rfl, unsatisfied⟩
    obtain ⟨owner, package, name, rest, split, _⟩ :=
      (Reference.isMisplaced_placeholder_iff.mp misplaced).2
    rw [split]
    exact Nat.le_add_left 3 rest.length

/-- Over a snapshot that keeps to the rule no row satisfies a reference for which
nothing is found and whose placeholder is misplaced. -/
theorem isSatisfiedBy_eq_false (isSnapshot : expansion.catalog = snapshot.catalog)
    (stored : snapshot.StoresAtRoot) {reference : Reference} {owner : Option String}
    (nothing : reference.resolve owner expansion.catalog = .ok none)
    (misplaced : reference.placeholder.key.IsMisplaced) {row : CatalogRow}
    (listed : row ∈ snapshot.rows) : reference.isSatisfiedBy row = false := by
  by_contra satisfied
  rw [Bool.not_eq_false] at satisfied
  have inPackage := isRootLevel_of_satisfied isSnapshot nothing listed satisfied
  refine stored row listed (ObjectKey.isMisplaced_iff.mpr ⟨?_, inPackage⟩)
  have accepted := (Reference.isSatisfiedBy_iff.mp satisfied).2
  have storage : reference.kind.defaultType.isRoutine = false :=
    (ObjectKey.isMisplaced_iff.mp misplaced).1
  rcases ReferenceKind.accepts_iff.mp accepted with same | ⟨_, isView⟩
  · rw [same, storage]
  · rw [isView]
    rfl

/-! ## What a run knows -/

/-- What a state knows can be reached from the roots. -/
def WithinReach (expansion : Expansion) (roots : List ObjectRef) (state : ClosureState) : Prop :=
  ∀ member ∈ state.known, expansion.Reaches roots member.object

theorem WithinReach.takeUp {after : ClosureState} (within : expansion.WithinReach roots state)
    {object : ObjectRef} (reaches : expansion.Reaches roots object)
    (taken : expansion.takeUp state object = .ok after) : expansion.WithinReach roots after := by
  refine takeUp_induction within (fun before other references holds _ _ origin => ?_) taken
  intro member known
  rcases ClosureState.mem_known_enter.mp known with old | rfl
  · exact holds member old
  · rcases origin with rfl | contained
    · exact reaches
    · exact reaches.container contained

/-- **What a run knows can be reached** from its roots. -/
theorem Scans.withinReach (fresh : expansion.prior = [])
    (scans : Scans expansion roots iteration state) : expansion.WithinReach roots state := by
  induction scans with
  | @first state started =>
      obtain ⟨owners, taken⟩ := start_eq_ok_of_fresh fresh started
      have within : expansion.WithinReach roots state :=
        Outcome.foldlM_induction (fun member known => absurd known List.not_mem_nil)
          (fun _ _ isRoot _ holds one => WithinReach.takeUp holds (.root isRoot) one) taken
      exact within
  | @next _ state resolved scans _ isResolved ih =>
      have same := (ClosureState.fields_of_bare (ClosureState.bare_written_scanned state)).2.1
      have start : expansion.WithinReach roots state.scanned.written := by
        rw [WithinReach, same]
        exact ih
      have within : expansion.WithinReach roots resolved := by
        refine Outcome.foldlM_induction start (fun before entry pending later holds one => ?_)
          isResolved
        obtain ⟨reference, referrer⟩ := entry
        obtain ⟨member, known, rfl, mentioned, _⟩ := ClosureState.mem_pending pending
        rcases resolveOne_eq_ok one with ⟨row, asked, taken⟩ | ⟨_, rfl⟩
        · have noted : expansion.WithinReach roots (before.noteFound reference row.toRef) := holds
          have mentions := (scans.sound.1.mem_referencesFrom known).mp mentioned
          exact noted.takeUp ((ih member known).found mentions asked) taken
        · rw [WithinReach, (ClosureState.fields_noteUnresolved _ _ _ _).2.1]
          exact holds
      exact within

/-- A record of a run that is not confirmed says only that an object is missing. -/
theorem Scans.ok_or_missing (fresh : expansion.prior = [])
    (scans : Scans expansion roots iteration state) {edge : Edge}
    (recorded : edge ∈ state.scanned.edges) :
    edge.status = .ok ∨ ∃ object, edge = Edge.missing object := by
  let said (state : ClosureState) : Prop :=
    ∀ edge ∈ state.edges, edge.status = .ok ∨ ∃ object, edge = Edge.missing object
  have ofScan : ∀ state, said state → said state.scanned := by
    intro state holds edge here
    rcases ClosureState.mem_edges_scanned.mp here with old | ⟨member, _, confirmed⟩
    · exact holds edge old
    · exact .inl (ClosureState.confirmed_of_mem_recordsOf confirmed).1
  have preserved : expansion.Preserved said := {
    scanned := ofScan
    enter := by
      intro state object references holds _ _ edge here
      rcases ClosureState.mem_edges_enter.mp here with old | ⟨_, _, rfl⟩
      · exact holds edge old
      · exact .inr ⟨object, rfl⟩
    noteFound := fun _ _ _ holds => holds
    noteUnresolved := by
      intro state reference referrer iteration holds edge here
      rcases ClosureState.mem_edges_emit.mp here with old | rfl
      · exact holds edge old
      · exact .inr ⟨reference.placeholder, rfl⟩ }
  refine ofScan state (preserved.scans (fun owners => ?_) (fun _ holds => holds)
    (fun _ holds => holds) scans) edge recorded
  rw [fresh]
  exact fun edge nothing => absurd nothing List.not_mem_nil

variable (isSnapshot : expansion.catalog = snapshot.catalog) (fresh : expansion.prior = [])
  (rooted : ∀ root ∈ roots, ∃ row ∈ snapshot.rows, row.toRef = root)
  (stored : snapshot.StoresAtRoot)

include isSnapshot fresh rooted stored

/-- **Nothing that a run knows is misplaced.** -/
theorem Scans.not_isMisplaced (scans : Scans expansion roots iteration state)
    {member : KnownObject} (known : member ∈ state.known) :
    ¬ member.object.key.IsMisplaced := by
  intro misplaced
  have notPackage : member.object.key.objectType ≠ .package := by
    intro isPackage
    have noSource := (ObjectKey.isMisplaced_iff.mp misplaced).1
    rw [isPackage] at noSource
    cases noSource
  obtain ⟨row, listed, isRow⟩ := scans.toRef_of_known isSnapshot fresh rooted known notPackage
  have rowKey : row.key = member.object.key := congrArg ObjectRef.key isRow
  exact stored row listed (rowKey ▸ misplaced)

/-! ## What a run records -/

/-- A misplaced key that a record of a known object names is missing. -/
theorem Scans.missing_of_recordsOf (scans : Scans expansion roots iteration state)
    (misplaced : key.IsMisplaced) {member : KnownObject} (known : member ∈ state.known)
    {edge : Edge} (recorded : edge ∈ state.recordsOf member) (names : edge.Names key) :
    key ∈ state.missing := by
  obtain ⟨sound, settled⟩ := scans.sound
  have placed := fun {member : KnownObject} (known : member ∈ state.known) =>
    scans.not_isMisplaced isSnapshot fresh rooted stored known
  rcases ClosureState.mem_recordsOf.mp recorded with
    ⟨rfl, _⟩ | ⟨reference, mentioned, target, answered, _, rfl⟩
  · rcases names with rfl | named
    · exact absurd misplaced (placed known)
    · cases named
  · rcases names with rfl | named
    · exact absurd misplaced (placed known)
    · obtain rfl := Option.some.inj named
      dsimp only at misplaced ⊢
      have asItIs := key_of_isMisplaced_deliveryUnit misplaced
      rw [asItIs] at misplaced ⊢
      rcases sound.origin settled answered with
        ⟨⟨other, alsoKnown, sameKey⟩, _⟩ | ⟨_, _, isMissing⟩
      · exact absurd misplaced (sameKey ▸ placed alsoKnown)
      · exact isMissing

/-- A misplaced key that a record names is missing. -/
theorem Scans.missing_of_names (scans : Scans expansion roots iteration state)
    (misplaced : key.IsMisplaced) {edge : Edge} (recorded : edge ∈ state.scanned.edges)
    (names : edge.Names key) : key ∈ state.missing := by
  rcases scans.ok_or_missing fresh recorded with ok | ⟨object, rfl⟩
  · rcases ClosureState.mem_edges_scanned.mp recorded with old | ⟨member, known, here⟩
    · rcases (scans.mem_edges ok).mp old with
        inPrior | ⟨earlier, before, less, scanned, member, known, here⟩
      · rw [fresh] at inPrior
        exact absurd inPrior List.not_mem_nil
      · have extension := scanned.extends scans (Nat.le_of_lt less)
        exact extension.missing key (scanned.missing_of_recordsOf isSnapshot fresh rooted stored
          misplaced known here names)
    · exact scans.missing_of_recordsOf isSnapshot fresh rooted stored misplaced known here names
  · rcases names with rfl | named
    · have missing : object.key ∈ state.scanned.missing :=
        (scans.logged.scanned.missing _).mpr ⟨_, recorded, rfl, rfl⟩
      rwa [(ClosureState.fields_of_bare (ClosureState.bare_scanned state)).2.2.2] at missing
    · cases named

omit rooted in
/-- **A misplaced key is missing for the sake of a reference that nothing satisfies.** -/
theorem Scans.overqualifies_of_missing (scans : Scans expansion roots iteration state)
    (misplaced : key.IsMisplaced) (isMissing : key ∈ state.missing) :
    ∃ member ∈ state.known, expansion.Overqualifies snapshot member.object key := by
  have sound := scans.sound.1
  rcases sound.missing key isMissing with
    ⟨edge, inPrior, _⟩ | ⟨_, _, _, _, isRoutine⟩ | ⟨reference, noted, rfl⟩
  · rw [fresh] at inPrior
    exact absurd inPrior List.not_mem_nil
  · rw [(ObjectKey.isMisplaced_iff.mp misplaced).1] at isRoutine
    cases isRoutine
  · obtain ⟨answer, ⟨member, known, mentioned, resolved⟩, isNone⟩ := sound.resolved _ noted
    obtain rfl : answer = none := Option.map_eq_none_iff.mp isNone.symm
    refine ⟨member, known, (overqualifies_iff misplaced).mpr
      ⟨reference, (sound.mem_referencesFrom known).mp mentioned, rfl, fun row listed => ?_⟩⟩
    exact isSatisfiedBy_eq_false isSnapshot stored resolved misplaced listed

omit stored in
/-- In the end the placeholder of an overqualified reference is missing. -/
theorem Finishes.missing_of_overqualifies {last : Nat} {final : ClosureState} {closure : Closure}
    (finishes : Finishes expansion roots last final closure) (misplaced : key.IsMisplaced)
    {member : KnownObject} (known : member ∈ final.known)
    (overqualifies : expansion.Overqualifies snapshot member.object key) :
    key ∈ final.missing := by
  obtain ⟨sound, settled⟩ := finishes.scans.sound
  obtain ⟨reference, mentions, rfl, unsatisfied⟩ := (overqualifies_iff misplaced).mp overqualifies
  obtain ⟨target, answered⟩ :=
    finishes.answered known ((sound.mem_referencesFrom known).mpr mentions)
  rcases sound.origin settled answered with
    ⟨⟨other, alsoKnown, sameKey⟩, name, accepted⟩ | ⟨_, rfl, isMissing⟩
  · -- What is known under the name is a row, and it would satisfy the reference.
    exfalso
    have notPackage : reference.kind ≠ .package := by
      intro isPackage
      have noSource : reference.kind.defaultType.isRoutine = false :=
        (ObjectKey.isMisplaced_iff.mp misplaced).1
      rw [isPackage] at noSource
      cases noSource
    rw [← sameKey] at name accepted
    obtain ⟨row, listed, isRow⟩ := finishes.scans.toRef_of_known isSnapshot fresh rooted alsoKnown
      (ReferenceKind.ne_package_of_accepts notPackage accepted)
    have rowKey : row.key = other.object.key := congrArg ObjectRef.key isRow
    have satisfied := Reference.isSatisfiedBy_iff.mpr ⟨rowKey ▸ name, rowKey ▸ accepted⟩
    rw [unsatisfied row listed] at satisfied
    cases satisfied
  · exact isMissing

/-- **Which misplaced keys a closure has**: they are missing, they are those that its
records name, and each is the placeholder of an overqualified reference of one of its
objects. -/
theorem Finishes.mem_missing_iff_overqualifies {last : Nat} {final : ClosureState}
    {closure : Closure} (finishes : Finishes expansion roots last final closure)
    (misplaced : key.IsMisplaced) :
    ((∃ edge ∈ final.scanned.edges, edge.Names key) ↔ key ∈ closure.missing) ∧
    ((∃ edge ∈ closure.edges, edge.Names key) ↔ key ∈ closure.missing) ∧
    (key ∈ closure.missing ↔
      ∃ caller ∈ closure.objects, expansion.Overqualifies snapshot caller key) := by
  have scanned : (∃ edge ∈ final.scanned.edges, edge.Names key) ↔ key ∈ closure.missing := by
    rw [finishes.missing_eq]
    constructor
    · rintro ⟨edge, recorded, names⟩
      exact finishes.scans.missing_of_names isSnapshot fresh rooted stored misplaced recorded names
    · intro isMissing
      obtain ⟨edge, recorded, _, sameKey⟩ := (finishes.scans.logged.missing key).mp isMissing
      exact ⟨edge, ClosureState.mem_edges_scanned.mpr (.inl recorded), .inl sameKey⟩
  have filled : (∃ edge ∈ closure.edges, edge.Names key) ↔
      ∃ edge ∈ final.scanned.edges, edge.Names key := by
    simp only [finishes.mem_edges, exists_exists_and_eq_and, Edge.names_fill]
  refine ⟨scanned, filled.trans scanned, ?_⟩
  rw [finishes.missing_eq]
  constructor
  · intro isMissing
    obtain ⟨member, known, overqualifies⟩ :=
      finishes.scans.overqualifies_of_missing isSnapshot fresh stored misplaced isMissing
    exact ⟨member.object, finishes.mem_objects.mpr ⟨member, known, rfl⟩, overqualifies⟩
  · rintro ⟨caller, isObject, overqualifies⟩
    obtain ⟨member, known, rfl⟩ := finishes.mem_objects.mp isObject
    exact finishes.missing_of_overqualifies isSnapshot fresh rooted misplaced known overqualifies

end Expansion

/-! ## Runs -/

namespace Expansion

variable {expansion : Expansion} {roots : List ObjectRef} {snapshot : Snapshot} {Log : Type}
  {sink : EdgeSink Log}

/-- **Where misplaced keys come from.**  Let the tables, views and sequences of a
snapshot belong to no package, and the roots be rows.  Then whatever sink a run writes
to and however it ends, a misplaced key in a record that it has appended is that of an
overqualified reference of an object that can be reached.  When the run succeeds, no
object of the closure is misplaced, and the misplaced keys of its records are the
missing ones, which are those of the overqualified references of its objects. -/
theorem misplaced_of_run (isSnapshot : expansion.catalog = snapshot.catalog)
    (stored : snapshot.StoresAtRoot)
    (rooted : ∀ root ∈ roots, ∃ row ∈ snapshot.rows, row.toRef = root)
    (fresh : expansion.prior = []) {log after : Log} {calls : List SinkCall}
    {outcome : Except ClosureError Closure}
    (done : expansion.run sink.recording roots (log, []) = (outcome, after, calls)) :
    (∀ edge ∈ (SinkCall.batches calls).flatten, ∀ key, edge.Names key → key.IsMisplaced →
      ∃ caller, expansion.Reaches roots caller ∧ expansion.Overqualifies snapshot caller key) ∧
    ∀ closure, outcome = .ok closure →
      (∀ object ∈ closure.objects, ¬ object.key.IsMisplaced) ∧
      ∀ key, key.IsMisplaced →
        ((∃ edge ∈ (SinkCall.batches calls).flatten, edge.Names key) ↔ key ∈ closure.missing) ∧
        ((∃ edge ∈ closure.edges, edge.Names key) ↔ key ∈ closure.missing) ∧
        (key ∈ closure.missing ↔
          ∃ caller ∈ closure.objects, expansion.Overqualifies snapshot caller key) := by
  refine ⟨fun edge appended key names misplaced => ?_, ?_⟩
  · obtain ⟨iteration, state, scans, recorded⟩ := scans_of_appended done appended
    have isMissing :=
      scans.missing_of_names isSnapshot fresh rooted stored misplaced recorded names
    obtain ⟨member, known, overqualifies⟩ :=
      scans.overqualifies_of_missing isSnapshot fresh stored misplaced isMissing
    exact ⟨member.object, scans.withinReach fresh member known, overqualifies⟩
  · rintro closure rfl
    obtain ⟨last, final, asked, content, begins, _, ends⟩ := run_eq_ok done
    obtain ⟨nothing, isClosure⟩ := turn_spec.1 _ _ ends
    have finishes : Finishes expansion roots last final closure :=
      ⟨begins.scans, nothing, isClosure⟩
    refine ⟨fun object listed => ?_, fun key misplaced => ?_⟩
    · obtain ⟨member, known, rfl⟩ := finishes.mem_objects.mp listed
      exact finishes.scans.not_isMisplaced isSnapshot fresh rooted stored known
    · have appended : final.scanned.edges = (SinkCall.batches calls).flatten := by
        have edges := (batches_of_converged begins ends).1
        rwa [fresh] at edges
      rw [← appended]
      exact finishes.mem_missing_iff_overqualifies isSnapshot fresh rooted stored misplaced

/-- The row of a procedure. -/
def overqualifiedSnapshot : Snapshot := Snapshot.ofRows [.new "A" .procedure "" "MAIN"]

/-- The expansion of the procedure, which deletes from a table with two segments in
front of its name. -/
def overqualifiedExpansion : Expansion where
  catalog := overqualifiedSnapshot.catalog
  sources := (SourceShelf.ofEntries [.new "A" "" "MAIN" "DELETE FROM X.Y.T;"]).store
  config := {}

/-- The procedure. -/
def overqualifiedRoot : ObjectRef := ObjectRef.new (some "A") (.rootLevel .procedure "MAIN")

/-- The placeholder of the table. -/
def overqualifiedTable : ObjectKey := .new .table "Y" "T"

theorem closure_overqualifiedExpansion :
    (overqualifiedExpansion.run EdgeList.sink [overqualifiedRoot] []).1.toOption.map
      (fun closure => (closure.edges, closure.missing.toList)) =
    some ([Edge.missing ⟨some "X", overqualifiedTable⟩,
      Edge.requires overqualifiedRoot ⟨some "X", .packageNode "Y"⟩], [overqualifiedTable]) := by
  with_unfolding_all rfl

theorem missing_overqualifiedExpansion :
    ∃ closure after, overqualifiedExpansion.run EdgeList.sink [overqualifiedRoot] [] =
      (.ok closure, after) ∧ overqualifiedTable ∈ closure.missing := by
  obtain ⟨closure, after, done, read⟩ := Outcome.eq_ok_of_reading closure_overqualifiedExpansion
  have listed : overqualifiedTable ∈ closure.missing.toList := by
    rw [(Prod.mk.inj read).2]
    exact List.mem_cons_self
  exact ⟨closure, after, done, listed⟩

theorem storesAtRoot_overqualifiedSnapshot : overqualifiedSnapshot.StoresAtRoot := by
  have placed : ∀ row ∈ overqualifiedSnapshot.rows.toList, ¬ row.key.IsMisplaced := by
    with_unfolding_all decide
  exact placed

theorem mem_rows_overqualifiedRoot : ∀ root ∈ [overqualifiedRoot],
    ∃ row ∈ overqualifiedSnapshot.rows, row.toRef = root := by
  have rooted : ∀ root ∈ [overqualifiedRoot], ∃ row ∈ overqualifiedSnapshot.rows.toList,
      row.toRef = root := by
    with_unfolding_all decide
  exact rooted

theorem isMisplaced_overqualifiedTable : overqualifiedTable.IsMisplaced := by
  with_unfolding_all decide

/-- The table is missing as one of a package, and the procedure overqualifies it. -/
theorem overqualifiedExpansion_misplaces :
    ∃ closure after calls, overqualifiedExpansion.run EdgeList.sink.recording [overqualifiedRoot]
        ([], []) = (.ok closure, after, calls) ∧
      overqualifiedTable.IsMisplaced ∧ overqualifiedTable ∈ closure.missing ∧
      (∃ edge ∈ (SinkCall.batches calls).flatten, edge.Names overqualifiedTable) ∧
      ∃ caller ∈ closure.objects,
        overqualifiedExpansion.Overqualifies overqualifiedSnapshot caller overqualifiedTable := by
  obtain ⟨closure, after, done, isMissing⟩ := missing_overqualifiedExpansion
  obtain ⟨calls, recorded⟩ :=
    @run_recording _ overqualifiedExpansion EdgeList.sink [] [] [overqualifiedRoot]
  rw [done] at recorded
  have misplaced := isMisplaced_overqualifiedTable
  obtain ⟨_, ofClosure⟩ := misplaced_of_run rfl storesAtRoot_overqualifiedSnapshot
    mem_rows_overqualifiedRoot rfl recorded
  obtain ⟨appended, _, overqualified⟩ := (ofClosure closure rfl).2 _ misplaced
  exact ⟨closure, _, _, recorded, misplaced, isMissing, appended.mpr isMissing,
    overqualified.mp isMissing⟩

/-- **A closure can have misplaced keys** though the tables, views and sequences of the
catalog belong to no package. -/
theorem not_forall_rootLevel :
    ¬ ∀ (snapshot : Snapshot) (expansion : Expansion) (roots : List ObjectRef)
      (closure : Closure) (after : List Edge),
      expansion.catalog = snapshot.catalog → snapshot.StoresAtRoot →
      (∀ root ∈ roots, ∃ row ∈ snapshot.rows, row.toRef = root) → expansion.prior = [] →
      expansion.run EdgeList.sink roots [] = (.ok closure, after) →
      (∀ edge ∈ after, ∀ key, edge.Names key → ¬ key.IsMisplaced) ∧
        (∀ key ∈ closure.missing, ¬ key.IsMisplaced) ∧
        ∀ object ∈ closure.objects, ¬ object.key.IsMisplaced := by
  intro always
  obtain ⟨closure, after, done, isMissing⟩ := missing_overqualifiedExpansion
  obtain ⟨_, placed, _⟩ := always overqualifiedSnapshot overqualifiedExpansion
    [overqualifiedRoot] closure after rfl storesAtRoot_overqualifiedSnapshot
    mem_rows_overqualifiedRoot rfl done
  exact placed overqualifiedTable isMissing isMisplaced_overqualifiedTable

end Expansion

end SchemaPlan
