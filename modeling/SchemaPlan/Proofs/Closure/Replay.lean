import Mathlib.Data.List.Perm.Subperm
import SchemaPlan.Proofs.Closure.Convergence
import SchemaPlan.Proofs.Closure.Missing
import SchemaPlan.Proofs.Closure.Resumption

/-!
# Resuming a run that is complete

A complete run can be begun again with its own records.  The new run takes up the
objects of the confirmed records, which are all that the first run has found, and
misses what the first run misses (`Recalls`).  It knows no answer of the catalog, so
it asks again for references that no known object fits.  The catalog finds for them
what is known already, so the new run finds nothing, and it ends after two
iterations at most.

It does not always repeat the records, however.  The objects are taken up in another
order than they were found in.  When a reference fits two of them, the new run may
take it for the other one, and then it adds a record.  When names are unambiguous
every reference is taken for what it stands for, and the new run changes nothing.
-/

set_option autoImplicit false

namespace SchemaPlan.Expansion

variable {expansion : Expansion} {roots : List ObjectRef} {snapshot : Snapshot} {last iteration : Nat}
  {final state after : ClosureState} {closure : Closure}

theorem resolveAll_resumedFrom (records : List Edge) :
    (expansion.resumedFrom records).resolveAll = expansion.resolveAll := rfl

/-- The objects that a resumed run takes up first are the owned ones of the confirmed
records. -/
theorem mem_priorObjects_resumedFrom {records : List Edge} {object : ObjectRef} :
    object ∈ (expansion.resumedFrom records).priorObjects ↔
      object.owner ≠ none ∧ ∃ edge ∈ records, edge.status = .ok ∧ edge.object = object := by
  simp only [priorObjects, resumedFrom, List.mem_map, List.mem_filter, Bool.and_eq_true,
    decide_eq_true_eq, Option.isSome_iff_ne_none]
  constructor
  · rintro ⟨edge, ⟨recorded, ok, owned⟩, rfl⟩
    exact ⟨owned, edge, recorded, ok, rfl⟩
  · rintro ⟨owned, edge, recorded, ok, rfl⟩
    exact ⟨edge, ⟨recorded, ok, owned⟩, rfl⟩

/-- A reference that names neither owner nor package fits what is found for it outside
all packages. -/
theorem fits_of_root {reference : Reference} (unnamed : reference.owner = none)
    (unqualified : reference.package = none) {row : CatalogRow}
    (satisfied : reference.isSatisfiedBy row = true) (rootLevel : row.key.isRootLevel = true)
    {object : ObjectRef} (sameKey : object.key = row.key) : Fits reference object := by
  obtain ⟨name, type⟩ := Reference.isSatisfiedBy_iff.mp satisfied
  refine ⟨?_, by rw [sameKey, name], by rw [sameKey, type], ?_⟩
  · rw [sameKey, beq_iff_eq.mp rootLevel, ClosureState.searchedPackages, unqualified]
    cases reference.scope <;> simp
  · rw [ClosureState.ownerAgrees, unnamed]

/-! ## What a log tells -/

namespace Finishes

/-- The records that something is missing need no owner. -/
theorem missing_mem_edges (finishes : Finishes expansion roots last final closure)
    {object : ObjectRef} (recorded : Edge.missing object ∈ final.edges) :
    Edge.missing object ∈ closure.edges :=
  finishes.mem_edges.mpr ⟨_, ClosureState.mem_edges_scanned.mpr (.inl recorded), rfl⟩

/-- The records tell what is missing. -/
theorem mem_missing_iff_recorded (finishes : Finishes expansion roots last final closure)
    {key : ObjectKey} : key ∈ final.missing ↔
      ∃ edge ∈ closure.edges, edge.status = .missing ∧ edge.object.key = key := by
  rw [← finishes.missing_eq, finishes.missing_eq_recorded, EdgeList.mem_missingKeys]

/-- The confirmed records tell which objects have been found. -/
theorem mem_objects_iff_recorded (finishes : Finishes expansion roots last final closure)
    (fresh : expansion.prior = []) {object : ObjectRef} : object ∈ closure.objects ↔
      ∃ edge ∈ closure.edges, edge.status = .ok ∧ edge.object = object := by
  have confirmed : ∀ {object : ObjectRef} {dependency : Option ObjectKey},
      closure.Records object dependency → ∃ edge ∈ closure.edges, edge.status = .ok ∧
        edge.object = object := by
    rintro object dependency ⟨edge, recorded, isObject, _⟩
    obtain ⟨listed, ok⟩ := List.mem_filter.mp recorded
    exact ⟨edge, listed, of_decide_eq_true ok, isObject⟩
  rw [finishes.mem_objects]
  constructor
  · rintro ⟨member, known, rfl⟩
    obtain ⟨dependency, recorded⟩ := finishes.exists_record fresh known
    exact confirmed recorded
  · rintro ⟨edge, recorded, ok, rfl⟩
    have records : closure.Records edge.object (edge.dependency.map (·.key)) :=
      ⟨edge, List.mem_filter.mpr ⟨recorded, decide_eq_true ok⟩, rfl, rfl⟩
    obtain ⟨_, state, scans, member, known, read, isRead, _, isObject, _⟩ :=
      (finishes.records_iff fresh).mp records
    refine ⟨member, (finishes.extends scans).known.subset known, ?_⟩
    rw [← isObject, (ClosureState.confirmed_of_mem_recordsOf isRead).2]

end Finishes

/-! ## The start -/

/-- A state recalls a complete run: it knows nothing but what the run has found and
misses what the run misses, and it holds the records of the run and confirmed ones. -/
structure Recalls (final : ClosureState) (records : List Edge) (state : ClosureState) : Prop where
  known : ∀ member ∈ state.known, member ∈ final.known
  missing : state.missing = final.missing
  kept : ∀ edge ∈ records, edge ∈ state.edges
  confirmed : ∀ edge ∈ state.edges, edge ∈ records ∨ edge.status = .ok

namespace Finishes

variable (finishes : Finishes expansion roots last final closure) (fresh : expansion.prior = [])
  (owned : ∀ object ∈ closure.objects, object.owner ≠ none)
  (housed : ∀ object ∈ closure.objects, ∀ package, containerOf? object = some package →
    package ∈ closure.objects)

include finishes

/-- An object that the run has found is taken up without changing anything else. -/
theorem recalls_takeUpObject (recalls : Recalls final closure.edges state) {object : ObjectRef}
    (listed : object ∈ closure.objects) :
    ∃ after, expansion.takeUpObject state object = .ok after ∧
      Recalls final closure.edges after := by
  obtain ⟨member, known, rfl⟩ := finishes.mem_objects.mp listed
  rw [takeUpObject]
  split
  · exact ⟨state, rfl, recalls⟩
  · have read := finishes.scans.sound.1.references member known
    refine ⟨state.enter member.object member.references,
      Outcome.bind_eq_ok.mpr ⟨_, read, rfl⟩, ?_⟩
    rw [ClosureState.enter_of_recorded]
    · refine ⟨fun other listed => ?_, recalls.missing, recalls.kept, recalls.confirmed⟩
      rcases List.mem_append.mp listed with old | new
      · exact recalls.known other old
      · exact List.mem_singleton.mp new ▸ known
    · intro sourceless isRoutine
      have recorded :=
        finishes.missing_mem_edges (finishes.scans.logged.sourceless member known sourceless isRoutine)
      refine ⟨?_, recalls.kept _ recorded⟩
      rw [recalls.missing, finishes.mem_missing_iff_recorded]
      exact ⟨_, recorded, rfl, rfl⟩

include housed in
/-- So is its package. -/
theorem recalls_takeUp (recalls : Recalls final closure.edges state) {object : ObjectRef}
    (listed : object ∈ closure.objects) :
    ∃ after, expansion.takeUp state object = .ok after ∧ Recalls final closure.edges after := by
  rw [takeUp]
  split
  · exact ⟨state, rfl, recalls⟩
  · obtain ⟨admitted, taken, recalls⟩ := finishes.recalls_takeUpObject recalls listed
    cases contained : containerOf? object with
    | none => exact ⟨admitted, Outcome.bind_eq_ok.mpr ⟨_, taken, rfl⟩, recalls⟩
    | some package =>
        obtain ⟨after, alsoTaken, recalls⟩ :=
          finishes.recalls_takeUpObject recalls (housed object listed package contained)
        exact ⟨after, Outcome.bind_eq_ok.mpr ⟨_, taken, alsoTaken⟩, recalls⟩

/-- The records alone tell what is missing. -/
theorem recalls_seed (owners : List String) :
    Recalls final closure.edges ((ClosureState.initial owners).seed closure.edges) := by
  obtain ⟨_, edges, _⟩ := ClosureState.seed_spec (.initial owners) closure.edges
  obtain ⟨_, nothingKnown, _⟩ := ClosureState.fields_seed_initial owners closure.edges
  have same : ∀ edge, edge ∈ ((ClosureState.initial owners).seed closure.edges).edges ↔
      edge ∈ closure.edges := fun edge => (edges edge).trans (or_iff_right List.not_mem_nil)
  refine ⟨?_, ?_, fun edge => (same edge).mpr, fun edge recorded => ?_⟩
  · intro member known
    exact absurd (nothingKnown ▸ known) List.not_mem_nil
  · rw [ClosureState.missing_seed_initial, ← finishes.missing_eq_recorded, finishes.missing_eq]
  · exact .inl ((same edge).mp recorded)

include fresh owned housed in
/-- **A resumed run starts with all that the complete run has found.** -/
theorem start_resumed :
    ∃ first, (expansion.resumedFrom closure.edges).start roots = .ok first ∧
      Recalls final closure.edges first ∧ ∀ member ∈ final.known, member ∈ first.known := by
  have sound := finishes.scans.sound.1
  obtain ⟨first, taken, recalls⟩ := @Outcome.exists_foldlM _ _ _ expansion.takeUp
    (Recalls final closure.edges) (expansion.resumedFrom closure.edges).priorObjects _
    (finishes.recalls_seed final.owners) fun before object listed recalls =>
      finishes.recalls_takeUp housed recalls
        ((finishes.mem_objects_iff_recorded fresh).mpr (mem_priorObjects_resumedFrom.mp listed).2)
  have all : ∀ member ∈ final.known, member ∈ first.known := by
    intro member known
    have listed := finishes.mem_objects.mpr ⟨member, known, rfl⟩
    have prior := (@mem_priorObjects_resumedFrom expansion closure.edges _).mpr
      ⟨owned _ listed, (finishes.mem_objects_iff_recorded fresh).mp listed⟩
    obtain ⟨other, alsoKnown, sameKey⟩ := ClosureState.knows_iff.mp (knows_takeUpAll taken _ prior)
    obtain rfl :=
      ClosureState.eq_of_key_eq sound.keysDistinct (recalls.known other alsoKnown) known sameKey
    exact alsoKnown
  -- The roots are among what has been found, so there is nothing more to take up.
  obtain ⟨_, rooted, rfl⟩ := @Outcome.exists_foldlM _ _ _ expansion.takeUp (· = first) roots first
    rfl fun before root isRoot same => by
      subst same
      have knows := finishes.scans.knows_start root (List.mem_append_right _ isRoot)
      exact ⟨before, if_pos (ClosureState.knows_mono all knows), rfl⟩
  refine ⟨_, Outcome.bind_eq_ok.mpr ⟨final.owners, Outcome.mapError_eq_ok.mpr sound.owners, ?_⟩,
    recalls, all⟩
  rw [List.foldlM_append]
  exact Outcome.bind_eq_ok.mpr ⟨_, taken, rooted⟩

/-- The owners that the catalog knows are the same, so the references are qualified
alike. -/
theorem owners_resumed
    (scans : Scans (expansion.resumedFrom closure.edges) roots iteration state) :
    state.owners = final.owners ∧
      ∀ member, state.referencesFrom member = final.referencesFrom member := by
  have same : state.owners = final.owners :=
    Except.ok.inj (scans.sound.1.owners.symm.trans finishes.scans.sound.1.owners)
  refine ⟨same, fun member => ?_⟩
  rw [ClosureState.referencesFrom, ClosureState.referencesFrom, same]

/-! ## Asking again -/

/-- What no known object fits and is not missing has been found by the catalog. -/
theorem mem_resolved_of_unfit {member : KnownObject} (known : member ∈ final.known)
    {reference : Reference} (mentioned : reference ∈ final.referencesFrom member)
    (unfit : ∀ other ∈ final.known, ¬ Fits reference other.object)
    (notMissing : reference.placeholder.key ∉ final.missing) :
    ∃ object, (reference, some object) ∈ final.resolved := by
  obtain ⟨target, answered⟩ := finishes.answered known mentioned
  cases asked : final.answered? reference with
  | some noted =>
      have isNoted := ClosureState.mem_resolved_of_answered? asked
      cases noted with
      | some object => exact ⟨object, isNoted⟩
      | none => exact absurd (finishes.scans.sound.1.absent reference isNoted) notMissing
  | none =>
      cases found : final.knownTarget? reference with
      | none =>
          rw [ClosureState.target?_eq_none.mpr ⟨asked, found, notMissing⟩] at answered
          cases answered
      | some object =>
          obtain ⟨other, inFinal, rfl, fits⟩ := fits_of_knownTarget? found
          exact absurd fits (unfit other inFinal)

variable (isSnapshot : expansion.catalog = snapshot.catalog)

include isSnapshot in
/-- **What is asked again is found again**, for whatever referrer. -/
theorem knows_of_resolved {member : KnownObject} {reference : Reference}
    (mentioned : reference ∈ final.referencesFrom member)
    (unfit : ∀ other ∈ final.known, ¬ Fits reference other.object) {object : ObjectRef}
    (noted : (reference, some object) ∈ final.resolved) :
    ∃ row, reference.resolve member.object.owner expansion.catalog = .ok (some row) ∧
      final.knows row.toRef.key = true := by
  obtain ⟨sound, settled⟩ := finishes.scans.sound
  obtain ⟨answer, ⟨caller, _, _, resolved⟩, isAnswer⟩ := sound.resolved _ noted
  obtain ⟨row, rfl, rfl⟩ := Option.map_eq_some_iff.mp isAnswer.symm
  have knows := settled.found reference row.toRef noted
  rw [isSnapshot] at resolved ⊢
  obtain ⟨again, found, either⟩ := Reference.exists_resolve_other resolved member.object.owner
  refine ⟨again, found, ?_⟩
  rcases either with rfl | ⟨unnamed, rootLevel, _⟩
  · exact knows
  · have qualified : reference.package ≠ none := by
      intro unqualified
      obtain ⟨other, known, sameKey⟩ := ClosureState.knows_iff.mp knows
      exact unfit other known (fits_of_root unnamed unqualified
        (Reference.isSatisfiedBy_of_resolve resolved) rootLevel sameKey)
    obtain ⟨_, _, mention, _, _, rfl⟩ := ClosureState.mem_referencesFrom.mp mentioned
    have isRoutine := Reference.isRoutine_of_qualify unnamed qualified
    have sameKey : again.toRef.key = row.toRef.key := key_of_routine isRoutine resolved found
    rw [sameKey]
    exact knows

include isSnapshot

/-- What is pending in a state that recalls the run and knows all has been found by it,
and is found again. -/
theorem resolve_pending (recalls : Recalls final closure.edges state)
    (all : ∀ member ∈ final.known, member ∈ state.known)
    (same : ∀ member, state.referencesFrom member = final.referencesFrom member)
    {reference : Reference} {referrer : ObjectRef} (isOpen : (reference, referrer) ∈ state.pending) :
    final.resolved ≠ [] ∧ ∃ row, reference.resolve referrer.owner expansion.catalog = .ok (some row) ∧
      state.knows row.toRef.key = true := by
  obtain ⟨member, known, rfl, mentioned, unanswered⟩ := ClosureState.mem_pending isOpen
  obtain ⟨_, noTarget, notMissing⟩ := ClosureState.target?_eq_none.mp unanswered
  rw [same] at mentioned
  have unfit : ∀ other ∈ final.known, ¬ Fits reference other.object := fun other inFinal fits =>
    knownTarget?_ne_none (all other inFinal) fits noTarget
  obtain ⟨object, noted⟩ := finishes.mem_resolved_of_unfit (recalls.known member known)
    mentioned unfit (recalls.missing ▸ notMissing)
  obtain ⟨row, found, knows⟩ := finishes.knows_of_resolved isSnapshot mentioned unfit noted
  exact ⟨List.ne_nil_of_mem noted, row, found, ClosureState.knows_mono all knows⟩

/-- So resolving what is pending succeeds and finds nothing. -/
theorem resolveAll_resumed (recalls : Recalls final closure.edges state)
    (all : ∀ member ∈ final.known, member ∈ state.known)
    (same : ∀ member, state.referencesFrom member = final.referencesFrom member)
    (iteration : Nat) :
    ∃ after, expansion.resolveAll iteration state.scanned.written state.pending = .ok after ∧
      after.known = state.known ∧ after.missing = state.missing ∧
      after.edges = state.scanned.edges := by
  obtain ⟨_, known, _, missing⟩ :=
    ClosureState.fields_of_bare (ClosureState.bare_written_scanned state)
  refine @Outcome.exists_foldlM _ _ _ (expansion.resolveOne iteration)
    (fun later => later.known = state.known ∧ later.missing = state.missing ∧
      later.edges = state.scanned.edges) state.pending _ ⟨known, missing, rfl⟩ ?_
  rintro before ⟨reference, referrer⟩ isOpen ⟨sameKnown, sameMissing, sameEdges⟩
  obtain ⟨_, row, found, knows⟩ := finishes.resolve_pending isSnapshot recalls all same isOpen
  have stillKnows : (before.noteFound reference row.toRef).knows row.toRef.key = true :=
    ClosureState.knows_mono (fun member known => sameKnown ▸ known) knows
  exact ⟨before.noteFound reference row.toRef,
    Outcome.bind_eq_ok.mpr ⟨some row, Outcome.mapError_eq_ok.mpr found, if_pos stillKnows⟩,
    sameKnown, sameMissing, sameEdges⟩

/-! ## The resumed run -/

include fresh owned housed

/-- **All states of the resumed run recall the complete one.** -/
theorem recalls_of_scans
    (scans : Scans (expansion.resumedFrom closure.edges) roots iteration state) :
    Recalls final closure.edges state ∧ ∀ member ∈ final.known, member ∈ state.known := by
  induction scans with
  | first started =>
      obtain ⟨first, again, recalls, all⟩ := finishes.start_resumed fresh owned housed
      obtain rfl := Except.ok.inj (again.symm.trans started)
      exact ⟨⟨recalls.known, recalls.missing, recalls.kept, recalls.confirmed⟩, all⟩
  | @next iteration state after scans _ resolved ih =>
      obtain ⟨recalls, all⟩ := ih
      obtain ⟨_, again, known, missing, edges⟩ := finishes.resolveAll_resumed isSnapshot recalls
        all (finishes.owners_resumed scans).2 iteration
      rw [resolveAll_resumedFrom] at resolved
      obtain rfl := Except.ok.inj (resolved.symm.trans again)
      have scanned : ∀ edge, edge ∈ after.edges ↔
          edge ∈ state.edges ∨ ∃ member ∈ state.known, edge ∈ state.recordsOf member := by
        rw [edges]
        exact fun edge => ClosureState.mem_edges_scanned
      refine ⟨⟨?_, missing.trans recalls.missing, ?_, ?_⟩, ?_⟩
      · exact fun member listed => recalls.known member (known ▸ listed)
      · exact fun edge recorded => (scanned edge).mpr (.inl (recalls.kept edge recorded))
      · intro edge recorded
        rcases (scanned edge).mp recorded with old | ⟨member, _, read⟩
        · exact recalls.confirmed edge old
        · exact .inr (ClosureState.confirmed_of_mem_recordsOf read).1
      · exact fun member listed => known ▸ all member listed

omit fresh owned housed isSnapshot in
/-- The records of the complete run are the first content of the list. -/
theorem append_prior_resumed :
    EdgeList.append [] (expansion.resumedFrom closure.edges).prior = closure.edges :=
  EdgeList.append_eq finishes.nodup_edges

omit fresh owned housed isSnapshot in
theorem log_of_resumed {resumed : Closure} {content : List Edge}
    (run : (expansion.resumedFrom closure.edges).run EdgeList.sink roots closure.edges =
      (.ok resumed, content)) : content = resumed.edges := by
  obtain ⟨_, _, again⟩ := finishes_of_run run
  obtain ⟨first, started⟩ := again.scans.started
  have whole : (expansion.resumedFrom closure.edges).run EdgeList.sink roots
      (EdgeList.append [] (expansion.resumedFrom closure.edges).prior) = (.ok resumed, content) := by
    rw [finishes.append_prior_resumed]
    exact run
  exact (log_of_run started whole).1 resumed rfl

/-- The resumed run ends with its first iteration, or with the second one when it asks
again for what the complete run has found. -/
theorem finishes_resumed {Log : Type} {sink : EdgeSink Log} {log before after : Log}
    {asked : List Reference} (begins : Begins expansion sink roots log last final asked before)
    (allowed : last ≤ expansion.config.effectiveMaxIterations)
    (ends : expansion.turn sink last final asked before = .converged closure after) :
    ∃ resumed final' last', last' ≤ 2 ∧
      (expansion.resumedFrom closure.edges).run EdgeList.sink roots closure.edges =
        (.ok resumed, resumed.edges) ∧
      Finishes (expansion.resumedFrom closure.edges) roots last' final' resumed := by
  obtain ⟨first, started, recalls, all⟩ := finishes.start_resumed fresh owned housed
  have again : Begins (expansion.resumedFrom closure.edges) EdgeList.sink roots closure.edges 1
      first.written [] _ := .first started rfl
  obtain ⟨recalls, all⟩ := finishes.recalls_of_scans fresh owned housed isSnapshot again.scans
  have free : ∀ place, 1 ≤ place → place ≤ last → expansion.isCancelled (place - 1) = false :=
    fun place pos order => begins.uncancelled ends pos order
  have pos := begins.scans.pos
  by_cases nothing : first.written.pending = []
  · obtain ⟨content, run⟩ :=
      again.run_list (Nat.le_trans pos allowed) (free 1 (Nat.le_refl 1) pos) nothing
    obtain rfl := finishes.log_of_resumed run
    exact ⟨_, _, 1, by omega, run, again.scans, nothing, rfl⟩
  · have same := (finishes.owners_resumed again.scans).2
    -- What is pending was found in an iteration of the complete run, which went on from it.
    have later : 1 < last := by
      obtain ⟨⟨reference, referrer⟩, isOpen⟩ := List.exists_mem_of_ne_nil _ nothing
      obtain ⟨found, _⟩ := finishes.resolve_pending isSnapshot recalls all same isOpen
      refine Nat.lt_of_le_of_ne pos fun isFirst => found ?_
      obtain ⟨state, start⟩ := finishes.scans.started
      have nothingFound : state.resolved = [] := resolved_start start
      subst isFirst
      rw [finishes.scans.unique (.first start)]
      exact nothingFound
    obtain ⟨resolved, isResolved, known, _, _⟩ :=
      finishes.resolveAll_resumed isSnapshot recalls all same 1
    have patient : (expansion.resumedFrom closure.edges).stalled
        ([] ++ first.written.pending.map (·.1)) first.written.pending = [] := by
      have stalled := @stalled_eq (expansion.resumedFrom closure.edges) first.written
      rw [← again.asked_eq] at stalled
      exact stalled.trans (if_neg (begins.tolerant later))
    obtain ⟨content, turned⟩ := turn_list_onward (free 1 (Nat.le_refl 1) pos) nothing patient
      isResolved _
    have next := again.next (Nat.le_trans pos allowed) turned
    have ended := pending_eq_nil_of_known_eq again.scans isResolved known
    obtain ⟨content, run⟩ := next.run_list (Nat.le_trans later allowed) (free 2 (by omega) later) ended
    obtain rfl := finishes.log_of_resumed run
    exact ⟨_, _, 2, by omega, run, next.scans, ended, rfl⟩

/-! ## The records of the resumed run -/

/-- The known objects are the same, so they are sorted alike and give the same owners. -/
theorem sortedKnown_resumed
    (scans : Scans (expansion.resumedFrom closure.edges) roots iteration state) :
    state.sortedKnown = final.sortedKnown ∧ state.ownerOfName? = final.ownerOfName? := by
  obtain ⟨recalls, all⟩ := finishes.recalls_of_scans fresh owned housed isSnapshot scans
  have sorted : state.sortedKnown = final.sortedKnown :=
    Sorting.sortOn_congr scans.sound.1.keysDistinct finishes.scans.sound.1.keysDistinct
      fun member => ⟨recalls.known member, all member⟩
  refine ⟨sorted, funext fun name => ?_⟩
  rw [ClosureState.ownerOfName?, ClosureState.ownerOfName?, sorted]

variable {final' : ClosureState} {last' : Nat} {resumed : Closure}
  (again : Finishes (expansion.resumedFrom closure.edges) roots last' final' resumed)

include again

/-- **The records of the complete run come first.** -/
theorem prefix_edges_resumed : closure.edges <+: resumed.edges := by
  obtain ⟨_, owners⟩ := finishes.sortedKnown_resumed fresh owned housed isSnapshot again.scans
  obtain ⟨later, synced⟩ := again.scans.synced
  have scanned := ((Synced.preserved (expansion.resumedFrom closure.edges) _).scanned final' synced)
  have isFirst : closure.edges <+: final'.scanned.edges := by
    rw [scanned.edges, finishes.append_prior_resumed, List.append_assoc]
    exact List.prefix_append _ _
  rw [again.closure_eq]
  refine EdgeList.prefix_backfillAll isFirst fun edge recorded repair listed => ?_
  obtain ⟨old, _, rfl⟩ := finishes.mem_edges.mp recorded
  have given := (ClosureState.mem_repairs.mp listed).2
  rw [ClosureState.ownerOfName?_scanned, owners] at given
  exact EdgeList.needsOwner_fill old given

/-- The further records are read off the states of the resumed run. -/
theorem mem_edges_resumed {edge : Edge} : edge ∈ resumed.edges ↔ edge ∈ closure.edges ∨
    ∃ iteration state, Scans (expansion.resumedFrom closure.edges) roots iteration state ∧
      ∃ member ∈ state.known, ∃ read ∈ state.recordsOf member,
        EdgeList.fill state.ownerOfName? read = edge := by
  have owners : ∀ {iteration state},
      Scans (expansion.resumedFrom closure.edges) roots iteration state →
      state.ownerOfName? = final.ownerOfName? := fun scans =>
    (finishes.sortedKnown_resumed fresh owned housed isSnapshot scans).2
  constructor
  · intro recorded
    obtain ⟨old, scanned, rfl⟩ := again.mem_edges.mp recorded
    have origin : old ∈ closure.edges ∨ old.status = .ok := by
      rcases ClosureState.mem_edges_scanned.mp scanned with before | ⟨_, _, read⟩
      · exact (finishes.recalls_of_scans fresh owned housed isSnapshot again.scans).1.confirmed
          old before
      · exact .inr (ClosureState.confirmed_of_mem_recordsOf read).1
    have earlier : old ∈ closure.edges →
        EdgeList.fill final'.ownerOfName? old ∈ closure.edges := by
      intro listed
      obtain ⟨first, _, rfl⟩ := finishes.mem_edges.mp listed
      rw [owners again.scans, EdgeList.fill_fill]
      exact listed
    rcases origin with listed | ok
    · exact .inl (earlier listed)
    · rcases (again.mem_edges_scanned ok).mp scanned with
        listed | ⟨iteration, state, scans, member, known, read⟩
      · exact .inl (earlier listed)
      · rw [owners again.scans, ← owners scans]
        exact .inr ⟨iteration, state, scans, member, known, old, read, rfl⟩
  · rintro (listed | ⟨iteration, state, scans, member, known, read, isRead, rfl⟩)
    · exact (finishes.prefix_edges_resumed fresh owned housed isSnapshot again).subset listed
    · rw [owners scans, ← owners again.scans]
      have ok := (ClosureState.confirmed_of_mem_recordsOf isRead).1
      exact again.mem_edges.mpr ⟨read,
        (again.mem_edges_scanned ok).mpr (.inr ⟨iteration, state, scans, member, known, isRead⟩), rfl⟩

omit again

/-- **When names are unambiguous** the resumed run takes a reference for the same as the
complete one. -/
theorem target?_resumed (unambiguous : expansion.afresh.Unambiguous roots)
    (scans : Scans (expansion.resumedFrom closure.edges) roots iteration state)
    {member : KnownObject} (known : member ∈ state.known) {reference : Reference}
    (mentioned : reference ∈ state.referencesFrom member) {target : ObjectRef}
    (answered : state.target? reference = some target) : final.target? reference = some target := by
  obtain ⟨recalls, all⟩ := finishes.recalls_of_scans fresh owned housed isSnapshot scans
  have sound := finishes.scans.sound.1
  have truthful := finishes.scans.truthful isSnapshot unambiguous (allows_of_fresh fresh)
  have readmits := @readmits_of_fresh expansion roots fresh final
  obtain ⟨_, mentions⟩ := finishes.owners_resumed scans
  rw [mentions] at mentioned
  have inFinal := recalls.known member known
  obtain ⟨_, answeredThen⟩ := finishes.answered inFinal mentioned
  obtain ⟨answer, calls, stands⟩ := truthful.calls_of_mentioned isSnapshot unambiguous
    finishes.scans inFinal mentioned answeredThen
  rw [answeredThen, stands.eq_meaning readmits calls]
  suffices same : target = meaning reference answer by rw [same]
  rw [ClosureState.target?_eq] at answered
  cases asked : state.answered? reference with
  | some noted =>
      obtain ⟨given, ⟨caller, callerKnown, callerMentions, resolved⟩, rfl⟩ :=
        scans.sound.1.resolved _ (ClosureState.mem_resolved_of_answered? asked)
      have callerFinal := recalls.known caller callerKnown
      have alsoCalls : expansion.afresh.Calls roots caller.object reference given :=
        ⟨truthful.known caller callerFinal,
          (sound.mem_referencesFrom callerFinal).mp (mentions caller ▸ callerMentions), resolved⟩
      obtain rfl := unambiguous.oneAnswer _ _ _ _ _ calls alsoCalls
      rw [asked] at answered
      exact (Option.some.inj answered).symm
  | none =>
      rw [asked] at answered
      cases found : state.knownTarget? reference with
      | some object =>
          rw [found] at answered
          obtain rfl := Option.some.inj answered
          obtain ⟨other, otherKnown, rfl, fits⟩ := fits_of_knownTarget? found
          obtain ⟨row, rfl, isRow⟩ := unambiguous.noHomonym _ _ _ _ calls
            (truthful.known other (recalls.known other otherKnown)) fits
          exact isRow.symm
      | none =>
          rw [found] at answered
          by_cases isMissing : reference.placeholder.key ∈ state.missing
          · obtain rfl : reference.placeholder = target := by simpa [isMissing] using answered
            have noTarget : final.knownTarget? reference = none := by
              rw [Option.eq_none_iff_forall_ne_some]
              intro object foundThen
              obtain ⟨other, otherKnown, rfl, fits⟩ := fits_of_knownTarget? foundThen
              exact knownTarget?_ne_none (all other otherKnown) fits found
            exact (truthful.standsFor_of_missing unambiguous finishes.scans.logged calls noTarget
              (recalls.missing ▸ isMissing)).eq_meaning readmits calls
          · simp [isMissing] at answered

/-- So it reads off nothing but records of the complete run. -/
theorem recordsOf_resumed (unambiguous : expansion.afresh.Unambiguous roots)
    (scans : Scans (expansion.resumedFrom closure.edges) roots iteration state)
    {member : KnownObject} (known : member ∈ state.known) {edge : Edge}
    (read : edge ∈ state.recordsOf member) : edge ∈ final.recordsOf member := by
  have target : ∀ {reference target}, reference ∈ state.referencesFrom member →
      state.target? reference = some target → final.target? reference = some target :=
    fun mentioned answered => finishes.target?_resumed fresh owned housed isSnapshot unambiguous
      scans known mentioned answered
  refine ClosureState.mem_recordsOf.mpr ?_
  rw [← (finishes.owners_resumed scans).2]
  refine (ClosureState.mem_recordsOf.mp read).imp ?_ ?_
  · rintro ⟨isLeaf, allOwn⟩
    refine ⟨isLeaf, fun reference mentioned => ?_⟩
    obtain ⟨own, answered, isOwn⟩ := allOwn reference mentioned
    exact ⟨own, target mentioned answered, isOwn⟩
  · rintro ⟨reference, mentioned, other, answered, notOwn, isEdge⟩
    exact ⟨reference, mentioned, other, target mentioned answered, notOwn, isEdge⟩

end Finishes

/-- What a run reads off the states that it scans are these records, once owners are
filled in. -/
def Repeats (expansion : Expansion) (roots : List ObjectRef) (records : List Edge) : Prop :=
  ∀ iteration state, Scans expansion roots iteration state → ∀ member ∈ state.known,
    ∀ edge ∈ state.recordsOf member, EdgeList.fill state.ownerOfName? edge ∈ records

/-- **Resuming a complete run finds nothing new**, over a snapshot, when the objects
found have owners and their packages are among them.  The resumed run succeeds after
two iterations at most, with the same objects and the same missing keys.  It keeps the
records in their order and adds only confirmed ones of these objects.  It adds none
exactly when it reads off the same records, and so it does when names are
unambiguous. -/
theorem resumed_eq_iff_repeats {Log : Type} {sink : EdgeSink Log} {before after : Log}
    (isSnapshot : expansion.catalog = snapshot.catalog) (fresh : expansion.prior = [])
    {whole : Closure} (complete : expansion.run sink roots before = (.ok whole, after))
    (owned : ∀ object ∈ whole.objects, object.owner ≠ none)
    (housed : ∀ object ∈ whole.objects, ∀ package, containerOf? object = some package →
      package ∈ whole.objects) :
    ∃ resumed, (expansion.resumedFrom whole.edges).run EdgeList.sink roots whole.edges =
        (.ok resumed, resumed.edges) ∧
      resumed.iterations ≤ 2 ∧ resumed.objects = whole.objects ∧
      resumed.missing = whole.missing ∧ whole.edges <+: resumed.edges ∧
      (∀ edge ∈ resumed.edges, edge ∈ whole.edges ∨
        edge.status = .ok ∧ edge.object ∈ whole.objects) ∧
      (resumed.edges = whole.edges ↔
        (expansion.resumedFrom whole.edges).Repeats roots whole.edges) ∧
      (expansion.afresh.Unambiguous roots → resumed.edges = whole.edges) := by
  obtain ⟨last, final, asked, content, begins, allowed, ends⟩ := run_eq_ok complete
  obtain ⟨nothing, isWhole⟩ := turn_spec.1 _ _ ends
  have finishes : Finishes expansion roots last final whole := ⟨begins.scans, nothing, isWhole⟩
  obtain ⟨resumed, final', last', inTime, run, again⟩ :=
    finishes.finishes_resumed fresh owned housed isSnapshot begins allowed ends
  have recalled {iteration state} := @Finishes.recalls_of_scans expansion roots snapshot last
    iteration final state whole finishes fresh owned housed isSnapshot
  have isFirst := finishes.prefix_edges_resumed fresh owned housed isSnapshot again
  have origin {edge} := @Finishes.mem_edges_resumed expansion roots snapshot last final whole
    finishes fresh owned housed isSnapshot final' last' resumed again edge
  have exactly : resumed.edges = whole.edges ↔
      (expansion.resumedFrom whole.edges).Repeats roots whole.edges := by
    constructor
    · intro same iteration state scans member known edge read
      rw [← same]
      exact origin.mpr (.inr ⟨iteration, state, scans, member, known, edge, read, rfl⟩)
    · intro repeats
      have all : resumed.edges ⊆ whole.edges := by
        intro edge recorded
        rcases origin.mp recorded with
          old | ⟨iteration, state, scans, member, known, read, isRead, rfl⟩
        · exact old
        · exact repeats iteration state scans member known read isRead
      -- Nothing is left after the records of the complete run, since each is there once.
      exact (isFirst.eq_of_length_le (List.Nodup.subperm again.nodup_edges all).length_le).symm
  refine ⟨resumed, run, ?_, ?_, ?_, isFirst, fun edge recorded => ?_, exactly,
    fun unambiguous => exactly.mpr ?_⟩
  · rw [again.closure_eq]
    exact inTime
  · rw [again.objects_eq, finishes.objects_eq,
      (finishes.sortedKnown_resumed fresh owned housed isSnapshot again.scans).1]
  · rw [again.missing_eq, finishes.missing_eq, (recalled again.scans).1.missing]
  · refine (origin.mp recorded).imp_right ?_
    rintro ⟨iteration, state, scans, member, known, read, isRead, rfl⟩
    obtain ⟨ok, isObject⟩ := ClosureState.confirmed_of_mem_recordsOf isRead
    exact ⟨ok, finishes.mem_objects.mpr
      ⟨member, (recalled scans).1.known member known, isObject.symm⟩⟩
  · intro iteration state scans member known edge read
    obtain ⟨_, owners⟩ := finishes.sortedKnown_resumed fresh owned housed isSnapshot scans
    rw [owners]
    refine finishes.mem_edges.mpr ⟨edge, ClosureState.mem_edges_scanned.mpr (.inr ⟨member, ?_, ?_⟩), rfl⟩
    · exact (recalled scans).1.known member known
    · exact finishes.recordsOf_resumed fresh owned housed isSnapshot unambiguous scans known read

/-- The run of two procedures, when it is not stopped, is not changed by resuming it. -/
theorem interruptedExpansion_repeats :
    ∃ whole resumed log,
      interruptedExpansion.run EdgeList.sink [interruptedRows.1.toRef] [] = (.ok whole, log) ∧
      (interruptedExpansion.resumedFrom whole.edges).run EdgeList.sink [interruptedRows.1.toRef]
        whole.edges = (.ok resumed, whole.edges) ∧
      resumed.edges = whole.edges ∧ resumed.objects = whole.objects ∧
      resumed.missing = whole.missing := by
  obtain ⟨whole, log, complete, objects⟩ := Outcome.eq_ok_of_reading complete_interruptedExpansion
  have owned : ∀ object ∈ whole.objects, object.owner ≠ none := by
    rw [objects]
    with_unfolding_all decide
  have housed : ∀ object ∈ whole.objects, ∀ package, containerOf? object = some package →
      package ∈ whole.objects := by
    have uncontained : ∀ object ∈ whole.objects, containerOf? object = none := by
      rw [objects]
      with_unfolding_all decide
    intro object listed package contained
    rw [uncontained object listed] at contained
    cases contained
  obtain ⟨resumed, again, _, sameObjects, sameMissing, _, _, _, unchanged⟩ :=
    @resumed_eq_iff_repeats interruptedExpansion [interruptedRows.1.toRef] interruptedSnapshot _
      EdgeList.sink [] log rfl rfl whole complete owned housed
  have same := unchanged unambiguous_interruptedExpansion
  exact ⟨whole, resumed, log, complete, same ▸ again, same, sameObjects, sameMissing⟩

/-- The rows of a table and of a view with its name. -/
def shadowedRows : CatalogRow × CatalogRow :=
  (.new "A" .table "" "X", .new "B" .view "" "X")

/-- The rows of two procedures. -/
def shadowedCallers : CatalogRow × CatalogRow :=
  (.new "B" .procedure "" "MAIN", .new "B" .procedure "" "OTHER")

/-- The catalog of the table, the view and the procedures. -/
def shadowedSnapshot : Snapshot :=
  Snapshot.ofRows [shadowedRows.1, shadowedRows.2, shadowedCallers.1, shadowedCallers.2]

/-- The expansion of the procedures.  The first one deletes from the view, by its name
alone, and the second one from the table. -/
def shadowedExpansion : Expansion where
  catalog := shadowedSnapshot.catalog
  sources := (SourceShelf.ofEntries [.new "B" "" "MAIN" "DELETE FROM X;",
    .new "B" "" "OTHER" "DELETE FROM A.X;"]).store
  config := {}

/-- What the complete run records. -/
def shadowedEdges : List Edge :=
  [Edge.leaf shadowedRows.1.toRef, Edge.leaf shadowedRows.2.toRef,
    Edge.requires shadowedCallers.1.toRef shadowedRows.2.toRef,
    Edge.requires shadowedCallers.2.toRef shadowedRows.1.toRef]

theorem complete_shadowedExpansion :
    (shadowedExpansion.run EdgeList.sink [shadowedCallers.1.toRef, shadowedCallers.2.toRef]
      []).1.toOption.map (·.edges) = some shadowedEdges := by
  with_unfolding_all rfl

/-- The resumed run takes the name alone for the table. -/
theorem resumed_shadowedExpansion :
    ((shadowedExpansion.resumedFrom shadowedEdges).run EdgeList.sink
      [shadowedCallers.1.toRef, shadowedCallers.2.toRef] shadowedEdges).1.toOption.map (·.edges) =
      some (shadowedEdges ++ [Edge.requires shadowedCallers.1.toRef shadowedRows.1.toRef]) := by
  with_unfolding_all rfl

/-- **Resuming a complete run adds records in general**, also when the roots have
owners. -/
theorem not_forall_resumed_eq :
    ¬ ∀ (snapshot : Snapshot) (expansion : Expansion) (roots : List ObjectRef) (whole : Closure)
        (log : List Edge),
      expansion.catalog = snapshot.catalog → expansion.prior = [] →
      (∀ root ∈ roots, root.owner ≠ none) →
      expansion.run EdgeList.sink roots [] = (.ok whole, log) →
      ∃ resumed, (expansion.resumedFrom whole.edges).run EdgeList.sink roots whole.edges =
          (.ok resumed, whole.edges) ∧
        resumed.edges = whole.edges ∧ resumed.objects = whole.objects ∧
        resumed.missing = whole.missing := by
  intro always
  obtain ⟨whole, log, complete, edges⟩ := Outcome.eq_ok_of_reading complete_shadowedExpansion
  have owned : ∀ root ∈ [shadowedCallers.1.toRef, shadowedCallers.2.toRef], root.owner ≠ none := by
    with_unfolding_all decide
  obtain ⟨resumed, again, same, _, _⟩ :=
    always shadowedSnapshot shadowedExpansion _ whole log rfl rfl owned complete
  have reading := resumed_shadowedExpansion
  rw [edges] at again same
  rw [again] at reading
  have grown : shadowedEdges = shadowedEdges ++
      [Edge.requires shadowedCallers.1.toRef shadowedRows.1.toRef] :=
    same.symm.trans (Option.some.inj reading)
  simp at grown

end SchemaPlan.Expansion
