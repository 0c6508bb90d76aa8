import SchemaPlan.Plan.Planner
import SchemaPlan.Proofs.Closure.Stability
import SchemaPlan.Proofs.Reference.Alike

/-!
# Interchangeable catalogs

An expansion comes to the same end with one catalog and with another one that is alike,
whatever the sources, the configuration and the sink (`Expansion.run_of_alike`), and so
does a planner that looks up its configured roots (`Planner.configuredRoots_of_alike`).
One of the catalogs is a snapshot of rows in stored form, which keeps the other one to
such rows as well.

All questions of a run are about trimmed names, as long as every known object is in
stored form (`Scans.allMade`): the roots are, what is found is a row of the catalog, and
a package is made from the object that it contains.  Each iteration that the snapshot
has come to is therefore the same with the other catalog.
-/

set_option autoImplicit false

namespace SchemaPlan

open Text (Trimmed)

/-! ## Objects in stored form -/

namespace Expansion

variable {expansion : Expansion} {snapshot : Snapshot} {state after : ClosureState}
  {roots : List ObjectRef}

/-- Every known object is in stored form. -/
def AllMade (state : ClosureState) : Prop := ∀ member ∈ state.known, member.object.IsMade

theorem isMade_container {object container : ObjectRef}
    (contained : containerOf? object = some container) : container.IsMade := by
  obtain ⟨package, _, rfl⟩ := Option.map_eq_some_iff.mp contained
  exact ⟨object.owner, .package, rootPackage, package, rfl⟩

theorem AllMade.takeUp (allMade : AllMade state) {object : ObjectRef} (made : object.IsMade)
    (taken : expansion.takeUp state object = .ok after) : AllMade after := by
  refine takeUp_induction allMade (fun before other references holds _ _ origin => ?_) taken
  intro member known
  rcases ClosureState.mem_known_enter.mp known with old | rfl
  · exact holds member old
  · rcases origin with rfl | contained
    · exact made
    · exact isMade_container contained

theorem AllMade.start (prior : ∀ object ∈ expansion.priorObjects, object.IsMade)
    (made : ∀ root ∈ roots, root.IsMade) (started : expansion.start roots = .ok state) :
    AllMade state := by
  obtain ⟨owners, _, taken⟩ := start_eq_ok started
  refine Outcome.foldlM_induction ?_ (fun _ object member _ holds one => holds.takeUp ?_ one) taken
  · intro member known
    rw [(ClosureState.fields_seed_initial owners expansion.prior).2.1] at known
    exact absurd known List.not_mem_nil
  · exact (List.mem_append.mp member).elim (prior object) (made object)

/-- What is found is in stored form. -/
theorem AllMade.resolveOne (answers : expansion.catalog.AnswersMade) (allMade : AllMade state)
    {iteration : Nat} {entry : Reference × ObjectRef}
    (resolved : expansion.resolveOne iteration state entry = .ok after) : AllMade after := by
  rcases resolveOne_eq_ok resolved with ⟨row, found, taken⟩ | ⟨_, rfl⟩
  · have noted : AllMade (state.noteFound entry.1 row.toRef) := allMade
    exact noted.takeUp (answers.resolve found).toRef taken
  · intro member known
    rw [(ClosureState.fields_noteUnresolved _ _ _ _).2.1] at known
    exact allMade member known

/-- **Every object of a scanned state is in stored form** when the roots, the objects of
the earlier run and the rows of the catalog are. -/
theorem Scans.allMade (answers : expansion.catalog.AnswersMade)
    (prior : ∀ object ∈ expansion.priorObjects, object.IsMade)
    (made : ∀ root ∈ roots, root.IsMade) {iteration : Nat}
    (scans : Scans expansion roots iteration state) : AllMade state := by
  induction scans with
  | first started =>
      have allMade := AllMade.start prior made started
      exact allMade
  | @next _ state _ _ _ resolved ih =>
      have scanned : AllMade state.scanned.written := by
        intro member known
        rw [(ClosureState.fields_of_bare (ClosureState.bare_written_scanned state)).2.1] at known
        exact ih member known
      have allMade : AllMade _ := Outcome.foldlM_induction scanned
        (fun _ _ _ _ holds one => holds.resolveOne answers one) resolved
      exact allMade

/-- **The pending references of a scanned state are trimmed**, and so are the owners of
their referrers. -/
theorem Scans.isTrimmed_pending (isSnapshot : expansion.catalog = snapshot.catalog)
    (stored : ∀ row ∈ snapshot.rows, row.IsMade)
    (prior : ∀ object ∈ expansion.priorObjects, object.IsMade)
    (made : ∀ root ∈ roots, root.IsMade) {iteration : Nat}
    (scans : Scans expansion roots iteration state) {entry : Reference × ObjectRef}
    (pending : entry ∈ state.pending) :
    entry.1.IsTrimmed ∧ ∀ owner ∈ entry.2.owner, Trimmed owner := by
  obtain ⟨member, known, isReferrer, mentioned, _⟩ := ClosureState.mem_pending pending
  have answers : expansion.catalog.AnswersMade := isSnapshot ▸ Snapshot.answersMade stored
  have memberMade := scans.allMade answers prior made member known
  obtain ⟨references, read, mention, listed, _, isReference⟩ :=
    ClosureState.mem_referencesFrom.mp mentioned
  have source := scans.sound.1.references member known
  rw [read] at source
  obtain ⟨lines, _, extracted⟩ := referencesOf_eq_some source
  rw [isSnapshot] at extracted
  rw [← isReference, ← isReferrer]
  exact ⟨Reference.isTrimmed_qualify stored extracted listed state.owners memberMade,
    memberMade.trimmed_owner⟩

/-! ## Steps with either catalog -/

/-- The expansion with another catalog. -/
def withCatalog (expansion : Expansion) (catalog : Catalog) : Expansion :=
  { expansion with catalog }

variable {first second : Catalog}

theorem referencesOf_of_alike (alike : first.Alike second) (object : ObjectRef) :
    (expansion.withCatalog first).referencesOf object =
      (expansion.withCatalog second).referencesOf object := by
  have extracts := alike.extractLines expansion.config.extractor
  rw [referencesOf, referencesOf]
  refine bind_congr fun source => ?_
  cases source with
  | none => rfl
  | some lines => simp only [withCatalog, extracts]

theorem takeUp_of_alike (alike : first.Alike second) :
    (expansion.withCatalog first).takeUp = (expansion.withCatalog second).takeUp := by
  have object : (expansion.withCatalog first).takeUpObject =
      (expansion.withCatalog second).takeUpObject := by
    funext state object
    rw [takeUpObject, takeUpObject, referencesOf_of_alike alike]
  funext state other
  rw [takeUp, takeUp, object]

theorem start_of_alike (alike : first.Alike second) (roots : List ObjectRef) :
    (expansion.withCatalog first).start roots = (expansion.withCatalog second).start roots := by
  obtain ⟨owners, known, alsoKnown⟩ := alike.owners
  have isKnown : (expansion.withCatalog first).catalog.owners = .ok owners := known
  have alsoIsKnown : (expansion.withCatalog second).catalog.owners = .ok owners := alsoKnown
  rw [start, start, isKnown, alsoIsKnown, takeUp_of_alike alike]
  rfl

theorem resolveAll_of_alike (alike : first.Alike second) {pending : List (Reference × ObjectRef)}
    (trimmed : ∀ entry ∈ pending, entry.1.IsTrimmed ∧ ∀ owner ∈ entry.2.owner, Trimmed owner)
    (iteration : Nat) (state : ClosureState) :
    (expansion.withCatalog first).resolveAll iteration state pending =
      (expansion.withCatalog second).resolveAll iteration state pending := by
  refine Outcome.foldlM_congr (fun entry member state => ?_) state
  obtain ⟨reference, referrer⟩ := trimmed entry member
  have same : entry.1.resolve entry.2.owner (expansion.withCatalog first).catalog =
      entry.1.resolve entry.2.owner (expansion.withCatalog second).catalog :=
    alike.resolve reference referrer
  rw [resolveOne, resolveOne, same, takeUp_of_alike alike]

/-! ## Runs with either catalog -/

variable {Log : Type} {sink : EdgeSink Log}

/-- An iteration is told by what it makes of the pending references. -/
theorem turn_withCatalog_congr {iteration : Nat} {state : ClosureState}
    (same : (expansion.withCatalog first).resolveAll iteration state.scanned.written state.pending =
      (expansion.withCatalog second).resolveAll iteration state.scanned.written state.pending)
    (asked : List Reference) (log : Log) :
    (expansion.withCatalog first).turn sink iteration state asked log =
      (expansion.withCatalog second).turn sink iteration state asked log := by
  have resolves : ∀ log, (expansion.withCatalog first).resolvePending sink iteration
        state.scanned.written asked state.pending log =
      (expansion.withCatalog second).resolvePending sink iteration state.scanned.written asked
        state.pending log := by
    intro log
    rw [resolvePending, resolvePending, same]
    rfl
  rw [turn, turn]
  simp only [resolves]
  rfl

/-- From a state on that the snapshot has come to, what is left of the run is the same. -/
theorem iterate_of_alike (alike : first.Alike snapshot.catalog)
    (stored : ∀ row ∈ snapshot.rows, row.IsMade)
    (prior : ∀ object ∈ expansion.priorObjects, object.IsMade)
    (made : ∀ root ∈ roots, root.IsMade) {iteration : Nat}
    (scans : Scans (expansion.withCatalog snapshot.catalog) roots iteration state) (left : Nat)
    (asked : List Reference) (log : Log) :
    (expansion.withCatalog first).iterate sink left iteration state asked log =
      (expansion.withCatalog snapshot.catalog).iterate sink left iteration state asked log := by
  induction left generalizing iteration state asked log with
  | zero => rfl
  | succ left ih =>
      have trimmed : ∀ entry ∈ state.pending,
          entry.1.IsTrimmed ∧ ∀ owner ∈ entry.2.owner, Trimmed owner :=
        fun _ => @Scans.isTrimmed_pending (expansion.withCatalog snapshot.catalog) _ _ _ rfl stored
          prior made _ scans _
      have turns : (expansion.withCatalog first).turn sink iteration state asked log =
          (expansion.withCatalog snapshot.catalog).turn sink iteration state asked log :=
        turn_withCatalog_congr (resolveAll_of_alike alike trimmed _ _) asked log
      rw [iterate, iterate, turns]
      split
      · rfl
      · rfl
      · next goesOn =>
        obtain ⟨pending, resolved, isResolved, rfl⟩ := turn_spec.2 _ _ _ goesOn
        exact ih (scans.next pending isResolved) _ _

/-- **A run is the same with a snapshot and with a catalog that is alike**: it fails with
the same failure or gives the same closure, and it leaves the sink in the same way. -/
theorem run_of_alike (alike : first.Alike snapshot.catalog)
    (stored : ∀ row ∈ snapshot.rows, row.IsMade)
    (prior : ∀ object ∈ expansion.priorObjects, object.IsMade)
    (made : ∀ root ∈ roots, root.IsMade) (sink : EdgeSink Log) (log : Log) :
    (expansion.withCatalog first).run sink roots log =
      (expansion.withCatalog snapshot.catalog).run sink roots log := by
  rw [run, run, start_of_alike alike]
  split
  · rfl
  · next started =>
    split
    · rfl
    · exact iterate_of_alike alike stored prior made (.first started) _ _ _

end Expansion

/-! ## Configured roots -/

/-- The parts of a root are trimmed. -/
theorem Root.trimmed_of_parse {raw : String} {root : Root} (parsed : Root.parse raw = .ok root) :
    Trimmed root.owner ∧ (∀ package ∈ root.package, Trimmed package) ∧ Trimmed root.name := by
  have parts : ∀ segment ∈ (Text.splitOn '.' (Text.canonical raw)).map Text.trim,
      Trimmed segment := by
    intro segment member
    obtain ⟨piece, _, rfl⟩ := List.mem_map.mp member
    exact Text.trimmed_trim piece
  rw [Root.parse] at parsed
  split at parsed
  · cases parsed
  · split at parsed
    · next two =>
      rw [two] at parts
      obtain rfl := Except.ok.inj parsed
      simp only [List.forall_mem_cons] at parts
      exact ⟨parts.1, nofun, parts.2.1⟩
    · next three =>
      rw [three] at parts
      obtain rfl := Except.ok.inj parsed
      simp only [List.forall_mem_cons] at parts
      exact ⟨parts.1, fun package same => Option.some.inj same ▸ parts.2.1, parts.2.2.1⟩
    · cases parsed

/-- **A root means the same object in alike catalogs.** -/
theorem Root.resolve_of_alike {first second : Catalog} (alike : first.Alike second) {raw : String}
    {root : Root} (parsed : Root.parse raw = .ok root) :
    root.resolve first = root.resolve second := by
  obtain ⟨owner, package, name⟩ := Root.trimmed_of_parse parsed
  have owners : ∀ given ∈ some root.owner, Trimmed given :=
    fun given same => Option.some.inj same ▸ owner
  have names : ∀ given ∈ [root.name], Trimmed given :=
    fun given member => List.mem_singleton.mp member ▸ name
  have least : ∀ {rows others : List CatalogRow}, (∀ row, row ∈ rows ↔ row ∈ others) →
      CatalogRow.least? (rows.filter fun row => row.key.name == root.name) =
        CatalogRow.least? (others.filter fun row => row.key.name == root.name) :=
    fun same => CatalogRow.least?_congr fun row => by
      rw [List.mem_filter, List.mem_filter, same row]
  rw [Root.resolve, Root.resolve]
  cases isPackage : root.package with
  | none =>
      obtain ⟨rows, others, answered, alsoAnswered, same⟩ := alike.findByOwner _ _ owners names
      simp only [answered, alsoAnswered]
      exact congrArg (fun row => Except.ok (row.map CatalogRow.toRef)) (least same)
  | some given =>
      obtain ⟨rows, others, answered, alsoAnswered, same⟩ :=
        alike.findInPackage _ _ _ owners (package given isPackage) names
      simp only [answered, alsoAnswered]
      exact congrArg (fun row => Except.ok (row.map CatalogRow.toRef)) (least same)

namespace Planner

/-- The planner with another catalog. -/
def withCatalog (planner : Planner) (catalog : Catalog) : Planner := { planner with catalog }

/-- **The configured roots are the same in alike catalogs**, or fail in the same way. -/
theorem configuredRoots_of_alike {planner : Planner} {first second : Catalog}
    (alike : first.Alike second) :
    (planner.withCatalog first).configuredRoots = (planner.withCatalog second).configuredRoots := by
  have each : (planner.withCatalog first).configuredRoot =
      (planner.withCatalog second).configuredRoot := by
    funext raw
    rw [configuredRoot, configuredRoot]
    cases parsed : Root.parse raw with
    | error failure => rfl
    | ok root =>
        have same : root.resolve (planner.withCatalog first).catalog =
            root.resolve (planner.withCatalog second).catalog :=
          Root.resolve_of_alike alike parsed
        simp only [Except.mapError, bind, Except.bind, same]
  rw [configuredRoots, configuredRoots, each]
  rfl

end Planner

end SchemaPlan
