import SchemaPlan.Proofs.Closure.Meaning
import SchemaPlan.Proofs.Closure.Records

/-!
# Runs that tell the truth

When names are unambiguous, every state of a run tells the truth: what it knows
can be reached, and its records are among those that a closure may hold
(`Truthful`).  This is so because a reference is taken for what it stands for
(`Truthful.standsFor`), whether it is answered by an earlier answer, by a known
object or by a missing key.

There is one exception.  A run that begins with the records of an earlier one may
hold that an object without source is missing and not know the object.  Then it
takes a reference to the object for the placeholder, and does not come to know
the object by this reference.  When these objects are known in the end all the
same, the closure has come to hold what it has to hold (`Finishes.mem_known_iff`,
`Finishes.mem_edges_iff`).
-/

set_option autoImplicit false

namespace SchemaPlan.Expansion

variable {expansion : Expansion} {roots : List ObjectRef} {state after : ClosureState}

/-! ## Truthful states -/

/-- What a state knows can be reached, its records are among those that a closure
may hold, and the objects without source that are recorded as missing are known,
except for those of the earlier run. -/
structure Truthful (expansion : Expansion) (roots : List ObjectRef) (state : ClosureState) :
    Prop where
  known : ∀ member ∈ state.known, expansion.afresh.Reaches roots member.object
  edges : ∀ edge ∈ state.edges, expansion.afresh.Allows roots edge
  sourceless : ∀ object, Edge.missing object ∈ state.edges →
    expansion.afresh.Reaches roots object → expansion.LacksSource object →
    Edge.missing object ∈ expansion.prior ∨ state.knows object.key = true

/-- What a state takes a reference for, by the answer of the catalog: an object
that it knows, a placeholder that is recorded as missing, or the placeholder of an
object without source that is missing since the earlier run and not known. -/
inductive StandsFor (expansion : Expansion) (state : ClosureState) (reference : Reference) :
    Option CatalogRow → ObjectRef → Prop
  | found {row : CatalogRow} (known : state.knows row.toRef.key = true) :
      StandsFor expansion state reference (some row) row.toRef
  | absent (recorded : Edge.missing reference.placeholder ∈ state.edges) :
      StandsFor expansion state reference none reference.placeholder
  | sourceless {row : CatalogRow} (lacks : expansion.LacksSource row.toRef)
      (sameKey : reference.placeholder.key = row.toRef.key)
      (earlier : Edge.missing row.toRef ∈ expansion.prior)
      (unknown : state.knows row.toRef.key = false) :
      StandsFor expansion state reference (some row) reference.placeholder

/-- What a reference is taken for has the key of what it stands for. -/
theorem StandsFor.key_eq {reference : Reference} {answer : Option CatalogRow} {target : ObjectRef}
    (stands : expansion.StandsFor state reference answer target) :
    target.key = (meaning reference answer).key := by
  cases stands with
  | found _ => rfl
  | absent _ => rfl
  | sourceless _ sameKey _ _ => exact sameKey

/-- A known object that fits a reference gives it a known answer. -/
theorem knownTarget?_ne_none {member : KnownObject} (known : member ∈ state.known)
    {reference : Reference} (fits : Fits reference member.object) :
    state.knownTarget? reference ≠ none := by
  intro nothing
  have unfound := List.findSome?_eq_none_iff.mp nothing _ fits.package
  exact ClosureState.candidate?_ne_none known fits.name fits.type fits.owner unfound

/-- What a reference is taken for among the known objects fits it. -/
theorem fits_of_knownTarget? {reference : Reference} {object : ObjectRef}
    (found : state.knownTarget? reference = some object) :
    ∃ member ∈ state.known, member.object = object ∧ Fits reference object := by
  obtain ⟨package, searched, isCandidate⟩ := ClosureState.knownTarget?_eq_some found
  obtain ⟨member, known, rfl, rfl, name, type, owner⟩ :=
    ClosureState.candidate?_eq_some isCandidate
  exact ⟨member, known, rfl, searched, name, type, owner⟩

namespace Truthful

/-- An object that can be reached is known when its key is. -/
theorem mem_of_knows (truthful : expansion.Truthful roots state)
    (unambiguous : expansion.afresh.Unambiguous roots) {object : ObjectRef}
    (reaches : expansion.afresh.Reaches roots object) (knows : state.knows object.key = true) :
    ∃ member ∈ state.known, member.object = object := by
  obtain ⟨member, known, sameKey⟩ := ClosureState.knows_iff.mp knows
  exact ⟨member, known, unambiguous.oneObject _ _ (truthful.known member known) reaches sameKey⟩

/-- A missing key answers a reference for which nothing is found, or one to an
object without source. -/
theorem standsFor_of_missing (unambiguous : expansion.afresh.Unambiguous roots)
    (truthful : expansion.Truthful roots state) (logged : Logged state)
    {caller : ObjectRef} {reference : Reference} {answer : Option CatalogRow}
    (calls : expansion.afresh.Calls roots caller reference answer)
    (noTarget : state.knownTarget? reference = none)
    (isMissing : reference.placeholder.key ∈ state.missing) :
    expansion.StandsFor state reference answer reference.placeholder := by
  obtain ⟨edge, recorded, status, sameKey⟩ := (logged.missing _).mp isMissing
  cases (truthful.edges edge recorded).tells status with
  | leaf _ _ => cases status
  | requires _ _ => cases status
  | @sourceless object reaches lacks =>
      have fits := unambiguous.sourceless _ _ _ _ calls reaches lacks sameKey.symm
      obtain ⟨row, rfl, rfl⟩ := unambiguous.noHomonym _ _ _ _ calls reaches fits
      -- If the object were known it would have been taken for the answer.
      have unknown : ¬ state.knows row.toRef.key = true := by
        intro knows
        obtain ⟨member, known, same⟩ := truthful.mem_of_knows unambiguous reaches knows
        exact knownTarget?_ne_none known (same ▸ fits) noTarget
      have earlier := (truthful.sourceless row.toRef recorded reaches lacks).resolve_right unknown
      exact .sourceless lacks sameKey.symm earlier (Bool.not_eq_true _ ▸ unknown)
  | unresolved otherCalls =>
      obtain ⟨rfl, samePlaceholder⟩ :=
        unambiguous.onePlaceholder _ _ _ _ _ otherCalls calls sameKey.symm
      exact .absent (samePlaceholder ▸ recorded)

/-- **In a truthful state a reference is taken for what it stands for.** -/
theorem standsFor (unambiguous : expansion.afresh.Unambiguous roots)
    (truthful : expansion.Truthful roots state) {iteration : Nat}
    (scans : Scans expansion roots iteration state) {caller : ObjectRef}
    {reference : Reference} {answer : Option CatalogRow}
    (calls : expansion.afresh.Calls roots caller reference answer) {target : ObjectRef}
    (answered : state.target? reference = some target) :
    expansion.StandsFor state reference answer target := by
  obtain ⟨sound, settled⟩ := scans.sound
  have logged := scans.logged
  rw [ClosureState.target?_eq] at answered
  cases asked : state.answered? reference with
  | some noted =>
      have isNoted := ClosureState.mem_resolved_of_answered? asked
      obtain ⟨given, ⟨member, known, mentioned, resolved⟩, isGiven⟩ := sound.resolved _ isNoted
      have alsoCalls : expansion.afresh.Calls roots member.object reference given :=
        ⟨truthful.known member known, (sound.mem_referencesFrom known).mp mentioned, resolved⟩
      obtain rfl := unambiguous.oneAnswer _ _ _ _ _ calls alsoCalls
      obtain rfl : noted = answer.map CatalogRow.toRef := isGiven
      rw [asked] at answered
      obtain rfl := Option.some.inj answered
      cases answer with
      | none => exact .absent (logged.unresolved reference isNoted)
      | some row => exact .found (settled.found reference row.toRef isNoted)
  | none =>
      rw [asked] at answered
      cases found : state.knownTarget? reference with
      | some object =>
          rw [found] at answered
          obtain rfl := Option.some.inj answered
          obtain ⟨member, known, rfl, fits⟩ := fits_of_knownTarget? found
          obtain ⟨row, rfl, isRow⟩ := unambiguous.noHomonym _ _ _ _ calls
            (truthful.known member known) fits
          have knows := ClosureState.knows_iff.mpr ⟨member, known, rfl⟩
          rw [← isRow] at knows ⊢
          exact .found knows
      | none =>
          rw [found] at answered
          by_cases isMissing : reference.placeholder.key ∈ state.missing
          · obtain rfl : reference.placeholder = target := by simpa [isMissing] using answered
            exact truthful.standsFor_of_missing unambiguous logged calls found isMissing
          · simp [isMissing] at answered

/-! ## Steps -/

/-- Confirmed records that a closure may hold may be added at any time. -/
theorem of_bare (truthful : expansion.Truthful roots state) (same : after.bare = state.bare)
    (edges : ∀ edge ∈ after.edges, edge ∈ state.edges ∨
      edge.status = .ok ∧ expansion.afresh.Allows roots edge) :
    expansion.Truthful roots after := by
  obtain ⟨_, known, _, _⟩ := ClosureState.fields_of_bare same
  refine ⟨known ▸ truthful.known, fun edge recorded => ?_, fun object recorded reaches lacks => ?_⟩
  · exact (edges edge recorded).elim (truthful.edges edge) And.right
  · rcases edges _ recorded with old | ⟨ok, _⟩
    · rw [ClosureState.knows, ClosureState.known?, known]
      exact truthful.sourceless object old reaches lacks
    · cases ok

theorem enter (truthful : expansion.Truthful roots state) {object : ObjectRef}
    {references : Option References} (reaches : expansion.afresh.Reaches roots object)
    (read : expansion.referencesOf object = .ok references) :
    expansion.Truthful roots (state.enter object references) := by
  have knows : ∀ key, state.knows key = true ∨ key = object.key →
      (state.enter object references).knows key = true := by
    intro key either
    rcases either with old | rfl
    · obtain ⟨member, known, sameKey⟩ := ClosureState.knows_iff.mp old
      exact ClosureState.knows_iff.mpr
        ⟨member, ClosureState.mem_known_enter.mpr (.inl known), sameKey⟩
    · exact ClosureState.knows_iff.mpr ⟨_, ClosureState.mem_known_enter.mpr (.inr rfl), rfl⟩
  refine ⟨fun member known => ?_, fun edge recorded => ?_, fun other recorded isReached lacks => ?_⟩
  · rcases ClosureState.mem_known_enter.mp known with old | rfl
    · exact truthful.known member old
    · exact reaches
  · rcases ClosureState.mem_edges_enter.mp recorded with old | ⟨rfl, isRoutine, rfl⟩
    · exact truthful.edges edge old
    · exact .told (.sourceless reaches ⟨referencesOf_eq_none.mp read, isRoutine⟩)
  · rcases ClosureState.mem_edges_enter.mp recorded with old | ⟨_, _, same⟩
    · exact (truthful.sourceless other old isReached lacks).imp_right fun isKnown =>
        knows _ (.inl isKnown)
    · injection same with _ sameObject
      exact .inr (knows _ (.inr (congrArg ObjectRef.key sameObject)))

theorem takeUp (truthful : expansion.Truthful roots state) {object : ObjectRef}
    (reaches : expansion.afresh.Reaches roots object)
    (taken : expansion.takeUp state object = .ok after) : expansion.Truthful roots after := by
  refine takeUp_induction truthful (fun before other references holds _ read origin => ?_) taken
  rcases origin with rfl | contained
  · exact holds.enter reaches read
  · exact holds.enter (reaches.container contained) read

theorem noteUnresolved (unambiguous : expansion.afresh.Unambiguous roots)
    (truthful : expansion.Truthful roots state) {caller : ObjectRef} {reference : Reference}
    (calls : expansion.afresh.Calls roots caller reference none) (referrer : ObjectRef)
    (iteration : Nat) :
    expansion.Truthful roots (state.noteUnresolved reference referrer iteration) := by
  obtain ⟨_, sameKnown, _, _⟩ :=
    ClosureState.fields_noteUnresolved state reference referrer iteration
  have edges : ∀ {edge : Edge}, edge ∈ (state.noteUnresolved reference referrer iteration).edges ↔
      edge ∈ state.edges ∨ edge = Edge.missing reference.placeholder :=
    ClosureState.mem_edges_emit
  refine ⟨sameKnown ▸ truthful.known, fun edge recorded => ?_,
    fun object recorded reaches lacks => ?_⟩
  · rcases edges.mp recorded with old | rfl
    · exact truthful.edges edge old
    · exact .told (.unresolved calls)
  · rcases edges.mp recorded with old | same
    · rw [ClosureState.knows, ClosureState.known?, sameKnown]
      exact truthful.sourceless object old reaches lacks
    · injection same with _ sameObject
      subst sameObject
      exact absurd lacks (unambiguous.not_lacksSource_placeholder calls reaches)

/-- Asking for the pending references of a state whose objects can be reached
keeps to the truth. -/
theorem resolveAll {base : ClosureState} (unambiguous : expansion.afresh.Unambiguous roots)
    (sound : expansion.Sound base)
    (reaches : ∀ member ∈ base.known, expansion.afresh.Reaches roots member.object)
    (truthful : expansion.Truthful roots state) {iteration : Nat}
    (resolved : expansion.resolveAll iteration state base.pending = .ok after) :
    expansion.Truthful roots after := by
  refine Outcome.foldlM_induction truthful (fun before entry pending later holds one => ?_) resolved
  obtain ⟨reference, referrer⟩ := entry
  obtain ⟨member, known, rfl, mentioned, _⟩ := ClosureState.mem_pending pending
  have mentions := (sound.mem_referencesFrom known).mp mentioned
  rcases resolveOne_eq_ok one with ⟨row, asked, taken⟩ | ⟨asked, rfl⟩
  · have noted : expansion.Truthful roots (before.noteFound reference row.toRef) :=
      ⟨holds.known, holds.edges, holds.sourceless⟩
    exact noted.takeUp ((reaches member known).found mentions asked) taken
  · exact holds.noteUnresolved unambiguous ⟨reaches member known, mentions, asked⟩ _ _

variable {snapshot : Snapshot}

/-- A reference of a known object is taken for what the catalog finds for it. -/
theorem calls_of_mentioned (isSnapshot : expansion.catalog = snapshot.catalog)
    (unambiguous : expansion.afresh.Unambiguous roots)
    (truthful : expansion.Truthful roots state) {iteration : Nat}
    (scans : Scans expansion roots iteration state) {member : KnownObject}
    (known : member ∈ state.known) {reference : Reference}
    (mentioned : reference ∈ state.referencesFrom member) {target : ObjectRef}
    (answered : state.target? reference = some target) :
    ∃ answer, expansion.afresh.Calls roots member.object reference answer ∧
      expansion.StandsFor state reference answer target := by
  obtain ⟨answer, resolved⟩ := reference.exists_resolve member.object.owner snapshot
  rw [← isSnapshot] at resolved
  have calls : expansion.afresh.Calls roots member.object reference answer :=
    ⟨truthful.known member known, (scans.sound.1.mem_referencesFrom known).mp mentioned, resolved⟩
  exact ⟨answer, calls, truthful.standsFor unambiguous scans calls answered⟩

/-- **The records of a scan are allowed.** -/
theorem scanned (isSnapshot : expansion.catalog = snapshot.catalog)
    (unambiguous : expansion.afresh.Unambiguous roots)
    (truthful : expansion.Truthful roots state) {iteration : Nat}
    (scans : Scans expansion roots iteration state) : expansion.Truthful roots state.scanned := by
  refine truthful.of_bare (ClosureState.bare_scanned state) fun edge now => ?_
  refine (ClosureState.mem_edges_scanned.mp now).imp_right ?_
  rintro ⟨member, known, recorded⟩
  rcases ClosureState.mem_recordsOf.mp recorded with
    ⟨rfl, allOwn⟩ | ⟨reference, mentioned, target, answered, other, rfl⟩
  · refine ⟨rfl, .told (.leaf (truthful.known member known) fun reference answer calls => ?_)⟩
    have mentioned := (scans.sound.1.mem_referencesFrom known).mpr calls.mentions
    obtain ⟨target, answered, own⟩ := allOwn reference mentioned
    have stands := truthful.standsFor unambiguous scans calls answered
    rw [← isOwnDeliveryUnit_congr stands.key_eq]
    exact own
  · refine ⟨rfl, ?_⟩
    obtain ⟨answer, calls, stands⟩ :=
      truthful.calls_of_mentioned isSnapshot unambiguous scans known mentioned answered
    rw [isOwnDeliveryUnit_congr stands.key_eq] at other
    have told := Tells.requires calls other
    cases stands with
    | found _ => exact .told told
    | absent _ => exact .told told
    | sourceless lacks sameKey _ _ => exact .unowned calls lacks sameKey other

end Truthful

/-! ## Runs -/

theorem knows_takeUpAll {objects : List ObjectRef}
    (taken : objects.foldlM expansion.takeUp state = .ok after) :
    ∀ object ∈ objects, after.knows object.key = true := by
  induction objects generalizing state with
  | nil => exact fun object member => absurd member List.not_mem_nil
  | cons first rest ih =>
      rw [List.foldlM_cons] at taken
      obtain ⟨middle, one, others⟩ := Outcome.bind_eq_ok.mp taken
      refine List.forall_mem_cons.mpr ⟨?_, ih others⟩
      exact @Outcome.foldlM_induction _ _ _ _ (fun later => later.knows first.key = true) _ _ _
        (knows_takeUp one) (fun _ _ _ _ known more => knows_takeUp_of_knows more known) others

theorem Scans.started {iteration : Nat} (scans : Scans expansion roots iteration state) :
    ∃ first, expansion.start roots = .ok first := by
  induction scans with
  | first started => exact ⟨_, started⟩
  | next _ _ _ ih => exact ih

/-- What is taken up at the start is known ever after. -/
theorem Scans.knows_start {iteration : Nat} (scans : Scans expansion roots iteration state) :
    ∀ object ∈ expansion.priorObjects ++ roots, state.knows object.key = true := by
  intro object listed
  obtain ⟨first, started⟩ := scans.started
  obtain ⟨_, _, taken⟩ := start_eq_ok started
  have known : first.written.knows object.key = true := knows_takeUpAll taken object listed
  exact ((Scans.first started).extends scans scans.pos).knows known

/-- What is taken up at the start can be reached, when the records of the earlier
run are allowed. -/
theorem reaches_of_start (allowed : ∀ edge ∈ expansion.prior, expansion.afresh.Allows roots edge)
    {object : ObjectRef} (listed : object ∈ expansion.priorObjects ++ roots) :
    expansion.afresh.Reaches roots object := by
  rcases List.mem_append.mp listed with inPrior | isRoot
  · obtain ⟨edge, chosen, rfl⟩ := List.mem_map.mp inPrior
    obtain ⟨recorded, confirmed⟩ := List.mem_filter.mp chosen
    rw [Bool.and_eq_true, decide_eq_true_eq] at confirmed
    exact (allowed edge recorded).reaches confirmed.1
  · exact .root isRoot

theorem truthful_start (allowed : ∀ edge ∈ expansion.prior, expansion.afresh.Allows roots edge)
    (started : expansion.start roots = .ok state) : expansion.Truthful roots state := by
  obtain ⟨owners, _, taken⟩ := start_eq_ok started
  have seeded : expansion.Truthful roots ((ClosureState.initial owners).seed expansion.prior) := by
    obtain ⟨_, edges, _⟩ := ClosureState.seed_spec (.initial owners) expansion.prior
    obtain ⟨_, nothingKnown, _⟩ := ClosureState.fields_seed_initial owners expansion.prior
    have inPrior : ∀ edge ∈ ((ClosureState.initial owners).seed expansion.prior).edges,
        edge ∈ expansion.prior := fun edge recorded =>
      ((edges edge).mp recorded).resolve_left List.not_mem_nil
    refine ⟨fun member known => ?_, fun edge recorded => ?_, fun object recorded _ _ => ?_⟩
    · exact absurd (nothingKnown ▸ known) List.not_mem_nil
    · exact allowed edge (inPrior edge recorded)
    · exact .inl (inPrior _ recorded)
  exact Outcome.foldlM_induction seeded
    (fun _ _ listed _ holds one => holds.takeUp (reaches_of_start allowed listed) one) taken

variable {snapshot : Snapshot}

/-- **Every state that a run scans tells the truth.** -/
theorem Scans.truthful (isSnapshot : expansion.catalog = snapshot.catalog)
    (unambiguous : expansion.afresh.Unambiguous roots)
    (allowed : ∀ edge ∈ expansion.prior, expansion.afresh.Allows roots edge)
    {iteration : Nat} (scans : Scans expansion roots iteration state) :
    expansion.Truthful roots state := by
  induction scans with
  | first started =>
      have truthful := truthful_start allowed started
      exact ⟨truthful.known, truthful.edges, truthful.sourceless⟩
  | next scans _ resolved ih =>
      have scanned := ih.scanned isSnapshot unambiguous scans
      have written : expansion.Truthful roots (ClosureState.written _) :=
        ⟨scanned.known, scanned.edges, scanned.sourceless⟩
      have truthful := written.resolveAll unambiguous scans.sound.1 ih.known resolved
      exact ⟨truthful.known, truthful.edges, truthful.sourceless⟩

/-! ## Closures -/

/-- The objects without source that the earlier run recorded as missing are known. -/
def Readmits (expansion : Expansion) (roots : List ObjectRef) (state : ClosureState) : Prop :=
  ∀ object, Edge.missing object ∈ expansion.prior → expansion.afresh.Reaches roots object →
    expansion.LacksSource object → state.knows object.key = true

/-- A state that knows these objects takes no reference for the placeholder of one. -/
theorem StandsFor.eq_meaning (readmits : expansion.Readmits roots state) {caller : ObjectRef}
    {reference : Reference} {answer : Option CatalogRow} {target : ObjectRef}
    (calls : expansion.afresh.Calls roots caller reference answer)
    (stands : expansion.StandsFor state reference answer target) :
    target = meaning reference answer := by
  cases stands with
  | found _ => rfl
  | absent _ => rfl
  | sourceless lacks _ earlier unknown =>
      rw [readmits _ earlier (calls.reaches.found calls.mentions calls.resolved) lacks] at unknown
      cases unknown

namespace Finishes

variable {last : Nat} {final : ClosureState} {closure : Closure}

/-- In the end every reference of a known object is taken for what it stands for. -/
theorem exists_standsFor (finishes : Finishes expansion roots last final closure)
    (unambiguous : expansion.afresh.Unambiguous roots) (truthful : expansion.Truthful roots final)
    {member : KnownObject} (known : member ∈ final.known) {reference : Reference}
    {answer : Option CatalogRow}
    (calls : expansion.afresh.Calls roots member.object reference answer) :
    reference ∈ final.referencesFrom member ∧ ∃ target, final.target? reference = some target ∧
      expansion.StandsFor final reference answer target := by
  have mentioned := (finishes.scans.sound.1.mem_referencesFrom known).mpr calls.mentions
  obtain ⟨target, answered⟩ := finishes.answered known mentioned
  exact ⟨mentioned, target, answered,
    truthful.standsFor unambiguous finishes.scans calls answered⟩

variable (isSnapshot : expansion.catalog = snapshot.catalog)
  (unambiguous : expansion.afresh.Unambiguous roots)
  (allowed : ∀ edge ∈ expansion.prior, expansion.afresh.Allows roots edge)
  (finishes : Finishes expansion roots last final closure)
  (readmits : expansion.Readmits roots final)

include isSnapshot unambiguous allowed finishes readmits

theorem mem_known_of_reaches {object : ObjectRef}
    (reaches : expansion.afresh.Reaches roots object) :
    ∃ member ∈ final.known, member.object = object := by
  have truthful := finishes.scans.truthful isSnapshot unambiguous allowed
  refine truthful.mem_of_knows unambiguous reaches ?_
  induction reaches with
  | root isRoot => exact finishes.scans.knows_start _ (List.mem_append_right _ isRoot)
  | container reaches contained ih =>
      obtain ⟨member, known, rfl⟩ := truthful.mem_of_knows unambiguous reaches ih
      exact finishes.scans.sound.2.housed member known _ contained
  | found reaches mentions resolved ih =>
      obtain ⟨member, known, rfl⟩ := truthful.mem_of_knows unambiguous reaches ih
      obtain ⟨_, target, _, stands⟩ := finishes.exists_standsFor unambiguous truthful known
        ⟨reaches, mentions, resolved⟩
      cases stands with
      | found knows => exact knows
      | sourceless lacks _ earlier _ =>
          exact readmits _ earlier (reaches.found mentions resolved) lacks

/-- **What a closure knows in the end** is what can be reached. -/
theorem mem_known_iff {member : KnownObject} :
    member ∈ final.known ↔ expansion.afresh.Reaches roots member.object ∧
      expansion.afresh.referencesOf member.object = .ok member.references := by
  have truthful := finishes.scans.truthful isSnapshot unambiguous allowed
  have sound := finishes.scans.sound.1
  constructor
  · exact fun known => ⟨truthful.known member known, sound.references member known⟩
  · rintro ⟨reaches, read⟩
    obtain ⟨other, known, same⟩ :=
      finishes.mem_known_of_reaches isSnapshot unambiguous allowed readmits reaches
    have alsoRead := sound.references other known
    rw [same] at alsoRead
    have sameReferences := Except.ok.inj (alsoRead.symm.trans read)
    have isMember : other = member := by
      cases other
      cases member
      exact congrArg₂ KnownObject.mk same sameReferences
    exact isMember ▸ known

/-- **What a closure has to hold it holds in the end.** -/
theorem mem_edges_of_tells {edge : Edge} (tells : expansion.afresh.Tells roots edge) :
    edge ∈ final.scanned.edges := by
  have truthful := finishes.scans.truthful isSnapshot unambiguous allowed
  have sound := finishes.scans.sound.1
  have logged := finishes.scans.logged
  have isKnown : ∀ {object : ObjectRef}, expansion.afresh.Reaches roots object →
      ∃ member ∈ final.known, member.object = object := fun reaches =>
    finishes.mem_known_of_reaches isSnapshot unambiguous allowed readmits reaches
  refine ClosureState.mem_edges_scanned.mpr ?_
  cases tells with
  | leaf reaches own =>
      obtain ⟨member, known, rfl⟩ := isKnown reaches
      refine .inr ⟨member, known, ClosureState.mem_recordsOf.mpr (.inl ⟨rfl, ?_⟩)⟩
      intro reference mentioned
      obtain ⟨target, answered⟩ := finishes.answered known mentioned
      obtain ⟨answer, calls, stands⟩ := truthful.calls_of_mentioned isSnapshot unambiguous
        finishes.scans known mentioned answered
      obtain rfl := stands.eq_meaning readmits calls
      exact ⟨_, answered, own reference answer calls⟩
  | requires calls other =>
      obtain ⟨member, known, rfl⟩ := isKnown calls.reaches
      obtain ⟨mentioned, target, answered, stands⟩ :=
        finishes.exists_standsFor unambiguous truthful known calls
      obtain rfl := stands.eq_meaning readmits calls
      exact .inr ⟨member, known,
        ClosureState.mem_recordsOf.mpr (.inr ⟨_, mentioned, _, answered, other, rfl⟩)⟩
  | sourceless reaches lacks =>
      obtain ⟨member, known, rfl⟩ := isKnown reaches
      have read := sound.references member known
      have noReferences := Except.ok.inj (read.symm.trans (referencesOf_eq_none.mpr lacks.1))
      exact .inl (logged.sourceless member known noReferences lacks.2)
  | unresolved calls =>
      obtain ⟨member, known, rfl⟩ := isKnown calls.reaches
      obtain ⟨_, target, _, stands⟩ :=
        finishes.exists_standsFor unambiguous truthful known calls
      cases stands with
      | absent recorded => exact .inl recorded

/-- A record that requires an object without source by its placeholder is the
record that requires the object, once owners are filled in. -/
theorem fill_unowned {caller : ObjectRef} {reference : Reference} {row : CatalogRow}
    (calls : expansion.afresh.Calls roots caller reference (some row))
    (lacks : expansion.LacksSource row.toRef)
    (sameKey : reference.placeholder.key = row.toRef.key) :
    EdgeList.fill final.ownerOfName?
        (Edge.requires caller (deliveryUnit caller reference.placeholder)) =
      EdgeList.fill final.ownerOfName? (Edge.requires caller (deliveryUnit caller row.toRef)) := by
  have reaches := calls.reaches.found calls.mentions calls.resolved
  rcases unambiguous.oneOwner caller reference row calls lacks with sameOwner | ⟨unowned, oneOwner⟩
  · rw [ObjectRef.eq_of_fields sameOwner sameKey]
  · have truthful := finishes.scans.truthful isSnapshot unambiguous allowed
    have unitReaches := reaches.deliveryUnit caller
    have unitOwner := oneOwner _ unitReaches rfl
    have unitKey := @key_deliveryUnit_congr caller _ _ sameKey
    have noOwner := @owner_deliveryUnit_eq_none caller _ unowned
    obtain ⟨unit, known, isUnit⟩ :=
      finishes.mem_known_of_reaches isSnapshot unambiguous allowed readmits unitReaches
    suffices filled : final.ownerOfName? (deliveryUnit caller row.toRef).key.name =
        (deliveryUnit caller row.toRef).owner.or
          (final.ownerOfName? (deliveryUnit caller row.toRef).key.name) by
      simp only [EdgeList.fill, Edge.requires, Option.map_some, unitKey, noOwner, Option.none_or]
      rw [← filled]
    cases owned : (deliveryUnit caller row.toRef).owner with
    | none => rfl
    | some owner =>
        rw [Option.some_or, ← isUnit]
        refine ClosureState.ownerOfName?_eq known fun member inKnown named => ?_
        rw [oneOwner _ (truthful.known member inKnown) (isUnit ▸ named), ← unitOwner, owned]

/-- **The records of a closure** are those that it has to hold, with owners filled
in. -/
theorem mem_edges_iff {edge : Edge} :
    edge ∈ closure.edges ↔ ∃ told, expansion.afresh.Tells roots told ∧
      EdgeList.fill final.ownerOfName? told = edge := by
  refine finishes.mem_edges.trans ?_
  constructor
  · rintro ⟨old, recorded, rfl⟩
    have truthful := (finishes.scans.truthful isSnapshot unambiguous allowed).scanned isSnapshot
      unambiguous finishes.scans
    cases truthful.edges old recorded with
    | told tells => exact ⟨old, tells, rfl⟩
    | unowned calls lacks sameKey other =>
        refine ⟨_, .requires calls other, Eq.symm ?_⟩
        exact finishes.fill_unowned isSnapshot unambiguous allowed readmits calls lacks sameKey
  · rintro ⟨told, tells, rfl⟩
    exact ⟨told, finishes.mem_edges_of_tells isSnapshot unambiguous allowed readmits tells, rfl⟩

/-- **The missing keys of a closure** are those of the records that have to say
so. -/
theorem mem_missing_iff {key : ObjectKey} :
    key ∈ closure.missing ↔ ∃ edge, expansion.afresh.Tells roots edge ∧
      edge.status = .missing ∧ edge.object.key = key := by
  have logged := finishes.scans.logged.scanned
  have sameMissing : final.scanned.missing = final.missing :=
    (ClosureState.fields_of_bare (ClosureState.bare_scanned final)).2.2.2
  rw [finishes.missing_eq, ← sameMissing, logged.missing]
  constructor
  · rintro ⟨edge, recorded, said⟩
    have truthful := (finishes.scans.truthful isSnapshot unambiguous allowed).scanned isSnapshot
      unambiguous finishes.scans
    exact ⟨edge, (truthful.edges edge recorded).tells said.1, said⟩
  · rintro ⟨edge, tells, said⟩
    exact ⟨edge, finishes.mem_edges_of_tells isSnapshot unambiguous allowed readmits tells, said⟩

end Finishes

end SchemaPlan.Expansion
