import SchemaPlan.Proofs.Closure.Asking
import SchemaPlan.Proofs.Closure.Preservation

/-!
# Every expansion of a snapshot converges

An iteration that takes up no object answers all references that were open, and no
other ones come up, so nothing is pending in the next iteration
(`pending_eq_nil_of_known_eq`).  An iteration that does take up an object makes the
key of a row known that was not.  There are only so many rows: while something is
pending, the iterations done and the rows left are together no more than the rows
(`Scans.pending_or_bounded`).

So when nothing fails, and two iterations more are allowed than there are rows, a
run ends with a closure (`converges`).
-/

set_option autoImplicit false

namespace SchemaPlan

/-- A sink that accepts all records and all owners. -/
structure EdgeSink.Unfailing {Log : Type} (sink : EdgeSink Log) : Prop where
  append : ∀ log records, ∃ after, sink.append log records = .ok after
  backfill : ∀ log name owner, ∃ after, sink.backfill log name owner = .ok after

theorem ClosureState.knows_mono {first second : ClosureState}
    (widen : ∀ member ∈ first.known, member ∈ second.known) {key : ObjectKey}
    (known : first.knows key = true) : second.knows key = true := by
  obtain ⟨member, inKnown, same⟩ := knows_iff.mp known
  exact knows_iff.mpr ⟨member, widen member inKnown, same⟩

namespace Expansion

variable {expansion : Expansion} {snapshot : Snapshot} {roots : List ObjectRef}
  {state after : ClosureState} {iteration : Nat}

/-! ## Rows that become known -/

/-- One state knows the key of a row that another one does not. -/
def GainsRow (snapshot : Snapshot) (before after : ClosureState) : Prop :=
  ∃ row ∈ snapshot.rows, before.knows row.key = false ∧ after.knows row.key = true

/-- The rows of which a state does not know the key. -/
def unknownRows (snapshot : Snapshot) (state : ClosureState) : List CatalogRow :=
  snapshot.rows.toList.filter fun row => !state.knows row.key

/-- A state that gains a row leaves fewer of them out. -/
theorem length_unknownRows_lt (widen : ∀ member ∈ state.known, member ∈ after.known)
    (gains : GainsRow snapshot state after) :
    (unknownRows snapshot after).length < (unknownRows snapshot state).length := by
  have narrower : unknownRows snapshot after =
      (unknownRows snapshot state).filter fun row => !after.knows row.key := by
    rw [unknownRows, unknownRows, List.filter_filter]
    refine List.filter_congr fun row _ => ?_
    cases known : state.knows row.key with
    | false => rw [Bool.not_false, Bool.and_true]
    | true => rw [ClosureState.knows_mono widen known]; rfl
  obtain ⟨row, listed, unknown, nowKnown⟩ := gains
  rw [narrower, List.length_filter_lt_length_iff_exists]
  refine ⟨row, List.mem_filter.mpr ⟨listed, by rw [unknown]; rfl⟩, ?_⟩
  rw [nowKnown]
  decide

/-- Asking for one reference takes up nothing, or the row that is found. -/
theorem gains_resolveOne (isSnapshot : expansion.catalog = snapshot.catalog)
    {entry : Reference × ObjectRef}
    (resolved : expansion.resolveOne iteration state entry = .ok after) :
    (∀ member ∈ state.known, member ∈ after.known) ∧
      (after.known = state.known ∨ GainsRow snapshot state after) := by
  rcases resolveOne_eq_ok resolved with ⟨row, found, taken⟩ | ⟨_, rfl⟩
  · refine ⟨@known_takeUp _ (state.noteFound entry.1 row.toRef) _ _ taken, ?_⟩
    cases known : state.knows row.key with
    | true =>
        have unchanged : expansion.takeUp (state.noteFound entry.1 row.toRef) row.toRef =
            .ok (state.noteFound entry.1 row.toRef) := if_pos known
        rw [Except.ok.inj (taken.symm.trans unchanged)]
        exact .inl rfl
    | false =>
        rw [isSnapshot] at found
        exact .inr ⟨row, (Reference.mem_rows_of_resolve found).1, known, knows_takeUp taken⟩
  · have same := (ClosureState.fields_noteUnresolved state entry.1 entry.2 iteration).2.1
    exact ⟨fun member known => same ▸ known, .inl same⟩

/-- **Resolving takes up nothing or makes a row known.** -/
theorem gains_resolveAll (isSnapshot : expansion.catalog = snapshot.catalog)
    {pending : List (Reference × ObjectRef)}
    (resolved : expansion.resolveAll iteration state pending = .ok after) :
    (∀ member ∈ state.known, member ∈ after.known) ∧
      (after.known = state.known ∨ GainsRow snapshot state after) := by
  refine @Outcome.foldlM_induction _ _ _ _ (fun later =>
    (∀ member ∈ state.known, member ∈ later.known) ∧
      (later.known = state.known ∨ GainsRow snapshot state later)) _ _ _
    ⟨fun _ known => known, .inl rfl⟩ ?_ resolved
  rintro before entry _ later ⟨widen, so⟩ one
  obtain ⟨further, gains⟩ := gains_resolveOne isSnapshot one
  refine ⟨fun member known => further member (widen member known), ?_⟩
  rcases so with same | ⟨row, listed, unknown, known⟩
  · rcases gains with unchanged | ⟨row, listed, unknown, known⟩
    · exact .inl (unchanged.trans same)
    · refine .inr ⟨row, listed, ?_, known⟩
      rw [← unknown, ClosureState.knows, ClosureState.knows, ClosureState.known?,
        ClosureState.known?, same]
  · exact .inr ⟨row, listed, unknown, ClosureState.knows_mono further known⟩

/-! ## The iterations -/

/-- **When nothing is taken up, nothing is pending any more.** -/
theorem pending_eq_nil_of_known_eq (scans : Scans expansion roots iteration state)
    (resolved : expansion.resolveAll iteration state.scanned.written state.pending = .ok after)
    (same : after.known = state.known) : after.written.grown.pending = [] := by
  obtain ⟨sound, settled⟩ := scans.sound
  have bare := ClosureState.bare_written_scanned state
  have extension := (resolving_resolveAll (sound.of_bare bare) (settled.of_bare bare) bare
    resolved).extension
  rw [List.eq_nil_iff_forall_not_mem]
  rintro ⟨reference, referrer⟩ isOpen
  obtain ⟨member, inKnown, _, mentioned, unanswered⟩ := ClosureState.mem_pending isOpen
  have nowAnswered : ∃ target, after.target? reference = some target := by
    cases answered : state.target? reference with
    | some target =>
        obtain ⟨later, still, _⟩ := extension.target? answered
        exact ⟨later, still⟩
    | none =>
        have wasKnown : member ∈ state.known := same ▸ inKnown
        have wasMentioned : reference ∈ state.referencesFrom member := by
          rw [ClosureState.referencesFrom, ← extension.owners]
          exact mentioned
        refine ClosureState.exists_target?_of_resolved ?_
        rw [map_resolved_resolveAll resolved]
        exact List.mem_append_right _
          (ClosureState.mem_map_pending wasKnown wasMentioned answered)
  obtain ⟨target, answered⟩ := nowAnswered
  cases answered.symm.trans unanswered

/-- An iteration that is followed by one with something pending gains a row. -/
theorem Scans.gains (isSnapshot : expansion.catalog = snapshot.catalog)
    (scans : Scans expansion roots iteration state)
    (resolved : expansion.resolveAll iteration state.scanned.written state.pending = .ok after)
    (further : after.written.grown.pending ≠ []) : GainsRow snapshot state after.written.grown := by
  obtain ⟨_, known, _⟩ := ClosureState.fields_of_bare (ClosureState.bare_written_scanned state)
  rcases (gains_resolveAll isSnapshot resolved).2 with same | ⟨row, listed, unknown, nowKnown⟩
  · exact absurd (pending_eq_nil_of_known_eq scans resolved (same.trans known)) further
  · refine ⟨row, listed, ?_, nowKnown⟩
    rwa [ClosureState.knows, ClosureState.known?, known] at unknown

/-- **The iterations are bounded**: while something is pending, there are no more
iterations and unknown rows together than rows, and this iteration. -/
theorem Scans.pending_or_bounded (isSnapshot : expansion.catalog = snapshot.catalog)
    (scans : Scans expansion roots iteration state) :
    state.pending = [] ∨
      iteration + (unknownRows snapshot state).length ≤ snapshot.rows.size + 1 := by
  induction scans with
  | first _ =>
      rw [Nat.add_comm]
      exact .inr (Nat.succ_le_succ (List.length_filter_le _ _))
  | @next iteration state after scans pending resolved ih =>
      by_cases further : after.written.grown.pending = []
      · exact .inl further
      · have gains := scans.gains isSnapshot resolved further
        have widen : ∀ member ∈ state.known, member ∈ after.written.grown.known :=
          (scans.extends (scans.next pending resolved) (Nat.le_succ _)).known.subset
        have fewer := length_unknownRows_lt widen gains
        have bounded := ih.resolve_left pending
        exact .inr (by omega)

/-! ## The growth -/

/-- Records, objects and answers are no part of the growth. -/
theorem preserved_growth (sizes : List Nat) :
    expansion.Preserved fun state => state.growth = sizes := by
  have emit : ∀ (state : ClosureState) (edge : Edge), (state.emit edge).growth = state.growth := by
    intro state edge
    rw [ClosureState.emit]
    split <;> rfl
  have emitAll : ∀ (records : List Edge) (state : ClosureState),
      (state.emitAll records).growth = state.growth := by
    intro records
    induction records with
    | nil => exact fun _ => rfl
    | cons first rest ih => exact fun state => (ih (state.emit first)).trans (emit state first)
  refine ⟨?_, ?_, fun _ _ _ same => same, ?_⟩
  · exact fun state same => (emitAll _ state).trans same
  · intro state object references same _ _
    rw [ClosureState.enter]
    split
    · exact (emit _ _).trans same
    · exact same
  · exact fun state reference referrer iteration same => (emit _ _).trans same

theorem growth_start (started : expansion.start roots = .ok state) : state.growth = [] := by
  obtain ⟨owners, _, taken⟩ := start_eq_ok started
  refine (preserved_growth []).takeUpAll ?_ taken
  have seeded : ∀ (prior : List Edge) (state : ClosureState),
      (state.seed prior).growth = state.growth := by
    intro prior
    induction prior with
    | nil => exact fun _ => rfl
    | cons first rest ih => exact fun state => ih (state.seedRecord first)
  exact seeded expansion.prior (.initial owners)

/-- An iteration adds the number of objects that are known after it. -/
theorem growth_grown (resolved : expansion.resolveAll iteration state.scanned.written
    state.pending = .ok after) :
    after.written.grown.growth = state.growth ++ [after.known.length] := by
  have preserved := @preserved_growth expansion state.growth
  have scanned : state.scanned.written.growth = state.growth := preserved.scanned state rfl
  have same : after.growth = state.growth := preserved.resolveAll scanned resolved
  exact congrArg (· ++ [after.known.length]) same

/-- What the growth says when a state is scanned. -/
structure Counted (iteration : Nat) (state : ClosureState) : Prop where
  count : state.growth.length + 1 = iteration
  ascending : state.growth.Pairwise (· ≤ ·)
  bounded : ∀ size ∈ state.growth, size ≤ state.known.length

/-- One more entry, at least as large as all before. -/
theorem Counted.append (counted : Counted iteration state) {size : Nat}
    (grows : state.known.length ≤ size) : (state.growth ++ [size]).Pairwise (· ≤ ·) := by
  refine List.pairwise_append.mpr ⟨counted.ascending, List.pairwise_singleton _ _, ?_⟩
  intro earlier member last here
  rw [List.mem_singleton.mp here]
  exact (counted.bounded earlier member).trans grows

theorem Scans.counted (scans : Scans expansion roots iteration state) :
    Counted iteration state := by
  induction scans with
  | @first state started =>
      have fresh : state.growth = [] := growth_start started
      have nothing : state.written.growth = [] := fresh
      refine ⟨by rw [nothing]; rfl, nothing ▸ List.Pairwise.nil, fun size member => ?_⟩
      exact absurd (nothing ▸ member) List.not_mem_nil
  | @next iteration state after scans pending resolved ih =>
      have grows : state.known.length ≤ after.known.length :=
        (scans.extends (scans.next pending resolved) (Nat.le_succ _)).known.length_le
      refine ⟨?_, ?_, ?_⟩
      · rw [growth_grown resolved, List.length_append, List.length_singleton]
        exact congrArg (· + 1) ih.count
      · rw [growth_grown resolved]
        exact ih.append grows
      · rw [growth_grown resolved]
        intro size member
        rcases List.mem_append.mp member with old | new
        · exact (ih.bounded size old).trans grows
        · exact (List.mem_singleton.mp new).le

/-- The last entry of the growth is the number of objects that are known. -/
theorem Scans.growth_getElem? (scans : Scans expansion roots (iteration + 1) state)
    (pos : 1 ≤ iteration) : state.growth[iteration - 1]? = some state.known.length := by
  cases scans with
  | first _ => exact absurd pos (Nat.not_succ_le_zero 0)
  | @next _ before after scans _ resolved =>
      have place : iteration - 1 = before.growth.length := by
        rw [← scans.counted.count, Nat.add_sub_cancel]
      rw [growth_grown resolved, place, List.getElem?_concat_length]
      rfl

theorem Scans.growth_prefix {earlier later : Nat} {before after : ClosureState}
    (scans : Scans expansion roots earlier before) (alsoScans : Scans expansion roots later after)
    (order : earlier ≤ later) : before.growth <+: after.growth := by
  induction alsoScans with
  | first started =>
      obtain rfl : earlier = 1 := Nat.le_antisymm order scans.pos
      obtain rfl := scans.unique (.first started)
      exact List.prefix_refl _
  | next further pending resolved ih =>
      rcases Nat.le_or_eq_of_le_succ order with earlierStill | rfl
      · rw [growth_grown resolved]
        exact (ih earlierStill).trans (List.prefix_append _ _)
      · obtain rfl := scans.unique (further.next pending resolved)
        exact List.prefix_refl _

/-- The growth of a closure is that of the last state with one more entry. -/
theorem Finishes.growth_eq {last : Nat} {final : ClosureState} {closure : Closure}
    (finishes : Finishes expansion roots last final closure) :
    closure.growth = final.growth ++ [final.known.length] := by
  have same : final.scanned.growth = final.growth :=
    (@preserved_growth expansion final.growth).scanned final rfl
  have known : final.scanned.known = final.known :=
    (ClosureState.fields_of_bare (ClosureState.bare_scanned final)).2.1
  rw [finishes.closure_eq, ← same, ← known]
  rfl

theorem Finishes.length_objects {last : Nat} {final : ClosureState} {closure : Closure}
    (finishes : Finishes expansion roots last final closure) :
    closure.objects.length = final.known.length := by
  rw [finishes.objects_eq, List.length_map, ClosureState.sortedKnown, Sorting.length_sortOn]

/-- The growth of a closure tells how many objects each scanned state knows. -/
theorem Finishes.growth_getElem? {last : Nat} {final : ClosureState} {closure : Closure}
    (finishes : Finishes expansion roots last final closure)
    (scans : Scans expansion roots (iteration + 1) state) (pos : 1 ≤ iteration) :
    closure.growth[iteration - 1]? = some state.known.length := by
  have entry := scans.growth_getElem? pos
  obtain ⟨rest, whole⟩ := (scans.growth_prefix finishes.scans (finishes.last scans)).trans
    (List.prefix_append final.growth [final.known.length])
  rw [finishes.growth_eq, ← whole,
    List.getElem?_append_left (List.getElem?_eq_some_iff.mp entry).1, entry]

/-! ## Runs -/

variable {Log : Type} {sink : EdgeSink Log} {log before : Log} {asked : List Reference}

/-- Nothing stops an expansion before it has converged but the limit. -/
structure Undisturbed (expansion : Expansion) (sink : EdgeSink Log) : Prop where
  answers : ∀ failure, ¬ expansion.FailsWith failure
  unfailing : sink.Unfailing
  uncancelled : ∀ check, expansion.isCancelled check = false
  tolerant : 1 ≤ expansion.config.effectiveMaxUnresolvedRepeats

theorem exists_backfillSink (unfailing : sink.Unfailing) (log : Log)
    (repairs : List (String × String)) :
    ∃ after, backfillSink sink log repairs = (.ok (), after) := by
  rcases backfillSink_cases sink log repairs with done | ⟨repair, _, left, _, refused, _⟩
  · exact done
  · obtain ⟨after, accepted⟩ := unfailing.backfill left repair.1 repair.2
    cases refused.symm.trans accepted

namespace Undisturbed

/-- **An undisturbed iteration** ends the run when nothing is pending, and else leads
on. -/
theorem turn (undisturbed : expansion.Undisturbed sink)
    (begins : Begins expansion sink roots log iteration state asked before) :
    (state.pending = [] → ∃ after, expansion.turn sink iteration state asked before =
      .converged (state.scanned.written.grown.closure iteration) after) ∧
    (state.pending ≠ [] → ∃ further more after,
      expansion.turn sink iteration state asked before = .onward further more after) := by
  have appends := undisturbed.unfailing.append
  have turned := turnsInto_turn expansion sink iteration state asked before
  generalize expansion.turn sink iteration state asked before = result at turned ⊢
  cases turned with
  | cancelled isCancelled =>
      exact absurd ((undisturbed.uncancelled _).symm.trans isCancelled) (by decide)
  | refused _ failed =>
      obtain ⟨accepted, appended⟩ := appends before state.scanned.batch
      cases failed.symm.trans appended
  | unrepaired _ _ failed =>
      obtain ⟨after, repaired⟩ := exists_backfillSink undisturbed.unfailing _ _
      cases failed.symm.trans repaired
  | converged _ nothing _ => exact ⟨fun _ => ⟨_, rfl⟩, fun pending => absurd nothing pending⟩
  | stalled _ _ tooOften =>
      rw [begins.asked_eq, stalled_eq,
        if_neg (Nat.one_le_iff_ne_zero.mp undisturbed.tolerant)] at tooOften
      exact absurd rfl tooOften
  | unresolved _ _ failed => exact absurd (resolveAll_eq_error failed) (undisturbed.answers _)
  | unwritten _ _ _ failed =>
      obtain ⟨after, written⟩ := appends _ _
      cases failed.symm.trans written
  | onward _ _ pending _ _ _ =>
      exact ⟨fun nothing => absurd nothing pending, fun _ => ⟨_, _, _, rfl⟩⟩

/-- An undisturbed run of a snapshot goes on to an iteration with nothing pending. -/
theorem iterate (undisturbed : expansion.Undisturbed sink)
    (isSnapshot : expansion.catalog = snapshot.catalog)
    (enough : snapshot.rows.size + 2 ≤ expansion.config.effectiveMaxIterations) {left : Nat}
    (begins : Begins expansion sink roots log iteration state asked before)
    (total : left + iteration = expansion.config.effectiveMaxIterations + 1)
    (early : iteration ≤ snapshot.rows.size + 2) :
    ∃ last final more content after, last ≤ snapshot.rows.size + 2 ∧
      Begins expansion sink roots log last final more content ∧ final.pending = [] ∧
      expansion.iterate sink left iteration state asked before =
        (.ok (final.scanned.written.grown.closure last), after) := by
  induction left generalizing iteration state asked before with
  | zero => omega
  | succ left ih =>
      obtain ⟨ends, leads⟩ := undisturbed.turn begins
      by_cases pending : state.pending = []
      · obtain ⟨after, turned⟩ := ends pending
        refine ⟨iteration, state, asked, before, after, early, begins, pending, ?_⟩
        rw [Expansion.iterate, turned]
      · obtain ⟨further, more, content, turned⟩ := leads pending
        have bounded := (begins.scans.pending_or_bounded isSnapshot).resolve_left pending
        have next := begins.next (by omega) turned
        obtain ⟨last, final, _, _, after, inTime, lastBegins, nothing, rest⟩ :=
          ih next (by omega) (by omega)
        refine ⟨last, final, _, _, after, inTime, lastBegins, nothing, ?_⟩
        rw [Expansion.iterate, turned]
        exact rest

end Undisturbed

/-- An iteration that is not one of the last two takes up an object that was not
known. -/
theorem Begins.takes_up (isSnapshot : expansion.catalog = snapshot.catalog)
    (begins : Begins expansion sink roots log (iteration + 2) state asked before)
    (pos : 1 ≤ iteration) :
    ∃ earlier later, Visits expansion sink roots log iteration earlier ∧
      Visits expansion sink roots log (iteration + 1) later ∧
      ∃ member ∈ later.known, earlier.knows member.object.key = false := by
  obtain ⟨earlier, visits⟩ := begins.visits pos (by omega)
  obtain ⟨later, alsoVisits⟩ := begins.visits (Nat.le_add_left 1 iteration) (Nat.lt_succ_self _)
  refine ⟨earlier, later, visits, alsoVisits, ?_⟩
  obtain ⟨_, _, laterBegins, _⟩ := alsoVisits
  obtain ⟨_, _, _, _, goesOn⟩ := begins.inv_succ laterBegins.scans
  have pending := (turn_spec.2 _ _ _ goesOn).1
  obtain ⟨_, _, earlierBegins, _⟩ := visits
  obtain ⟨_, _, _, _, cameFrom⟩ := laterBegins.inv_succ earlierBegins.scans
  obtain ⟨_, resolved, isResolved, rfl⟩ := turn_spec.2 _ _ _ cameFrom
  obtain ⟨row, _, unknown, known⟩ := earlierBegins.scans.gains isSnapshot isResolved pending
  obtain ⟨member, inKnown, same⟩ := ClosureState.knows_iff.mp known
  exact ⟨member, inKnown, same ▸ unknown⟩

/-- **Every expansion of a snapshot converges**, whatever the sources, the roots and
the records of an earlier run are, if nothing fails, the run is not cancelled, one
pending time is tolerated and two more iterations are allowed than the snapshot has
rows.  It takes at most that many iterations.  The growth has one entry per
iteration, the number of objects known after it; it never decreases and ends with
the number of objects of the closure; and every iteration before the last two takes
up an object that was not known. -/
theorem converges (isSnapshot : expansion.catalog = snapshot.catalog)
    (fetches : ∀ object, ∃ source, expansion.sources.fetch object = .ok source)
    (unfailing : sink.Unfailing) (uncancelled : ∀ check, expansion.isCancelled check = false)
    (tolerant : 1 ≤ expansion.config.effectiveMaxUnresolvedRepeats)
    (enough : snapshot.rows.size + 2 ≤ expansion.config.effectiveMaxIterations) :
    ∃ closure after, expansion.run sink roots log = (.ok closure, after) ∧
      closure.iterations ≤ snapshot.rows.size + 2 ∧
      closure.growth.length = closure.iterations ∧
      closure.growth.Pairwise (· ≤ ·) ∧
      closure.growth.getLast? = some closure.objects.length ∧
      (∀ iteration state, 1 ≤ iteration →
        Visits expansion sink roots log (iteration + 1) state →
        closure.growth[iteration - 1]? = some state.known.length) ∧
      ∀ iteration, 1 ≤ iteration → iteration + 2 ≤ closure.iterations →
        ∃ earlier later, Visits expansion sink roots log iteration earlier ∧
          Visits expansion sink roots log (iteration + 1) later ∧
          ∃ member ∈ later.known, earlier.knows member.object.key = false := by
  have undisturbed : expansion.Undisturbed sink :=
    ⟨fun _ => not_failsWith isSnapshot fetches, unfailing, uncancelled, tolerant⟩
  obtain ⟨first, started⟩ : ∃ first, expansion.start roots = .ok first := by
    cases started : expansion.start roots with
    | error failure => exact absurd (start_eq_error started) (undisturbed.answers failure)
    | ok first => exact ⟨first, rfl⟩
  obtain ⟨content, accepted⟩ := unfailing.append log first.batch
  have begins : Begins expansion sink roots log 1 first.written [] content :=
    .first started accepted
  obtain ⟨last, final, _, _, after, inTime, lastBegins, nothing, done⟩ :=
    undisturbed.iterate isSnapshot enough begins rfl (Nat.le_add_left 1 _)
  have finishes : Finishes expansion roots last final _ := ⟨lastBegins.scans, nothing, rfl⟩
  have counted := lastBegins.scans.counted
  refine ⟨_, after, (begins.run_eq rfl).trans done, inTime, ?_, ?_, ?_, ?_, ?_⟩
  · rw [finishes.growth_eq, List.length_append, List.length_singleton]
    exact counted.count
  · rw [finishes.growth_eq]
    exact counted.append (Nat.le_refl _)
  · rw [finishes.growth_eq, finishes.length_objects, List.getLast?_concat]
  · rintro iteration state pos ⟨_, _, visited, _⟩
    exact finishes.growth_getElem? visited.scans pos
  · intro iteration pos early
    obtain ⟨_, _, _, further⟩ := lastBegins.earlier (Nat.le_add_left 1 _) early
    exact further.takes_up isSnapshot pos

/-- The rows of three procedures. -/
def chainedSnapshot : Snapshot :=
  Snapshot.ofRows [.new "A" .procedure "" "ENTRY", .new "A" .procedure "" "HELP",
    .new "A" .procedure "" "DEEP"]

/-- The expansion of a procedure that calls one that calls one without source. -/
def chainedExpansion : Expansion where
  catalog := chainedSnapshot.catalog
  sources := (SourceShelf.ofEntries [.new "A" "" "ENTRY" "HELP(1);",
    .new "A" "" "HELP" "DEEP(1);"]).store
  config := {}

/-- The calling procedure. -/
def chainedRoot : ObjectRef := ObjectRef.new (some "A") (.rootLevel .procedure "ENTRY")

theorem growth_chainedExpansion :
    (chainedExpansion.run EdgeList.sink [chainedRoot] []).1.toOption.map (·.growth) =
      some [2, 3, 3] := by
  with_unfolding_all rfl

/-- The run converges in three iterations, of which the first one takes up an
object. -/
theorem converges_chainedExpansion :
    ∃ closure after, chainedExpansion.run EdgeList.sink [chainedRoot] [] = (.ok closure, after) ∧
      closure.growth = [2, 3, 3] ∧ closure.iterations = 3 ∧
      closure.growth.getLast? = some closure.objects.length ∧
      ∃ earlier later, Visits chainedExpansion EdgeList.sink [chainedRoot] [] 1 earlier ∧
        Visits chainedExpansion EdgeList.sink [chainedRoot] [] 2 later ∧
        ∃ member ∈ later.known, earlier.knows member.object.key = false := by
  have unfailing : EdgeList.sink.Unfailing := ⟨fun _ _ => ⟨_, rfl⟩, fun _ _ _ => ⟨_, rfl⟩⟩
  have enough : chainedSnapshot.rows.size + 2 ≤ chainedExpansion.config.effectiveMaxIterations := by
    with_unfolding_all decide
  obtain ⟨closure, after, done, _, perIteration, _, ending, _, takesUp⟩ :=
    @converges chainedExpansion chainedSnapshot [chainedRoot] _ EdgeList.sink [] rfl
      (fun _ => ⟨_, rfl⟩) unfailing (fun _ => rfl) (by decide) enough
  have growth : closure.growth = [2, 3, 3] := by
    have reading := growth_chainedExpansion
    rw [done] at reading
    exact Option.some.inj reading
  have iterations : closure.iterations = 3 := by
    rw [← perIteration, growth]
    rfl
  exact ⟨closure, after, done, growth, iterations, ending,
    takesUp 1 (Nat.le_refl 1) (by rw [iterations])⟩

end Expansion

end SchemaPlan
