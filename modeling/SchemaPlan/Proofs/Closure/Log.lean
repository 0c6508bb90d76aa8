import SchemaPlan.Proofs.Closure.Preservation

/-!
# The log of a run

A run writes its records to a sink batch by batch.  When the sink is a list that
holds the records of the earlier run, the list and the records that have not
been written yet are always the records of the state, in order and each once
(`Synced`).  So whenever a run stops, and for whatever reason, the sink holds
the records of the last state that was scanned, before the scan or after it; and
when a run succeeds it holds the records of the closure.
-/

set_option autoImplicit false

namespace SchemaPlan

namespace Expansion

variable {expansion : Expansion} {roots : List ObjectRef}

/-- What has been written and what has not are the records of the state. -/
structure Synced (log : List Edge) (state : ClosureState) : Prop where
  edges : state.edges = log ++ state.batch
  distinct : state.edges.Nodup

namespace Synced

variable {log : List Edge} {state after : ClosureState}

theorem of_eq (synced : Synced log state) (edges : after.edges = state.edges)
    (batch : after.batch = state.batch) : Synced log after := by
  refine ⟨?_, edges ▸ synced.distinct⟩
  rw [edges, batch]
  exact synced.edges

theorem emit (synced : Synced log state) (edge : Edge) : Synced log (state.emit edge) := by
  rw [ClosureState.emit]
  split
  · exact synced
  · next new =>
    refine ⟨?_, ?_⟩
    · dsimp only
      rw [synced.edges, List.append_assoc]
    · refine List.nodup_append.mpr ⟨synced.distinct, List.nodup_singleton _, ?_⟩
      intro old member other here same
      rw [List.mem_singleton] at here
      exact new (here ▸ same ▸ member)

theorem emitAll (synced : Synced log state) (records : List Edge) :
    Synced log (state.emitAll records) := by
  induction records generalizing state with
  | nil => exact synced
  | cons first rest ih => exact ih (synced.emit first)

/-- A missing key is added together with its record. -/
theorem emit_missing (synced : Synced log state) (object : ObjectRef) :
    Synced log ({ state with missing := state.missing.insert object.key }.emit
      (Edge.missing object)) := by
  have noted : Synced log { state with missing := state.missing.insert object.key } :=
    synced.of_eq rfl rfl
  exact noted.emit (Edge.missing object)

theorem preserved (expansion : Expansion) (log : List Edge) :
    expansion.Preserved (Synced log) where
  scanned _ synced := synced.emitAll _
  enter state object references synced _ _ := by
    rw [ClosureState.enter]
    split
    · exact (synced.emit_missing object).of_eq rfl rfl
    · exact synced.of_eq rfl rfl
  noteFound _ _ _ synced := synced.of_eq rfl rfl
  noteUnresolved _ reference _ _ synced :=
    (synced.emit_missing reference.placeholder).of_eq rfl rfl

/-- Writing the batch brings the log up to the state. -/
theorem append (synced : Synced log state) :
    EdgeList.sink.append log state.batch = .ok state.edges := by
  have distinct := synced.distinct
  rw [synced.edges] at distinct
  rw [synced.edges]
  exact congrArg Except.ok (EdgeList.append_eq distinct)

theorem written (synced : Synced log state) : Synced state.edges state.written :=
  ⟨(List.append_nil state.edges).symm, synced.distinct⟩

/-- At the start the log holds the records of the earlier run, each once. -/
theorem seed (owners : List String) (prior : List Edge) :
    Synced (EdgeList.append [] prior) ((ClosureState.initial owners).seed prior) := by
  have seeded : ∀ state : ClosureState, (state.seed prior).edges =
      EdgeList.append state.edges prior ∧ (state.seed prior).batch = state.batch := by
    induction prior with
    | nil => exact fun _ => ⟨rfl, rfl⟩
    | cons first rest ih => exact fun state => ih (state.seedRecord first)
  obtain ⟨edges, batch⟩ := seeded (.initial owners)
  refine ⟨?_, ?_⟩
  · rw [edges, batch]
    exact (List.append_nil _).symm
  · rw [edges]
    exact EdgeList.nodup_append List.nodup_nil prior

theorem written_batch (synced : Synced log state) :
    Synced (log ++ state.batch) state.written :=
  synced.edges ▸ synced.written

end Synced

/-- The records of a scanned state begin with those of the earlier run, and each is
there once. -/
theorem Scans.synced {iteration : Nat} {state : ClosureState}
    (scans : Scans expansion roots iteration state) :
    ∃ later, Synced (EdgeList.append [] expansion.prior ++ later) state := by
  have preserved := Synced.preserved expansion
  have kept : expansion.Preserved fun state =>
      ∃ later, Synced (EdgeList.append [] expansion.prior ++ later) state := {
    scanned := fun state ⟨later, synced⟩ => ⟨later, (preserved _).scanned state synced⟩
    enter := fun state object references ⟨later, synced⟩ new read =>
      ⟨later, (preserved _).enter state object references synced new read⟩
    noteFound := fun state reference row ⟨later, synced⟩ =>
      ⟨later, (preserved _).noteFound state reference row synced⟩
    noteUnresolved := fun state reference referrer iteration ⟨later, synced⟩ =>
      ⟨later, (preserved _).noteUnresolved state reference referrer iteration synced⟩ }
  refine kept.scans (fun owners => ⟨[], ?_⟩) (fun state => ?_) (fun state => ?_) scans
  · rw [List.append_nil]
    exact Synced.seed owners expansion.prior
  · rintro ⟨later, synced⟩
    exact ⟨later ++ state.batch, List.append_assoc .. ▸ synced.written_batch⟩
  · rintro ⟨later, synced⟩
    exact ⟨later, synced.of_eq rfl rfl⟩

/-- A closure holds each record once. -/
theorem Finishes.nodup_edges {last : Nat} {final : ClosureState} {closure : Closure}
    (finishes : Finishes expansion roots last final closure) : closure.edges.Nodup := by
  obtain ⟨_, synced⟩ := finishes.scans.synced
  rw [finishes.closure_eq]
  exact EdgeList.nodup_backfillAll ((Synced.preserved expansion _).scanned final synced).distinct

/-! ## One iteration -/

variable {iteration : Nat} {state : ClosureState} {asked : List Reference}

theorem backfillSink_list (log : List Edge) (repairs : List (String × String)) :
    backfillSink EdgeList.sink log repairs = (.ok (), repairs.foldl
      (fun edges repair => EdgeList.backfill edges repair.1 repair.2) log) := by
  induction repairs generalizing log with
  | nil => rfl
  | cons repair rest ih => exact ih (EdgeList.backfill log repair.1 repair.2)

theorem failed_resolvePending {pending : List (Reference × ObjectRef)}
    {failure : ClosureError} {log after : List Edge}
    (stopped : expansion.resolvePending EdgeList.sink iteration state asked pending log =
      .failed failure after) : after = log := by
  rw [resolvePending] at stopped
  split at stopped
  · exact (Turn.failed.inj stopped).2.symm
  · split at stopped
    · exact (Turn.failed.inj stopped).2.symm
    · split at stopped
      · exact (Turn.failed.inj stopped).2.symm
      · cases stopped

/-- **What an iteration leaves in the sink**: it stops before or after the scan, or
it goes on with everything written, or it ends with the records of the closure. -/
theorem log_of_turn (synced : Synced state.edges state) :
    (∀ failure after, expansion.turn EdgeList.sink iteration state asked state.edges =
        .failed failure after → after = state.edges ∨ after = state.scanned.edges) ∧
    (∀ closure after, expansion.turn EdgeList.sink iteration state asked state.edges =
        .converged closure after → after = closure.edges) ∧
    ∀ next more after, expansion.turn EdgeList.sink iteration state asked state.edges =
        .onward next more after → after = next.edges ∧ Synced next.edges next := by
  have preserved := Synced.preserved expansion
  have scanned := (preserved state.edges).scanned state synced
  rw [turn]
  dsimp only
  rw [scanned.append]
  split
  · refine ⟨?_, ?_, ?_⟩
    · intro failure after stopped
      exact .inl (Turn.failed.inj stopped).2.symm
    · intro closure after done
      cases done
    · intro next more after goesOn
      cases goesOn
  · dsimp only
    split
    · rw [finish, backfillSink_list]
      refine ⟨?_, ?_, ?_⟩
      · intro failure after stopped
        cases stopped
      · intro closure after done
        obtain ⟨rfl, rfl⟩ := Turn.converged.inj done
        rfl
      · intro next more after goesOn
        cases goesOn
    · refine ⟨?_, ?_, ?_⟩
      · intro failure after stopped
        exact .inr (failed_resolvePending stopped)
      · intro closure after done
        exact absurd done resolvePending_ne_converged
      · intro next more after goesOn
        rw [resolvePending] at goesOn
        split at goesOn
        · cases goesOn
        · split at goesOn
          · cases goesOn
          · next resolved isResolved =>
            have synced := (preserved state.scanned.edges).resolveAll scanned.written isResolved
            rw [synced.append] at goesOn
            obtain ⟨rfl, _, rfl⟩ := Turn.onward.inj goesOn
            exact ⟨rfl, synced.written.of_eq rfl rfl⟩

/-! ## Whole runs -/

theorem log_of_iterate {left : Nat} {outcome : Except ClosureError Closure} {after : List Edge}
    (scans : Scans expansion roots iteration state) (synced : Synced state.edges state)
    (done : expansion.iterate EdgeList.sink left iteration state asked state.edges =
      (outcome, after)) :
    (∀ closure, outcome = .ok closure → after = closure.edges) ∧
    ∀ failure, outcome = .error failure → ∃ last final, Scans expansion roots last final ∧
      (after = final.edges ∨ after = final.scanned.edges) := by
  induction left generalizing iteration state asked with
  | zero =>
      obtain ⟨rfl, rfl⟩ := Prod.mk.inj done
      refine ⟨?_, ?_⟩
      · intro closure isOk
        cases isOk
      · intro failure _
        exact ⟨iteration, state, scans, .inl rfl⟩
  | succ left ih =>
      obtain ⟨stops, ends, goesOn⟩ := @log_of_turn expansion iteration state asked synced
      rw [iterate] at done
      split at done
      · next failure log turned =>
        obtain ⟨rfl, rfl⟩ := Prod.mk.inj done
        refine ⟨?_, ?_⟩
        · intro closure isOk
          cases isOk
        · intro other _
          exact ⟨iteration, state, scans, stops failure log turned⟩
      · next closure log turned =>
        obtain ⟨rfl, rfl⟩ := Prod.mk.inj done
        refine ⟨?_, ?_⟩
        · intro other isOk
          rw [← Except.ok.inj isOk]
          exact ends closure log turned
        · intro failure isError
          cases isError
      · next next more log turned =>
        obtain ⟨rfl, nextSynced⟩ := goesOn next more log turned
        obtain ⟨pending, resolved, isResolved, rfl⟩ := turn_spec.2 _ _ _ turned
        exact ih (scans.next pending isResolved) nextSynced done

/-- **What a run leaves in the sink.**  The sink begins with the records of the
earlier run.  A run that succeeds leaves the records of the closure.  A run that
stops once it has started leaves the records of a scanned state, before the scan
or after it. -/
theorem log_of_run {first : ClosureState} (started : expansion.start roots = .ok first)
    {outcome : Except ClosureError Closure} {after : List Edge}
    (done : expansion.run EdgeList.sink roots (EdgeList.append [] expansion.prior) =
      (outcome, after)) :
    (∀ closure, outcome = .ok closure → after = closure.edges) ∧
    ∀ failure, outcome = .error failure → ∃ last final, Scans expansion roots last final ∧
      (after = final.edges ∨ after = final.scanned.edges) := by
  obtain ⟨owners, _, taken⟩ := start_eq_ok started
  have synced := (Synced.preserved expansion _).takeUpAll
    (Synced.seed owners expansion.prior) taken
  rw [run, started] at done
  dsimp only at done
  rw [synced.append] at done
  exact log_of_iterate (.first started) synced.written done

end Expansion

end SchemaPlan
