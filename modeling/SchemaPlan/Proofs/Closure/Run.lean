import SchemaPlan.Proofs.Closure.Admission
import SchemaPlan.Proofs.Edge.Sink

/-!
# The run of an expansion

A run that succeeds scans one state in each iteration (`Scans`), the last of
them with nothing pending (`Finishes`).  Every scanned state is sound and
settled, and a later one extends an earlier one.  The confirmed records of the
closure are those of an earlier run and those read off the scanned states, up to
the owners that are filled in at the end.
-/

set_option autoImplicit false

namespace SchemaPlan.Expansion

open ClosureState (SameRecords Extends)

variable {expansion : Expansion} {roots : List ObjectRef}

/-- The state that a run scans in an iteration. -/
inductive Scans (expansion : Expansion) (roots : List ObjectRef) : Nat → ClosureState → Prop
  | first {state : ClosureState} (started : expansion.start roots = .ok state) :
      Scans expansion roots 1 state.written
  | next {iteration : Nat} {state after : ClosureState}
      (scans : Scans expansion roots iteration state) (pending : state.pending ≠ [])
      (resolved : expansion.resolveAll iteration state.scanned.written state.pending = .ok after) :
      Scans expansion roots (iteration + 1) after.written.grown

/-- A run ends with a closure in an iteration that scans a state with nothing
pending. -/
structure Finishes (expansion : Expansion) (roots : List ObjectRef) (iteration : Nat)
    (state : ClosureState) (closure : Closure) : Prop where
  scans : Scans expansion roots iteration state
  nothing : state.pending = []
  closure_eq : closure = state.scanned.written.grown.closure iteration

/-! ## Runs that succeed -/

variable {Log : Type} {sink : EdgeSink Log}

theorem converged_finish {iteration : Nat} {state : ClosureState} {closure : Closure}
    {log after : Log} (done : finish sink iteration state log = .converged closure after) :
    closure = state.closure iteration := by
  rw [finish] at done
  split at done
  · exact (Turn.converged.inj done).1.symm
  · cases done

theorem onward_resolvePending {iteration : Nat} {state next : ClosureState}
    {asked more : List Reference} {pending : List (Reference × ObjectRef)} {log after : Log}
    (goesOn : expansion.resolvePending sink iteration state asked pending log =
      .onward next more after) :
    ∃ resolved, expansion.resolveAll iteration state pending = .ok resolved ∧
      next = resolved.written.grown := by
  rw [resolvePending] at goesOn
  split at goesOn
  · cases goesOn
  · split at goesOn
    · cases goesOn
    · next resolved isResolved =>
      split at goesOn
      · cases goesOn
      · exact ⟨resolved, isResolved, (Turn.onward.inj goesOn).1.symm⟩

theorem resolvePending_ne_converged {iteration : Nat} {state : ClosureState}
    {asked : List Reference} {pending : List (Reference × ObjectRef)} {log after : Log}
    {closure : Closure} :
    expansion.resolvePending sink iteration state asked pending log ≠
      .converged closure after := by
  intro done
  rw [resolvePending] at done
  split at done
  · cases done
  · split at done
    · cases done
    · split at done <;> cases done

/-- An iteration ends the run when nothing is pending, and else leads on to the
state in which the pending references are resolved. -/
theorem turn_spec {iteration : Nat} {state : ClosureState} {asked : List Reference} {log : Log} :
    (∀ closure after, expansion.turn sink iteration state asked log = .converged closure after →
      state.pending = [] ∧ closure = state.scanned.written.grown.closure iteration) ∧
    ∀ next more after, expansion.turn sink iteration state asked log = .onward next more after →
      state.pending ≠ [] ∧ ∃ resolved,
        expansion.resolveAll iteration state.scanned.written state.pending = .ok resolved ∧
        next = resolved.written.grown := by
  rw [turn]
  dsimp only
  split
  · exact ⟨fun _ _ done => (nomatch done), fun _ _ _ goesOn => (nomatch goesOn)⟩
  · split
    · exact ⟨fun _ _ done => (nomatch done), fun _ _ _ goesOn => (nomatch goesOn)⟩
    · split
      · next nothing =>
        refine ⟨fun _ _ done => ⟨List.isEmpty_iff.mp nothing, converged_finish done⟩, ?_⟩
        intro next more after goesOn
        rw [finish] at goesOn
        split at goesOn <;> cases goesOn
      · next something =>
        refine ⟨fun _ _ done => absurd done resolvePending_ne_converged, fun _ _ _ goesOn => ?_⟩
        refine ⟨fun empty => something (List.isEmpty_iff.mpr empty), ?_⟩
        exact onward_resolvePending goesOn

theorem finishes_of_iterate {left iteration : Nat} {state : ClosureState}
    {asked : List Reference} {log after : Log} {closure : Closure}
    (scans : Scans expansion roots iteration state)
    (done : expansion.iterate sink left iteration state asked log = (.ok closure, after)) :
    ∃ last final, Finishes expansion roots last final closure := by
  induction left generalizing iteration state asked log with
  | zero => cases done
  | succ left ih =>
      rw [iterate] at done
      split at done
      · cases done
      · next ended _ turned =>
        obtain ⟨nothing, same⟩ := turn_spec.1 _ _ turned
        obtain rfl : ended = closure := Except.ok.inj (Prod.mk.inj done).1
        exact ⟨iteration, state, scans, nothing, same⟩
      · next turned =>
        obtain ⟨pending, resolved, isResolved, rfl⟩ := turn_spec.2 _ _ _ turned
        exact ih (scans.next pending isResolved) done

/-- **A run that succeeds finishes** in some iteration. -/
theorem finishes_of_run {log after : Log} {closure : Closure}
    (done : expansion.run sink roots log = (.ok closure, after)) :
    ∃ last final, Finishes expansion roots last final closure := by
  rw [run] at done
  split at done
  · cases done
  · next started =>
    split at done
    · cases done
    · exact finishes_of_iterate (.first started) done

/-! ## The scanned states -/

theorem start_eq_ok {state : ClosureState} (started : expansion.start roots = .ok state) :
    ∃ owners, expansion.catalog.owners = .ok owners ∧
      (expansion.priorObjects ++ roots).foldlM expansion.takeUp
        ((ClosureState.initial owners).seed expansion.prior) = .ok state := by
  obtain ⟨owners, known, taken⟩ := Outcome.bind_eq_ok.mp started
  exact ⟨owners, Outcome.mapError_eq_ok.mp known, taken⟩

/-- Without records of an earlier run a run begins with the roots alone. -/
theorem start_eq_ok_of_fresh (fresh : expansion.prior = []) {state : ClosureState}
    (started : expansion.start roots = .ok state) :
    ∃ owners, roots.foldlM expansion.takeUp (ClosureState.initial owners) = .ok state := by
  obtain ⟨owners, _, taken⟩ := start_eq_ok started
  have nothing : expansion.priorObjects = [] := by rw [priorObjects, fresh]; rfl
  rw [nothing, fresh, List.nil_append] at taken
  exact ⟨owners, taken⟩

/-- The state made from the records of an earlier run is sound and settled. -/
theorem sound_seed {owners : List String} (known : expansion.catalog.owners = .ok owners) :
    Sound expansion ((ClosureState.initial owners).seed expansion.prior) ∧
      Settled ((ClosureState.initial owners).seed expansion.prior) := by
  obtain ⟨_, _, missing⟩ := ClosureState.seed_spec (.initial owners) expansion.prior
  obtain ⟨sameOwners, nothingKnown, nothingResolved⟩ :=
    ClosureState.fields_seed_initial owners expansion.prior
  refine ⟨⟨known.trans (congrArg Except.ok sameOwners.symm), ?_, ?_, ?_, ?_, ?_⟩, ?_, ?_⟩
  · rw [nothingKnown]
    exact List.nodup_nil
  · exact fun member inKnown => absurd (nothingKnown ▸ inKnown) List.not_mem_nil
  · exact fun entry noted => absurd (nothingResolved ▸ noted) List.not_mem_nil
  · exact fun reference noted => absurd (nothingResolved ▸ noted) List.not_mem_nil
  · intro key isMissing
    exact .inl (((missing key).mp isMissing).resolve_left OrderedSet.not_mem_empty)
  · exact fun member inKnown => absurd (nothingKnown ▸ inKnown) List.not_mem_nil
  · exact fun reference object noted => absurd (nothingResolved ▸ noted) List.not_mem_nil

/-- **Every scanned state is sound and settled.** -/
theorem Scans.sound {iteration : Nat} {state : ClosureState}
    (scans : Scans expansion roots iteration state) : Sound expansion state ∧ Settled state := by
  induction scans with
  | first started =>
      obtain ⟨owners, known, taken⟩ := start_eq_ok started
      obtain ⟨sound, settled⟩ := @Outcome.foldlM_induction _ _ _ _
        (fun state => Sound expansion state ∧ Settled state) _ _ _ (sound_seed known)
        (fun _ _ _ _ both one => ⟨both.1.takeUp one, both.2.takeUp one⟩) taken
      exact ⟨sound.of_bare rfl, settled.of_bare rfl⟩
  | next _ _ resolved ih =>
      have same := ClosureState.bare_written_scanned
      obtain ⟨sound, settled, _⟩ := resolving_resolveAll (ih.1.of_bare (same _))
        (ih.2.of_bare (same _)) (same _) resolved
      exact ⟨sound.of_bare rfl, settled.of_bare rfl⟩

theorem Scans.pos {iteration : Nat} {state : ClosureState}
    (scans : Scans expansion roots iteration state) : 0 < iteration := by
  cases scans with
  | first _ => exact Nat.one_pos
  | next _ _ _ => exact Nat.succ_pos _

/-- An iteration scans one state. -/
theorem Scans.unique {iteration : Nat} {state other : ClosureState}
    (scans : Scans expansion roots iteration state)
    (alsoScans : Scans expansion roots iteration other) : state = other := by
  induction scans generalizing other with
  | first started =>
      cases alsoScans with
      | first again => rw [Except.ok.inj (started.symm.trans again)]
      | next before _ _ => exact absurd before.pos (Nat.lt_irrefl 0)
  | next scans _ resolved ih =>
      cases alsoScans with
      | first _ => exact absurd scans.pos (Nat.lt_irrefl 0)
      | next before _ again =>
          obtain rfl := ih before
          rw [Except.ok.inj (resolved.symm.trans again)]

/-- **A later scanned state extends an earlier one.** -/
theorem Scans.extends {earlier later : Nat} {before after : ClosureState}
    (scans : Scans expansion roots earlier before) (alsoScans : Scans expansion roots later after)
    (order : earlier ≤ later) : Extends before after := by
  induction alsoScans with
  | first started =>
      obtain rfl : earlier = 1 := Nat.le_antisymm order scans.pos
      rw [scans.unique (.first started)]
      exact Extends.of_bare rfl
  | @next iteration state resolved further pending isResolved ih =>
      rcases Nat.le_or_eq_of_le_succ order with earlierStill | rfl
      · obtain ⟨sound, settled⟩ := further.sound
        have same := ClosureState.bare_written_scanned
        obtain ⟨_, _, extension⟩ := resolving_resolveAll (sound.of_bare (same _))
          (settled.of_bare (same _)) (same _) isResolved
        exact (ih earlierStill).trans (extension.trans (Extends.of_bare rfl))
      · rw [scans.unique (further.next pending isResolved)]
        exact Extends.of_bare rfl

/-- No state is scanned after one with nothing pending. -/
theorem Finishes.last {last iteration : Nat} {final state : ClosureState} {closure : Closure}
    (finishes : Finishes expansion roots last final closure)
    (scans : Scans expansion roots iteration state) : iteration ≤ last := by
  induction scans with
  | first _ => exact finishes.scans.pos
  | next further pending _ ih =>
      refine Nat.lt_of_le_of_ne ih fun same => ?_
      subst same
      rw [further.unique finishes.scans] at pending
      exact pending finishes.nothing

theorem Finishes.extends {last iteration : Nat} {final state : ClosureState} {closure : Closure}
    (finishes : Finishes expansion roots last final closure)
    (scans : Scans expansion roots iteration state) : Extends state final :=
  scans.extends finishes.scans (finishes.last scans)

/-! ## Records -/

/-- **The confirmed records of a scanned state** are those of an earlier run and
those read off the states scanned before. -/
theorem Scans.mem_edges {iteration : Nat} {state : ClosureState}
    (scans : Scans expansion roots iteration state) {edge : Edge} (ok : edge.status = .ok) :
    edge ∈ state.edges ↔ edge ∈ expansion.prior ∨ ∃ earlier before, earlier < iteration ∧
      Scans expansion roots earlier before ∧
      ∃ member ∈ before.known, edge ∈ before.recordsOf member := by
  induction scans with
  | first started =>
      obtain ⟨owners, _, taken⟩ := start_eq_ok started
      have same : SameRecords ((ClosureState.initial owners).seed expansion.prior) _ :=
        Outcome.foldlM_induction (SameRecords.refl _)
          (fun _ _ _ _ same one => same.trans (sameRecords_takeUp one)) taken
      refine (same edge ok).trans (((ClosureState.seed_spec _ _).2.1 edge).trans ?_)
      constructor
      · rintro (inNothing | inPrior)
        · exact absurd inNothing List.not_mem_nil
        · exact .inl inPrior
      · rintro (inPrior | ⟨earlier, _, before, scanned, _⟩)
        · exact .inr inPrior
        · exact absurd scanned.pos (Nat.not_lt.mpr (Nat.le_of_lt_succ before))
  | @next iteration state _ scans _ resolved ih =>
      have same : SameRecords state.scanned.written _ := sameRecords_resolveAll resolved
      refine (same edge ok).trans (ClosureState.mem_edges_scanned.trans ?_)
      constructor
      · rintro (old | recorded)
        · refine (ih.mp old).imp_right ?_
          rintro ⟨earlier, before, less, rest⟩
          exact ⟨earlier, before, Nat.lt_succ_of_lt less, rest⟩
        · exact .inr ⟨iteration, state, Nat.lt_succ_self _, scans, recorded⟩
      · rintro (inPrior | ⟨earlier, before, less, scanned, recorded⟩)
        · exact .inl (ih.mpr (.inl inPrior))
        · rcases Nat.lt_succ_iff_lt_or_eq.mp less with earlierStill | rfl
          · exact .inl (ih.mpr (.inr ⟨earlier, before, earlierStill, scanned, recorded⟩))
          · rw [scanned.unique scans] at recorded
            exact .inr recorded

namespace Finishes

variable {last : Nat} {final : ClosureState} {closure : Closure}

theorem objects_eq (finishes : Finishes expansion roots last final closure) :
    closure.objects = final.sortedKnown.map (·.object) := by
  have known : final.scanned.written.grown.known = final.known :=
    (ClosureState.fields_of_bare (ClosureState.bare_scanned final)).2.1
  rw [finishes.closure_eq, ClosureState.closure, ClosureState.sortedKnown, known]
  rfl

theorem mem_objects (finishes : Finishes expansion roots last final closure)
    {object : ObjectRef} :
    object ∈ closure.objects ↔ ∃ member ∈ final.known, member.object = object := by
  rw [finishes.objects_eq, List.mem_map]
  simp only [ClosureState.sortedKnown, Sorting.mem_sortOn]

theorem missing_eq (finishes : Finishes expansion roots last final closure) :
    closure.missing = final.missing := by
  rw [finishes.closure_eq]
  exact (ClosureState.fields_of_bare (ClosureState.bare_scanned final)).2.2.2

/-- The confirmed records of the last scan are those of an earlier run and those read
off the scanned states. -/
theorem mem_edges_scanned (finishes : Finishes expansion roots last final closure) {edge : Edge}
    (ok : edge.status = .ok) : edge ∈ final.scanned.edges ↔
      edge ∈ expansion.prior ∨ ∃ iteration state, Scans expansion roots iteration state ∧
        ∃ member ∈ state.known, edge ∈ state.recordsOf member := by
  refine ClosureState.mem_edges_scanned.trans ?_
  rw [finishes.scans.mem_edges ok]
  constructor
  · rintro ((inPrior | ⟨earlier, before, _, scanned, recorded⟩) | recorded)
    · exact .inl inPrior
    · exact .inr ⟨earlier, before, scanned, recorded⟩
    · exact .inr ⟨last, final, finishes.scans, recorded⟩
  · rintro (inPrior | ⟨iteration, state, scanned, recorded⟩)
    · exact .inl (.inl inPrior)
    · rcases Nat.lt_or_eq_of_le (finishes.last scanned) with earlier | rfl
      · exact .inl (.inr ⟨iteration, state, earlier, scanned, recorded⟩)
      · rw [scanned.unique finishes.scans] at recorded
        exact .inr recorded

/-- **The confirmed records of a closure**: up to the owners of dependencies,
those of an earlier run and those read off the scanned states. -/
theorem mem_records (finishes : Finishes expansion roots last final closure)
    {object : ObjectRef} {dependency : Option ObjectKey} :
    (∃ edge ∈ closure.edges, edge.status = .ok ∧ edge.object = object ∧
      edge.dependency.map (·.key) = dependency) ↔
    ∃ edge, (edge ∈ expansion.prior ∨ ∃ iteration state, Scans expansion roots iteration state ∧
        ∃ member ∈ state.known, edge ∈ state.recordsOf member) ∧
      edge.status = .ok ∧ edge.object = object ∧ edge.dependency.map (·.key) = dependency := by
  have said : ∀ edges : List Edge, (∃ edge ∈ edges, edge.status = .ok ∧ edge.object = object ∧
      edge.dependency.map (·.key) = dependency) ↔
      (EdgeStatus.ok, object, dependency) ∈ edges.map EdgeList.gist := by
    intro edges
    simp [EdgeList.gist]
  rw [said, finishes.closure_eq]
  refine EdgeList.mem_map_gist_backfillAll.trans ((said _).symm.trans ?_)
  exact exists_congr fun edge => and_congr_left fun said => finishes.mem_edges_scanned said.1

end Finishes

end SchemaPlan.Expansion
