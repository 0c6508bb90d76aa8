import SchemaPlan.Proofs.Closure.Batches
import SchemaPlan.Proofs.Closure.Records
import SchemaPlan.Proofs.Closure.Preservation

/-!
# The missing keys of a log

What is missing is kept twice, as a set of keys and as records that say so.  The set
can be left out: it is read off the records again.  Filling in owners changes what
the records say about dependencies only, so the keys that a log misses stay the same
(`EdgeList.missingKeys_backfillAll`), and a state that has been made from a log alone
misses what the log says (`ClosureState.missing_seed_initial`).

Since the two agree in every state that a run scans, they agree in the closure, and a
run that is begun with the records of the closure starts out with its missing keys
(`Expansion.missing_eq_missingKeys`).
-/

set_option autoImplicit false

namespace SchemaPlan

namespace EdgeList

/-- The keys that the records say are missing. -/
def missingKeys (edges : List Edge) : OrderedSet ObjectKey :=
  OrderedSet.ofList ((edges.filter fun edge => decide (edge.status = .missing)).map (·.object.key))

theorem mem_missingKeys {edges : List Edge} {key : ObjectKey} :
    key ∈ missingKeys edges ↔ ∃ edge ∈ edges, edge.status = .missing ∧ edge.object.key = key := by
  simp [missingKeys, OrderedSet.mem_ofList, and_assoc]

/-- A log misses what its records say apart from the owners of dependencies. -/
theorem mem_missingKeys_iff_gist {edges : List Edge} {key : ObjectKey} :
    key ∈ missingKeys edges ↔ ∃ said ∈ edges.map gist, said.1 = .missing ∧ said.2.1.key = key := by
  simp only [mem_missingKeys, List.mem_map, exists_exists_and_eq_and, gist]

/-- **Filling in owners makes nothing missing**, and finds nothing that was. -/
theorem missingKeys_backfillAll (repairs : List (String × String)) (edges : List Edge) :
    missingKeys (repairs.foldl (fun edges repair => backfill edges repair.1 repair.2) edges) =
      missingKeys edges := by
  refine OrderedSet.ext fun key => ?_
  simp only [mem_missingKeys_iff_gist, mem_map_gist_backfillAll]

end EdgeList

namespace ClosureState

/-- A state made from records alone misses what they say is missing. -/
theorem missing_seed_initial (owners : List String) (records : List Edge) :
    ((initial owners).seed records).missing = EdgeList.missingKeys records := by
  obtain ⟨_, _, missing⟩ := seed_spec (initial owners) records
  refine OrderedSet.ext fun key => ?_
  rw [EdgeList.mem_missingKeys]
  exact (missing key).trans (or_iff_right OrderedSet.not_mem_empty)

end ClosureState

namespace Expansion

variable {expansion : Expansion} {roots : List ObjectRef}

theorem Logged.missing_eq {state : ClosureState} (logged : Logged state) :
    state.missing = EdgeList.missingKeys state.edges :=
  OrderedSet.ext fun key => (logged.missing key).trans EdgeList.mem_missingKeys.symm

/-- The closure misses what its records say is missing. -/
theorem Finishes.missing_eq_recorded {last : Nat} {final : ClosureState} {closure : Closure}
    (finishes : Finishes expansion roots last final closure) :
    closure.missing = EdgeList.missingKeys closure.edges := by
  have scanned := finishes.scans.logged.scanned.missing_eq
  rw [finishes.closure_eq]
  exact scanned.trans (EdgeList.missingKeys_backfillAll _ _).symm

variable {Log : Type} {sink : EdgeSink Log}

/-- **The missing keys of a run can be rebuilt from its log**: they are the keys of the
records that say so once the owners have been filled in, and a run that takes up these
records starts out with them. -/
theorem missing_eq_missingKeys {closure : Closure} {log after : Log}
    (done : expansion.run sink roots log = (.ok closure, after)) :
    closure.missing = EdgeList.missingKeys closure.edges ∧
    ∀ owners, ((ClosureState.initial owners).seed closure.edges).missing = closure.missing := by
  obtain ⟨_, _, finishes⟩ := finishes_of_run done
  have same := finishes.missing_eq_recorded
  exact ⟨same, fun owners => (ClosureState.missing_seed_initial owners _).trans same.symm⟩

/-- A procedure that no source is left of. -/
def lostProcedure : ObjectRef := ObjectRef.new (some "A") (.rootLevel .procedure "LOST")

/-- The expansion of two procedures that call each other.  An earlier run has recorded
that a third one is missing, twice: alone, and as a caller of one whose owner was not
known. -/
def recalledExpansion : Expansion :=
  { mutualExpansion with
    prior := [Edge.missing lostProcedure,
      ⟨.missing, lostProcedure, some (ObjectRef.new none (.rootLevel .procedure "STEP"))⟩] }

theorem closure_recalledExpansion :
    (recalledExpansion.run EdgeList.sink [mutualRows.1.toRef] []).1.toOption.map
        (fun closure => (closure.edges.take 2, closure.missing.toList)) =
      some ([Edge.missing lostProcedure, ⟨.missing, lostProcedure, some mutualRows.2.toRef⟩],
        [.rootLevel .table "STEP", lostProcedure.key]) := by
  with_unfolding_all rfl

/-- The owner is filled in, and the records of both runs are counted: one that the
earlier run misses, and a table that is found to be missing. -/
theorem missing_recalledExpansion :
    ∃ closure after, recalledExpansion.run EdgeList.sink [mutualRows.1.toRef] [] =
        (.ok closure, after) ∧
      (EdgeList.missingKeys closure.edges).toList = [.rootLevel .table "STEP", lostProcedure.key] ∧
      (((ClosureState.initial []).seed closure.edges).missing).toList =
        [.rootLevel .table "STEP", lostProcedure.key] := by
  obtain ⟨closure, after, done, read⟩ := Outcome.eq_ok_of_reading closure_recalledExpansion
  obtain ⟨same, rebuilt⟩ := missing_eq_missingKeys done
  have keys := (Prod.mk.inj read).2
  refine ⟨closure, after, done, ?_, ?_⟩
  · rw [← same, keys]
  · rw [rebuilt, keys]

end Expansion

end SchemaPlan
