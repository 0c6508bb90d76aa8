import SchemaPlan.Proofs.Closure.Records
import SchemaPlan.Proofs.Closure.Tables
import SchemaPlan.Proofs.Edge.Backfill

/-!
# Owners that become known in the end

A record may name a dependency whose owner nobody knew when the record was made.  When a
closure is completed, such a dependency gets the owner of a known object with its name: of
several that are owned, the one with the least key (`ClosureState.IsOwnerOfName`).

The names are worked through one after the other, and each time all records are gone
through.  Since the records of a state are distinct, it comes to filling in all owners at
once (`EdgeList.filled`): nothing else changes in a record, no record is dropped but one
that is changed into another record of the state, and the order of the names makes no
difference (`finish_fills_owners`).
-/

set_option autoImplicit false

namespace SchemaPlan

/-! ## The owner of a name -/

namespace ClosureState

variable {state : ClosureState} {name owner : String}

/-- An owner that goes with a name: that of the known object with the least key of those
that have the name and an owner. -/
def IsOwnerOfName (state : ClosureState) (name owner : String) : Prop :=
  ∃ member ∈ state.known, member.object.key.name = name ∧ member.object.owner = some owner ∧
    ∀ other ∈ state.known, other.object.key.name = name → other.object.owner ≠ none →
      (compare member.object.key other.object.key).isLE = true

/-- Of known objects that are gone through in the order of their keys the first that has the name
and an owner counts. -/
theorem isOwnerOfName_of_eq_some (given : state.ownerOfName? name = some owner) :
    state.IsOwnerOfName name owner := by
  obtain ⟨before, member, after, order, owned, passed⟩ := List.findSome?_eq_some_iff.mp given
  have sorted : state.sortedKnown.Pairwise fun one other =>
      (compare one.object.key other.object.key).isLE = true := Sorting.pairwise_sortOn state.known
  have mem_known : ∀ other, other ∈ state.sortedKnown ↔ other ∈ state.known :=
    fun other => Sorting.mem_sortOn
  simp only [order] at sorted mem_known
  obtain ⟨named, owned⟩ := Option.ite_none_right_eq_some.mp owned
  refine ⟨member, (mem_known member).mp (by simp), beq_iff_eq.mp named, owned, ?_⟩
  intro other known alsoNamed alsoOwned
  rcases List.mem_append.mp ((mem_known other).mpr known) with earlier | later
  · have skipped := passed other earlier
    rw [if_pos (beq_iff_eq.mpr alsoNamed)] at skipped
    exact absurd skipped alsoOwned
  · rcases List.mem_cons.mp later with rfl | later
    · simp
    · exact (List.pairwise_cons.mp (List.pairwise_append.mp sorted).2.1).1 other later

theorem ownerOfName?_eq_none_iff : state.ownerOfName? name = none ↔
    ∀ member ∈ state.known, member.object.key.name = name → member.object.owner = none := by
  simp only [ownerOfName?, sortedKnown, List.findSome?_eq_none_iff, Sorting.mem_sortOn,
    ite_eq_right_iff, beq_iff_eq]

/-- When known objects have distinct keys, a name has no owner but the one given for it. -/
theorem ownerOfName?_eq_some_iff (distinct : (state.known.map (·.object.key)).Nodup) :
    state.ownerOfName? name = some owner ↔ state.IsOwnerOfName name owner := by
  refine ⟨isOwnerOfName_of_eq_some, ?_⟩
  rintro ⟨member, known, named, owned, least⟩
  cases given : state.ownerOfName? name with
  | none =>
      rw [ownerOfName?_eq_none_iff.mp given member known named] at owned
      cases owned
  | some other =>
      obtain ⟨found, isKnown, alsoNamed, alsoOwned, alsoLeast⟩ := isOwnerOfName_of_eq_some given
      have before := least found isKnown alsoNamed (by simp [alsoOwned])
      have after := alsoLeast member known named (by simp [owned])
      have sameKey : member.object.key = found.object.key :=
        Std.LawfulEqOrd.eq_of_compare (Std.OrientedCmp.isLE_antisymm before after)
      obtain rfl := List.inj_on_of_nodup_map distinct known isKnown sameKey
      exact alsoOwned.symm.trans owned

/-- Repairs, in whatever order, fill in the owners of names. -/
theorem foldl_backfill_eq_filled (distinct : state.edges.Nodup) {order : List (String × String)}
    (same : ∀ repair, repair ∈ order ↔ repair ∈ state.repairs) :
    order.foldl (fun edges repair => EdgeList.backfill edges repair.1 repair.2) state.edges =
      EdgeList.filled state.ownerOfName? state.edges :=
  (EdgeList.backfillAll_eq_filled distinct).trans
    (EdgeList.filled_congr fun _ recorded => fill_lookup same recorded)

end ClosureState

/-! ## Completing a closure -/

namespace Expansion

variable {Log Kept : Type} {expansion : Expansion} {sink : EdgeSink Log} {roots : List ObjectRef}
  {log : Log} {state : ClosureState}

/-- A run comes to the states that it passes, and to these after their batch has been written. -/
def ComesTo (expansion : Expansion) (sink : EdgeSink Log) (roots : List ObjectRef) (log : Log)
    (finished : ClosureState) : Prop :=
  ∃ state, Passes expansion sink roots log state ∧
    (finished = state ∨ finished = state.written.grown)

theorem ComesTo.hasTables (comes : ComesTo expansion sink roots log state) :
    HasTables state := by
  obtain ⟨passed, passes, rfl | rfl⟩ := comes
  · exact passes.hasTables
  · exact passes.hasTables.written.grown

/-- A closure is completed unless the sink refuses an owner. -/
theorem finish_cases (into : EdgeSink Kept) (iteration : Nat) (state : ClosureState)
    (kept : Kept) :
    (∃ left, finish into iteration state kept = .converged (state.closure iteration) left) ∨
      ∃ repair ∈ state.repairs, ∃ left cause,
        into.backfill left repair.1 repair.2 = .error cause ∧
          finish into iteration state kept = .failed (.storage cause) left := by
  rw [finish]
  rcases backfillSink_cases into kept state.repairs with
    ⟨left, done⟩ | ⟨repair, listed, left, cause, refused, stopped⟩
  · rw [done]
    exact .inl ⟨left, rfl⟩
  · rw [stopped]
    exact .inr ⟨repair, listed, left, cause, refused, rfl⟩

/-- **Owners are filled in at the end.**  A state that a run comes to is completed, unless the
sink refuses an owner.  Each dependency without an owner then has the owner of the known object
with the least key of those that have its name and an owner; it is left without one only if no
known object of its name has one.  Otherwise the records are those of the state, in their order,
without those that have become like another one, and whatever the order in which the names
are repaired. -/
theorem finish_fills_owners (comes : ComesTo expansion sink roots log state)
    (into : EdgeSink Kept) (iteration : Nat) (kept : Kept) :
    ((∃ left, finish into iteration state kept = .converged (state.closure iteration) left) ∨
      ∃ repair ∈ state.repairs, ∃ left cause,
        into.backfill left repair.1 repair.2 = .error cause ∧
          finish into iteration state kept = .failed (.storage cause) left) ∧
    (∀ name owner, state.ownerOfName? name = some owner ↔ state.IsOwnerOfName name owner) ∧
    (state.closure iteration).edges = EdgeList.filled state.ownerOfName? state.edges ∧
    (∀ edge ∈ (state.closure iteration).edges, ∀ dependency,
      edge.dependency = some dependency → dependency.owner = none →
        ∀ member ∈ state.known, member.object.key.name = dependency.key.name →
          member.object.owner = none) ∧
    (∀ old ∈ state.edges,
      EdgeList.fill state.ownerOfName? old ∈ (state.closure iteration).edges) ∧
    (state.closure iteration).edges.Nodup ∧
    ∀ order : List (String × String), order.Perm state.repairs →
      order.foldl (fun edges repair => EdgeList.backfill edges repair.1 repair.2) state.edges =
        (state.closure iteration).edges := by
  obtain ⟨tables, evolves⟩ := comes.hasTables
  have inStep := evolves.inStep
  have filled : (state.closure iteration).edges =
      EdgeList.filled state.ownerOfName? state.edges :=
    ClosureState.foldl_backfill_eq_filled inStep.distinct fun _ => Iff.rfl
  refine ⟨finish_cases into iteration state kept,
    fun name owner => ClosureState.ownerOfName?_eq_some_iff inStep.keysDistinct, filled, ?_,
    fun old recorded => ClosureState.mem_repairedEdges.mpr ⟨old, recorded, rfl⟩,
    EdgeList.nodup_backfillAll inStep.distinct, fun order perm => ?_⟩
  · intro edge member dependency isDependency unowned
    obtain ⟨old, _, rfl⟩ := ClosureState.mem_repairedEdges.mp member
    refine ClosureState.ownerOfName?_eq_none_iff.mp ?_
    exact EdgeList.fill_eq_self_iff.mp (EdgeList.fill_fill old) dependency isDependency unowned
  · rw [filled]
    exact ClosureState.foldl_backfill_eq_filled inStep.distinct fun _ => perm.mem_iff

/-- A procedure of an owner. -/
def stagedProcedure (owner : Option String) (name : String) : ObjectRef :=
  ObjectRef.new owner (.rootLevel .procedure name)

/-- The records of an earlier run in which the owner of a helper was not known. -/
def stagedRecords : List Edge :=
  ["MAIN", "OTHER"].map fun name =>
    .requires (stagedProcedure (some "A") name) (stagedProcedure none "HELPER")

/-- The expansion of two procedures, one of which still calls the helper. -/
def stagedExpansion : Expansion where
  catalog := (Snapshot.ofRows [.new "A" .procedure "" "HELPER", .new "A" .procedure "" "MAIN",
    .new "A" .procedure "" "OTHER"]).catalog
  sources := (SourceShelf.ofEntries [.new "A" "" "HELPER" "NULL;", .new "A" "" "MAIN" "HELPER(1);",
    .new "A" "" "OTHER" "NULL;"]).store
  config := {}
  prior := stagedRecords

/-- The helper as a root. -/
def stagedRoots : List ObjectRef := [stagedProcedure (some "A") "HELPER"]

/-- The records of this run. -/
def freshRecords : List Edge :=
  [.leaf (stagedProcedure (some "A") "HELPER"),
    .requires (stagedProcedure (some "A") "MAIN") (stagedProcedure (some "A") "HELPER"),
    .leaf (stagedProcedure (some "A") "OTHER")]

theorem read_stagedExpansion :
    (stagedExpansion.start stagedRoots, ()).1.toOption.map (fun state =>
      (state.written.scanned.written.grown.edges, state.written.scanned.written.grown.repairs)) =
      some (stagedRecords ++ freshRecords, [("HELPER", "A")]) := by
  with_unfolding_all rfl

/-- Of the records without the owner the first turns into one that this run has made, and the
second one gets the owner. -/
theorem stagedRecords_filled :
    ∃ state, ComesTo stagedExpansion EdgeList.sink stagedRoots stagedRecords state ∧
      (∃ left, finish EdgeList.sink 1 state state.edges = .converged (state.closure 1) left) ∧
      state.IsOwnerOfName "HELPER" "A" ∧
      (state.closure 1).edges =
        .requires (stagedProcedure (some "A") "OTHER") (stagedProcedure (some "A") "HELPER") ::
          freshRecords := by
  obtain ⟨first, _, started, reading⟩ := Outcome.eq_ok_of_reading read_stagedExpansion
  obtain ⟨isEdges, isRepairs⟩ := Prod.mk.inj reading
  have visits : Visits stagedExpansion EdgeList.sink stagedRoots stagedRecords 1 first.written :=
    ⟨[], _, .first (Prod.mk.inj started).1 rfl, by decide, rfl⟩
  have comes : ComesTo stagedExpansion EdgeList.sink stagedRoots stagedRecords
      first.written.scanned.written.grown := ⟨_, .scanned visits, .inr rfl⟩
  obtain ⟨completed, owners, _, _, _, _, anyOrder⟩ :=
    finish_fills_owners comes EdgeList.sink 1 first.written.scanned.written.grown.edges
  refine ⟨_, comes, completed.resolve_right ?_, (owners _ _).mp ?_, ?_⟩
  · rintro ⟨_, _, _, _, refused, _⟩
    cases refused
  · exact (ClosureState.mem_repairs.mp (isRepairs ▸ List.mem_singleton_self _)).2
  · rw [← anyOrder [("HELPER", "A")] (isRepairs ▸ List.Perm.refl _), isEdges]
    decide

end Expansion

end SchemaPlan
