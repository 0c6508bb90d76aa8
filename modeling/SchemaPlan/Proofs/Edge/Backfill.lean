import Mathlib.Data.List.FinRange
import SchemaPlan.Proofs.Edge.Sink

/-!
# Which records are kept when an owner is filled in

Records that do not need the owner stay.  Several records that need it can have the same
repaired form, and then the first of them stays, in that form, unless a record that does
not need the owner equals the form already.

The records are gone through from the left with two lists beside them, the complete
records and the repaired ones so far.  Whether a record stays depends on these lists and
on the records before it (`KeptAt`), so what stays is told by places: the result lists the
repaired forms of the records at the places kept, in their order.

Distinct records have distinct repaired forms.  Of such records only those are dropped that
are changed into another record of the list, and this is also what several names come to that
are repaired one after the other (`filled`): it depends on the owners given for the names and
not on the order of the names.
-/

set_option autoImplicit false

namespace SchemaPlan.EdgeList

/-! ## Places -/

/-- The record at a place stays beside records that are complete and records repaired
before: it does not need the owner, or its repaired form is new. -/
def KeptAt (name owner : String) (complete repaired edges : List Edge)
    (place : Fin edges.length) : Prop :=
  needsOwner name edges[place] = true →
    (giveOwner owner edges[place] ∉ complete ∧ giveOwner owner edges[place] ∉ repaired) ∧
      ∀ earlier < place, needsOwner name edges[earlier] = true →
        giveOwner owner edges[earlier] ≠ giveOwner owner edges[place]

instance (name owner : String) (complete repaired edges : List Edge)
    (place : Fin edges.length) : Decidable (KeptAt name owner complete repaired edges place) :=
  inferInstanceAs (Decidable (_ → _))

/-- The places whose records stay, in ascending order. -/
def keptPlaces (name owner : String) (complete repaired edges : List Edge) :
    List (Fin edges.length) :=
  (List.finRange edges.length).filter fun place => KeptAt name owner complete repaired edges place

variable {name owner : String} {complete repaired rest : List Edge} {first : Edge}

theorem keptPlaces_cons {next : List Edge}
    (later : ∀ place : Fin rest.length,
      KeptAt name owner complete repaired (first :: rest) place.succ ↔
        KeptAt name owner complete next rest place) :
    keptPlaces name owner complete repaired (first :: rest) =
      (if KeptAt name owner complete repaired (first :: rest) 0 then [0] else []) ++
        (keptPlaces name owner complete next rest).map Fin.succ := by
  have places : List.finRange (first :: rest).length =
      0 :: (List.finRange rest.length).map Fin.succ := List.finRange_succ
  rw [keptPlaces, places, List.filter_cons, List.filter_map]
  have same : ((fun place => decide (KeptAt name owner complete repaired (first :: rest) place)) ∘
      Fin.succ) = fun place => decide (KeptAt name owner complete next rest place) := by
    funext place
    exact decide_eq_decide.mpr (later place)
  rw [same]
  simp only [decide_eq_true_eq]
  split <;> rfl

/-- Whether a later record stays depends on the first one only if that one needs the owner. -/
theorem keptAt_succ {place : Fin rest.length} :
    KeptAt name owner complete repaired (first :: rest) place.succ ↔
      (needsOwner name rest[place] = true → needsOwner name first = true →
        giveOwner owner first ≠ giveOwner owner rest[place]) ∧
        KeptAt name owner complete repaired rest place := by
  have earlier : (∀ other < place.succ, needsOwner name (first :: rest)[other] = true →
      giveOwner owner (first :: rest)[other] ≠ giveOwner owner (first :: rest)[place.succ]) ↔
      (needsOwner name first = true → giveOwner owner first ≠ giveOwner owner rest[place]) ∧
        ∀ other < place, needsOwner name rest[other] = true →
          giveOwner owner rest[other] ≠ giveOwner owner rest[place] := by
    refine Fin.forall_fin_succ.trans (and_congr ?_ ?_)
    · exact ⟨fun here => here place.succ_pos, fun here _ => here⟩
    · exact forall_congr' fun other => imp_congr_left Fin.succ_lt_succ_iff
  refine (imp_congr_right fun _ => and_congr_right fun _ => earlier).trans ?_
  rw [KeptAt, ← forall_and]
  exact imp_congr_right fun _ => and_left_comm

theorem keptAt_zero : KeptAt name owner complete repaired (first :: rest) 0 ↔
    (needsOwner name first = true →
      giveOwner owner first ∉ complete ∧ giveOwner owner first ∉ repaired) :=
  imp_congr_right fun _ => and_iff_left fun other before => absurd before other.not_lt_zero

/-- A record that does not need the owner stays and stands in no other one's way. -/
theorem keptPlaces_of_whole (whole : ¬ needsOwner name first = true) :
    keptPlaces name owner complete repaired (first :: rest) =
      0 :: (keptPlaces name owner complete repaired rest).map Fin.succ := by
  have later : ∀ place : Fin rest.length,
      KeptAt name owner complete repaired (first :: rest) place.succ ↔
        KeptAt name owner complete repaired rest place :=
    fun place => keptAt_succ.trans (and_iff_right fun _ needs => absurd needs whole)
  rw [keptPlaces_cons later, if_pos (keptAt_zero.mpr fun needs => absurd needs whole)]
  rfl

/-- A repaired form that is there already is not kept again. -/
theorem keptPlaces_of_old (needs : needsOwner name first = true)
    (old : giveOwner owner first ∈ complete ∨ giveOwner owner first ∈ repaired) :
    keptPlaces name owner complete repaired (first :: rest) =
      (keptPlaces name owner complete repaired rest).map Fin.succ := by
  have later : ∀ place : Fin rest.length,
      KeptAt name owner complete repaired (first :: rest) place.succ ↔
        KeptAt name owner complete repaired rest place := by
    refine fun place => keptAt_succ.trans (and_iff_right_of_imp fun kept alsoNeeds _ same => ?_)
    have new := (kept alsoNeeds).1
    rw [← same] at new
    exact old.elim new.1 new.2
  have dropped : ¬ KeptAt name owner complete repaired (first :: rest) 0 := fun kept =>
    old.elim (keptAt_zero.mp kept needs).1 (keptAt_zero.mp kept needs).2
  rw [keptPlaces_cons later, if_neg dropped]
  rfl

/-- A new repaired form is kept, and from then on it is one of those repaired before. -/
theorem keptPlaces_of_new (needs : needsOwner name first = true)
    (new : ¬ (giveOwner owner first ∈ complete ∨ giveOwner owner first ∈ repaired)) :
    keptPlaces name owner complete repaired (first :: rest) =
      0 :: (keptPlaces name owner complete (giveOwner owner first :: repaired) rest).map
        Fin.succ := by
  have later : ∀ place : Fin rest.length,
      KeptAt name owner complete repaired (first :: rest) place.succ ↔
        KeptAt name owner complete (giveOwner owner first :: repaired) rest place := by
    intro place
    rw [keptAt_succ, KeptAt, KeptAt, List.mem_cons, not_or, ← forall_and]
    refine imp_congr_right fun _ => ?_
    rw [imp_iff_right needs, ne_comm, ← and_assoc, and_left_comm]
  rw [keptPlaces_cons later, if_pos (keptAt_zero.mpr fun _ => not_or.mp new)]
  rfl

/-! ## One pass -/

/-- **The pass keeps the records at the places kept**, each in its repaired form, and
counts those that needed the owner. -/
theorem backfillFrom_eq (edges : List Edge) : backfillFrom name owner complete repaired edges =
    ((keptPlaces name owner complete repaired edges).map fun place =>
        repair name owner edges[place],
      (keptPlaces name owner complete repaired edges).countP fun place =>
        needsOwner name edges[place]) := by
  induction edges generalizing repaired with
  | nil => rfl
  | cons first rest ih =>
      rw [backfillFrom]
      by_cases needs : needsOwner name first = true
      · have form : repair name owner first = giveOwner owner first := if_pos needs
        by_cases old : giveOwner owner first ∈ complete ∨ giveOwner owner first ∈ repaired
        · rw [keptPlaces_of_old needs old]
          simp [needs, old, ih, Function.comp_def]
        · rw [keptPlaces_of_new needs old]
          simp [needs, old, ih, form, Function.comp_def]
      · have form : repair name owner first = first := if_neg needs
        rw [keptPlaces_of_whole needs]
        simp [needs, ih, form, Function.comp_def]

/-! ## Filling in an owner -/

/-- The record at a place outlasts the filling in of an owner: it does not need the owner,
or it is the first one of its repaired form and this form equals no record that does not
need the owner. -/
def StaysAt (name owner : String) (edges : List Edge) (place : Fin edges.length) : Prop :=
  needsOwner name edges[place] = false ∨
    (∀ edge ∈ edges, needsOwner name edge = false → edge ≠ giveOwner owner edges[place]) ∧
      ∀ earlier < place, needsOwner name edges[earlier] = true →
        giveOwner owner edges[earlier] ≠ giveOwner owner edges[place]

instance (name owner : String) (edges : List Edge) (place : Fin edges.length) :
    Decidable (StaysAt name owner edges place) :=
  inferInstanceAs (Decidable (_ ∨ _))

theorem staysAt_iff {edges : List Edge} {place : Fin edges.length} :
    StaysAt name owner edges place ↔
      KeptAt name owner (edges.filter fun edge => !needsOwner name edge) [] edges place := by
  have absent : giveOwner owner edges[place] ∉ edges.filter (fun edge => !needsOwner name edge) ↔
      ∀ edge ∈ edges, needsOwner name edge = false → edge ≠ giveOwner owner edges[place] := by
    rw [List.mem_filter, not_and, Bool.not_eq_true']
    constructor
    · rintro absent edge member whole rfl
      exact absent member whole
    · exact fun apart member whole => apart _ member whole rfl
  rw [StaysAt, KeptAt, absent, and_iff_left List.not_mem_nil, ← Bool.not_eq_true, imp_iff_not_or]

/-- **Filling in an owner keeps the first record of each form.**  The records that stay are
those that do not need the owner and, of the others, the first one of each repaired form
that equals none of these; they stay in their order, each repaired, and those repaired are
counted.  So the records afterwards are the repaired forms of the records before, distinct
records stay distinct, and no dependency of the name is left without an owner. -/
theorem backfill_keeps_first_forms (edges : List Edge) (name owner : String) :
    (backfillCounted edges name owner =
      (((List.finRange edges.length).filter fun place => StaysAt name owner edges place).map
          fun place => repair name owner edges[place],
        ((List.finRange edges.length).filter fun place => StaysAt name owner edges place).countP
          fun place => needsOwner name edges[place])) ∧
    (∀ edge, edge ∈ backfill edges name owner ↔ ∃ old ∈ edges, repair name owner old = edge) ∧
    (edges.Nodup → (backfill edges name owner).Nodup) ∧
    ∀ edge ∈ backfill edges name owner, ∀ dependency, edge.dependency = some dependency →
      dependency.key.name = name → dependency.owner ≠ none := by
  have places : keptPlaces name owner (edges.filter fun edge => !needsOwner name edge) [] edges =
      (List.finRange edges.length).filter fun place => StaysAt name owner edges place :=
    List.filter_congr fun place _ => decide_eq_decide.mpr staysAt_iff.symm
  refine ⟨?_, fun edge => mem_backfill, nodup_backfill, ?_⟩
  · rw [backfillCounted, backfillFrom_eq, places]
  · intro edge member dependency given named
    obtain ⟨old, _, rfl⟩ := mem_backfill.mp member
    rw [repair] at given
    split at given
    · obtain ⟨before, _, rfl⟩ := Option.map_eq_some_iff.mp given
      exact Option.some_ne_none owner
    · next whole =>
      intro unowned
      exact whole (by simp [needsOwner, given, named, unowned])

/-- A table without an owner or with one. -/
def stageTable (owner : Option String) : ObjectRef := ⟨owner, ⟨.table, "NONE", "XX_STAGE"⟩⟩

/-- The record that a procedure requires the table. -/
def stageRecord (procedure : String) (owner : Option String) : Edge :=
  .requires ⟨some "APPS", ⟨.procedure, "NONE", procedure⟩⟩ (stageTable owner)

/-- Two records without the owner; the second of the three is the repaired form of the first. -/
def twinRecords : List Edge :=
  [stageRecord "XX_RUN" none, stageRecord "XX_RUN" (some "XX"), stageRecord "XX_OTHER" none]

/-- The first record is dropped for the one that had the owner already, the last is repaired. -/
theorem backfill_twinRecords : twinRecords.Nodup ∧
    backfillCounted twinRecords "XX_STAGE" "XX" =
      ([stageRecord "XX_RUN" (some "XX"), stageRecord "XX_OTHER" (some "XX")], 1) ∧
    (backfill twinRecords "XX_STAGE" "XX").Nodup := by
  obtain ⟨kept, _, distinct, _⟩ := backfill_keeps_first_forms twinRecords "XX_STAGE" "XX"
  have apart : twinRecords.Nodup := by decide
  exact ⟨apart, kept.trans (by decide), distinct apart⟩

/-! ## Distinct records -/

/-- Records with their owners filled in.  A record that is changed is dropped when there is
already a record like it. -/
def filled (ownerOf : String → Option String) (edges : List Edge) : List Edge :=
  (edges.filter fun edge => fill ownerOf edge = edge ∨ fill ownerOf edge ∉ edges).map
    (fill ownerOf)

variable {ownerOf : String → Option String} {edges : List Edge} {edge : Edge}

theorem fill_eq_self_iff :
    fill ownerOf edge = edge ↔ ∀ dependency, edge.dependency = some dependency →
      dependency.owner = none → ownerOf dependency.key.name = none := by
  obtain ⟨status, object, dependency⟩ := edge
  cases dependency with
  | none => simp [fill]
  | some dependency =>
      obtain ⟨owner, key⟩ := dependency
      cases owner with
      | none => simp [fill]
      | some owner => simp [fill]

theorem repair_eq_fill (name owner : String) (edge : Edge) :
    repair name owner edge =
      fill (fun other => if other == name then some owner else none) edge :=
  (fill_none _).symm.trans (fill_repair edge)

/-- A record with something filled in has nothing left that could be filled in. -/
theorem fill_of_ne (other : String → Option String) (changed : fill ownerOf edge ≠ edge) :
    fill other (fill ownerOf edge) = fill ownerOf edge := by
  obtain ⟨status, object, dependency⟩ := edge
  cases dependency with
  | none => rfl
  | some dependency =>
      obtain ⟨owner, key⟩ := dependency
      cases owner with
      | some owner => rfl
      | none =>
          cases given : ownerOf key.name with
          | none => exact absurd (by simp [fill, given]) changed
          | some owner => simp [fill, given]

/-- Nothing but duplicates is dropped. -/
theorem mem_filled : edge ∈ filled ownerOf edges ↔ ∃ old ∈ edges, fill ownerOf old = edge := by
  simp only [filled, List.mem_map, List.mem_filter, decide_eq_true_eq]
  constructor
  · rintro ⟨old, ⟨recorded, _⟩, rfl⟩
    exact ⟨old, recorded, rfl⟩
  · rintro ⟨old, recorded, rfl⟩
    by_cases stays : fill ownerOf old = old ∨ fill ownerOf old ∉ edges
    · exact ⟨old, ⟨recorded, stays⟩, rfl⟩
    · exact ⟨_, ⟨not_not.mp (not_or.mp stays).2, .inl (fill_fill old)⟩, fill_fill old⟩

theorem filled_congr {other : String → Option String}
    (same : ∀ edge ∈ edges, fill ownerOf edge = fill other edge) :
    filled ownerOf edges = filled other edges := by
  rw [filled, filled, List.filter_congr (fun edge recorded => by rw [same edge recorded])]
  exact List.map_congr_left fun edge kept => same edge (List.mem_of_mem_filter kept)

theorem filled_none (edges : List Edge) : filled (fun _ => none) edges = edges := by
  have kept : ∀ edge ∈ edges, decide (fill (fun _ => none) edge = edge ∨
      fill (fun _ => none) edge ∉ edges) = true :=
    fun edge _ => decide_eq_true (.inl (fill_none edge))
  rw [filled, List.filter_eq_self.mpr kept, List.map_congr_left fun edge _ => fill_none edge,
    List.map_id']

/-- A record with the same key as one that waits for its owner is filled in as that one is. -/
theorem fill_eq_self_of_key (same : fill ownerOf edge = edge) {other : String → Option String}
    (changed : fill other edge ≠ edge) {old : Edge}
    (alike : old.dependency.map (·.key) = edge.dependency.map (·.key)) :
    fill ownerOf old = old := by
  have waits := mt fill_eq_self_iff.mpr changed
  push Not at waits
  obtain ⟨waiting, isWaiting, unowned, _⟩ := waits
  refine fill_eq_self_iff.mpr fun dependency isDependency _ => ?_
  rw [isDependency, isWaiting] at alike
  have sameKey : dependency.key = waiting.key := Option.some.inj alike
  rw [sameKey]
  exact fill_eq_self_iff.mp same waiting isWaiting unowned

/-- **To fill in records twice** is to fill them in once, from the first source first.  What the
first source changes has all it needs, and what waits for the second one becomes like no other
record on account of the first. -/
theorem filled_filled (other : String → Option String) (edges : List Edge) :
    filled other (filled ownerOf edges) =
      filled (fun name => (ownerOf name).or (other name)) edges := by
  conv_lhs =>
    rw [filled]
    enter [2, 2]
    rw [filled]
  conv_rhs => rw [filled]
  rw [List.filter_map, List.map_map, List.filter_filter]
  simp only [Function.comp_def, fill_or, ← Bool.decide_and]
  refine congrArg _ (List.filter_congr fun edge _ => decide_eq_decide.mpr ?_)
  rw [← fill_or]
  by_cases same : fill ownerOf edge = edge
  · rw [same, and_iff_left (.inl rfl)]
    refine or_congr_right' fun changed => not_congr ?_
    have alone : ∀ old, fill ownerOf old = fill other edge ↔ old = fill other edge := by
      refine fun old => ⟨fun becomes => ?_, ?_⟩
      · have alike := (gist_fill old).symm.trans ((congrArg gist becomes).trans (gist_fill edge))
        have kept := fill_eq_self_of_key same changed (Prod.mk.inj (Prod.mk.inj alike).2).2
        exact kept.symm.trans becomes
      · rintro rfl
        exact fill_of_ne ownerOf changed
    simp only [mem_filled, alone, exists_eq_right]
  · rw [fill_of_ne other same]
    simp [same]

theorem needsOwner_iff : needsOwner name edge = true ↔
    ∃ key : ObjectKey, edge.dependency = some ⟨none, key⟩ ∧ key.name = name := by
  obtain ⟨status, object, dependency⟩ := edge
  cases dependency with
  | none => simp [needsOwner]
  | some dependency =>
      obtain ⟨owner, key⟩ := dependency
      cases owner <;> simp [needsOwner]

theorem giveOwner_inj {first second : Edge} (needs : needsOwner name first = true)
    (alsoNeeds : needsOwner name second = true)
    (same : giveOwner owner first = giveOwner owner second) : first = second := by
  obtain ⟨key, isKey, _⟩ := needsOwner_iff.mp needs
  obtain ⟨otherKey, isOtherKey, _⟩ := needsOwner_iff.mp alsoNeeds
  obtain ⟨status, object, dependency⟩ := first
  obtain ⟨otherStatus, otherObject, otherDependency⟩ := second
  obtain rfl : dependency = some ⟨none, key⟩ := isKey
  obtain rfl : otherDependency = some ⟨none, otherKey⟩ := isOtherKey
  simpa [giveOwner] using same

/-- Distinct records have distinct repaired forms, so what is dropped is a record whose form is
among the complete ones. -/
theorem backfillFrom_of_nodup {complete repaired edges : List Edge} (distinct : edges.Nodup)
    (new : ∀ edge ∈ edges, needsOwner name edge = true → giveOwner owner edge ∉ repaired) :
    (backfillFrom name owner complete repaired edges).1 =
      (edges.filter fun edge =>
        needsOwner name edge = false ∨ giveOwner owner edge ∉ complete).map
          (repair name owner) := by
  induction edges generalizing repaired with
  | nil => rfl
  | cons first rest ih =>
      obtain ⟨apart, distinct⟩ := List.nodup_cons.mp distinct
      obtain ⟨firstNew, new⟩ := List.forall_mem_cons.mp new
      rw [backfillFrom_cons, List.filter_cons]
      by_cases needs : needsOwner name first = true
      · by_cases present : giveOwner owner first ∈ complete
        · rw [if_pos needs, if_pos (.inl present), if_neg (by simp [needs, present])]
          exact ih distinct new
        · have absent := not_or.mpr ⟨present, firstNew needs⟩
          rw [if_pos needs, if_neg absent, if_pos (by simp [present]), List.map_cons, repair,
            if_pos needs]
          refine congrArg _ (ih distinct fun edge recorded alsoNeeds again => ?_)
          rcases List.mem_cons.mp again with same | before
          · exact apart (giveOwner_inj needs alsoNeeds same.symm ▸ recorded)
          · exact new edge recorded alsoNeeds before
      · rw [if_neg needs, if_pos (by simp [needs]), List.map_cons, repair, if_neg needs]
        exact congrArg _ (ih distinct new)

/-- **Repairing a name fills in its owner.** -/
theorem backfill_eq_filled (distinct : edges.Nodup) (name owner : String) :
    backfill edges name owner =
      filled (fun other => if other == name then some owner else none) edges := by
  have form : fill (fun other => if other == name then some owner else none) =
      repair name owner := funext fun edge => (repair_eq_fill name owner edge).symm
  rw [backfill, backfillCounted, backfillFrom_of_nodup distinct fun _ _ _ => List.not_mem_nil,
    filled, form]
  refine congrArg _ (List.filter_congr fun edge _ => decide_eq_decide.mpr ?_)
  rw [List.mem_filter, repair]
  by_cases needs : needsOwner name edge = true
  · have complete : needsOwner name (giveOwner owner edge) = false := not_needsOwner_giveOwner
    have changed : giveOwner owner edge ≠ edge := by
      intro same
      rw [same, needs] at complete
      cases complete
    simp [needs, changed, complete]
  · simp [needs]

/-- **Repairs of several names fill in all their owners**, and drop what is a duplicate then. -/
theorem backfillAll_eq_filled {repairs : List (String × String)} (distinct : edges.Nodup) :
    repairs.foldl (fun edges repair => backfill edges repair.1 repair.2) edges =
      filled (fun name => repairs.lookup name) edges := by
  induction repairs generalizing edges with
  | nil => exact (filled_none edges).symm
  | cons first rest ih =>
      obtain ⟨name, owner⟩ := first
      rw [List.foldl_cons, ih (nodup_backfill distinct), backfill_eq_filled distinct,
        filled_filled]
      congr 1
      funext other
      rw [List.lookup_cons]
      cases other == name <;> rfl

end SchemaPlan.EdgeList
