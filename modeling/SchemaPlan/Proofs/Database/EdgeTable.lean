import SchemaPlan.Proofs.Database.EdgeRow
import SchemaPlan.Proofs.Edge.Sink

/-!
# The table of records

Two stages share a table, and each sees only its own rows.  As far as a stage is
concerned, the table is a list of records (`Lists`): inserting a row is adding the
record, deleting the rows of the stage leaves nothing, and filling in owners in the
rows is filling them in in the records.  The rows of the other stage are not touched,
because a row repeats only rows of its own stage.

Owners are filled in row by row, and a row whose filled-in form is there already stays
behind and is deleted in the end.  The list drops such a record at once.  Both ask for
the same: whether the repaired record is among the complete ones or among those
repaired before.
-/

set_option autoImplicit false

namespace SchemaPlan

/-- A made record stays one when an owner in stored form is filled in. -/
theorem Edge.IsMade.giveOwner {edge : Edge} (made : edge.IsMade) {owner : String}
    (stored : ObjectRef.normalizeOwner (some owner) = some owner) :
    (EdgeList.giveOwner owner edge).IsMade := by
  refine ⟨made.object, fun dependency isGiven => ?_⟩
  obtain ⟨bare, needed, rfl⟩ := Option.map_eq_some_iff.mp isGiven
  exact (made.dependency bare needed).withOwner stored

namespace EdgeList

variable {name owner : String} {edge : Edge} {complete repaired finished rest : List Edge}

/-- A list keeps up with the table when the records of `finished` have had their turn
and those of `rest` have not: the ones that need no owner are those that the list knows
as complete or as repaired. -/
structure KeepsUp (name : String) (complete repaired finished rest : List Edge) : Prop where
  made : ∀ one ∈ finished ++ rest, one.IsMade
  known : ∀ one, needsOwner name one = false →
    (one ∈ finished ++ rest ↔ one ∈ complete ∨ one ∈ repaired)

theorem keepsUp_start {records : List Edge} (made : ∀ one ∈ records, one.IsMade) :
    KeepsUp name (records.filter fun one => !needsOwner name one) [] [] records where
  made := made
  known one whole := by simp [whole]

namespace KeepsUp

theorem made_head (keepsUp : KeepsUp name complete repaired finished (edge :: rest)) :
    edge.IsMade :=
  keepsUp.made edge (by simp)

theorem made_others (keepsUp : KeepsUp name complete repaired finished (edge :: rest)) :
    ∀ one ∈ finished ++ rest, one.IsMade := by
  intro one member
  refine keepsUp.made one (List.mem_append.mpr ((List.mem_append.mp member).imp_right ?_))
  exact List.mem_cons_of_mem edge

/-- A record has its turn and stays as it is. -/
theorem leave (keepsUp : KeepsUp name complete repaired finished (edge :: rest)) :
    KeepsUp name complete repaired (finished ++ [edge]) rest := by
  have same : (finished ++ [edge]) ++ rest = finished ++ edge :: rest := by simp
  exact ⟨same ▸ keepsUp.made, same ▸ keepsUp.known⟩

/-- A record that needs an owner makes no difference to what is known. -/
theorem known_others (keepsUp : KeepsUp name complete repaired finished (edge :: rest))
    (needs : needsOwner name edge = true) {one : Edge} (whole : needsOwner name one = false) :
    one ∈ finished ++ rest ↔ one ∈ complete ∨ one ∈ repaired := by
  have differs : one ≠ edge := by
    rintro rfl
    rw [whole] at needs
    cases needs
  rw [← keepsUp.known one whole]
  simp [differs]

theorem mem_giveOwner_iff (keepsUp : KeepsUp name complete repaired finished (edge :: rest))
    (needs : needsOwner name edge = true) :
    giveOwner owner edge ∈ finished ++ rest ↔
      giveOwner owner edge ∈ complete ∨ giveOwner owner edge ∈ repaired :=
  keepsUp.known_others needs not_needsOwner_giveOwner

/-- A record has its turn and is given the owner. -/
theorem give (keepsUp : KeepsUp name complete repaired finished (edge :: rest))
    (needs : needsOwner name edge = true)
    (stored : ObjectRef.normalizeOwner (some owner) = some owner) :
    KeepsUp name complete (giveOwner owner edge :: repaired)
      (finished ++ [giveOwner owner edge]) rest where
  made one member := by
    rw [List.append_assoc, List.mem_append, List.singleton_append, List.mem_cons] at member
    rcases member with before | rfl | later
    · exact keepsUp.made_others one (List.mem_append_left _ before)
    · exact keepsUp.made_head.giveOwner stored
    · exact keepsUp.made_others one (List.mem_append_right _ later)
  known one whole := by
    have before := keepsUp.known_others needs whole
    rw [List.mem_append] at before
    rw [List.mem_append, List.mem_append, List.mem_singleton, List.mem_cons, or_right_comm, before,
      or_assoc, or_comm (a := one ∈ repaired)]

end KeepsUp

end EdgeList

namespace EdgeRow

variable {stage other : EdgeStage} {edge : Edge} {row : EdgeRow} {rows done added : List EdgeRow}
  {records : List Edge} {name owner : String}

/-- The rows of a table that belong to a stage are those of some records, in their
order. -/
def Lists (rows : List EdgeRow) (stage : EdgeStage) (records : List Edge) : Prop :=
  rows.filter (isOf stage) = records.map (ofEdge stage)

/-! ## Inserting -/

/-- **Among the rows of made records a row repeats one** if it is that of one of them. -/
theorem any_repeats (lists : Lists rows stage records) (allMade : ∀ one ∈ records, one.IsMade)
    (made : edge.IsMade) : rows.any (ofEdge stage edge).repeats = decide (edge ∈ records) := by
  rw [Bool.eq_iff_iff, List.any_eq_true, decide_eq_true_eq]
  constructor
  · rintro ⟨row, inRows, repeats⟩
    have listed : row ∈ rows.filter (isOf stage) :=
      List.mem_filter.mpr ⟨inRows, isOf_of_repeats repeats (isOf_ofEdge.mpr rfl)⟩
    rw [lists] at listed
    obtain ⟨one, member, rfl⟩ := List.mem_map.mp listed
    rwa [(repeats_ofEdge made (allMade one member)).mp repeats]
  · intro member
    have listed : ofEdge stage edge ∈ rows.filter (isOf stage) := by
      rw [lists]
      exact List.mem_map_of_mem member
    exact ⟨_, (List.mem_filter.mp listed).1, (repeats_ofEdge made made).mpr rfl⟩

/-- **Inserting a row is adding the record** to those of its stage. -/
theorem Lists.insertInto (lists : Lists rows stage records)
    (allMade : ∀ one ∈ records, one.IsMade) (made : edge.IsMade) :
    Lists (insertInto rows (ofEdge stage edge)) stage (EdgeList.add records edge) := by
  rw [EdgeRow.insertInto, any_repeats lists allMade made, EdgeList.add]
  by_cases present : edge ∈ records
  · rw [if_pos (decide_eq_true present), if_pos present]
    exact lists
  · rw [if_neg (by simpa using present), if_neg present, Lists, List.filter_append, lists,
      List.map_append, List.map_singleton, List.filter_cons_of_pos (isOf_ofEdge.mpr rfl),
      List.filter_nil]

/-- A row that is inserted for one stage does not show in the other one. -/
theorem filter_insertInto_other (apart : ¬ row.isOf other = true) :
    (insertInto rows row).filter (isOf other) = rows.filter (isOf other) := by
  rw [insertInto]
  split
  · rfl
  · rw [List.filter_append, List.filter_cons_of_neg apart, List.filter_nil, List.append_nil]

theorem Lists.insertInto_other (lists : Lists rows other records) (differs : stage ≠ other) :
    Lists (EdgeRow.insertInto rows (ofEdge stage edge)) other records :=
  (filter_insertInto_other (mt isOf_ofEdge.mp differs)).trans lists

theorem filter_foldl_insertInto_other (apart : ∀ row ∈ added, ¬ row.isOf other = true) :
    (added.foldl insertInto rows).filter (isOf other) = rows.filter (isOf other) := by
  induction added generalizing rows with
  | nil => rfl
  | cons first rest ih =>
      rw [List.foldl_cons, ih fun row member => apart row (List.mem_cons_of_mem _ member),
        filter_insertInto_other (apart first List.mem_cons_self)]

/-- A row that is there after some have been inserted was there before or is one of them. -/
theorem mem_foldl_insertInto (member : row ∈ added.foldl insertInto rows) :
    row ∈ rows ∨ row ∈ added := by
  induction added generalizing rows with
  | nil => exact .inl member
  | cons first rest ih =>
      rcases ih member with before | later
      · rw [insertInto] at before
        split at before
        · exact .inl before
        · rw [List.mem_append, List.mem_singleton] at before
          exact before.imp_right fun same => List.mem_cons.mpr (.inl same)
      · exact .inr (List.mem_cons_of_mem _ later)

/-! ## Deleting -/

/-- **Deleting the rows of a stage** leaves none of them. -/
theorem lists_delete (rows : List EdgeRow) (stage : EdgeStage) :
    Lists (rows.filter fun row => !row.isOf stage) stage [] := by
  rw [Lists, List.filter_filter, List.map_nil, List.filter_eq_nil_iff]
  intro row _
  simp

/-- Rows that are deleted for one stage do not show in the other one. -/
theorem filter_delete_other (differs : stage ≠ other) :
    (rows.filter fun row => !row.isOf stage).filter (isOf other) = rows.filter (isOf other) := by
  rw [List.filter_filter]
  refine List.filter_congr fun row _ => ?_
  rw [Bool.eq_iff_iff, Bool.and_eq_true, Bool.not_eq_true', and_iff_left_iff_imp]
  intro isOther
  exact Bool.eq_false_iff.mpr fun isStage => differs (eq_of_isOf isStage isOther)

theorem Lists.delete_other (lists : Lists rows other records) (differs : stage ≠ other) :
    Lists (rows.filter fun row => !row.isOf stage) other records :=
  (filter_delete_other differs).trans lists

/-! ## Filling in owners -/

/-- The row with an owner of the dependency. -/
def owned (owner : String) (row : EdgeRow) : EdgeRow := { row with dependencyOwner := some owner }

theorem fillOwners_cons {row : EdgeRow} {rest : List EdgeRow} :
    (fillOwners stage name owner done (row :: rest)).1 =
      if row.needsOwner stage name then
        if (done ++ rest).any (row.owned owner).repeats then
          (fillOwners stage name owner (done ++ [row]) rest).1
        else (fillOwners stage name owner (done ++ [row.owned owner]) rest).1
      else (fillOwners stage name owner (done ++ [row]) rest).1 := by
  rw [fillOwners]
  by_cases needs : row.needsOwner stage name = true
  · by_cases present : (done ++ rest).any (row.owned owner).repeats = true
    · rw [if_pos needs, if_pos needs, if_pos present]
      exact congrArg Prod.fst (if_pos present)
    · rw [if_pos needs, if_pos needs, if_neg present]
      exact (congrArg Prod.fst (if_neg present)).trans rfl
  · rw [if_neg needs, if_neg needs]

/-- Whether a row of a stage repeats one is told by the rows of its stage. -/
theorem any_filter_repeats {row : EdgeRow} (isOfStage : row.isOf stage = true) :
    (rows.filter (isOf stage)).any row.repeats = rows.any row.repeats := by
  rw [List.any_filter]
  refine congrArg (List.any rows) (funext fun one => ?_)
  rw [Bool.and_eq_right_iff_imp]
  exact fun repeats => isOf_of_repeats repeats isOfStage

/-- What becomes of the rows of a stage is told by these rows. -/
theorem filter_fillOwners : (fillOwners stage name owner done rows).1.filter (isOf stage) =
    (fillOwners stage name owner (done.filter (isOf stage)) (rows.filter (isOf stage))).1 := by
  induction rows generalizing done with
  | nil => rfl
  | cons row rest ih =>
      by_cases isOfStage : row.isOf stage = true
      · have ownedToo : (row.owned owner).isOf stage = true := isOfStage
        have asked : ((done.filter (isOf stage)) ++ rest.filter (isOf stage)).any
            (row.owned owner).repeats = (done ++ rest).any (row.owned owner).repeats := by
          rw [← List.filter_append, any_filter_repeats ownedToo]
        rw [List.filter_cons_of_pos isOfStage, fillOwners_cons, fillOwners_cons, asked]
        split
        · split
          · rw [ih, List.filter_append, List.filter_cons_of_pos isOfStage, List.filter_nil]
          · rw [ih, List.filter_append, List.filter_cons_of_pos ownedToo, List.filter_nil]
        · rw [ih, List.filter_append, List.filter_cons_of_pos isOfStage, List.filter_nil]
      · have needless : ¬ row.needsOwner stage name = true := by
          rw [needsOwner, Bool.and_eq_true]
          exact fun needs => isOfStage needs.1
        rw [List.filter_cons_of_neg isOfStage, fillOwners_cons, if_neg needless, ih,
          List.filter_append, List.filter_cons_of_neg isOfStage, List.filter_nil, List.append_nil]

/-- The rows of another stage stay as they are. -/
theorem filter_fillOwners_other (differs : stage ≠ other) :
    (fillOwners stage name owner done rows).1.filter (isOf other) =
      (done ++ rows).filter (isOf other) := by
  induction rows generalizing done with
  | nil => rw [List.append_nil]; rfl
  | cons row rest ih =>
      have onwards : ∀ one : EdgeRow, (one = row ∨ row.isOf stage = true ∧ one = row.owned owner) →
          (fillOwners stage name owner (done ++ [one]) rest).1.filter (isOf other) =
            (done ++ row :: rest).filter (isOf other) := by
        intro one isOne
        have same : [one].filter (isOf other) = [row].filter (isOf other) := by
          rcases isOne with rfl | ⟨isOfStage, rfl⟩
          · rfl
          · have apart : ¬ row.isOf other = true := fun isOther =>
              differs (eq_of_isOf isOfStage isOther)
            have ownedToo : ¬ (row.owned owner).isOf other = true := apart
            rw [List.filter_cons_of_neg apart, List.filter_cons_of_neg ownedToo]
        rw [ih, List.append_assoc, List.filter_append, List.filter_append, same,
          ← List.filter_append, ← List.filter_append, List.singleton_append]
      rw [fillOwners_cons]
      split
      · next needs =>
        have isOfStage := (Bool.and_eq_true _ _ ▸ needs).1
        split
        · exact onwards row (.inl rfl)
        · exact onwards _ (.inr ⟨isOfStage, rfl⟩)
      · exact onwards row (.inl rfl)

theorem needsOwner_ofEdge :
    (ofEdge stage edge).needsOwner stage name = EdgeList.needsOwner name edge := by
  rw [needsOwner, isOf_ofEdge.mpr rfl, Bool.true_and, lacksOwner, EdgeList.needsOwner]
  cases needed : edge.dependency with
  | none => simp [ofEdge, needed]
  | some dependency => simp [ofEdge, needed, Bool.and_comm, beq_eq_decide]

theorem owned_ofEdge (needs : EdgeList.needsOwner name edge = true) :
    (ofEdge stage edge).owned owner = ofEdge stage (EdgeList.giveOwner owner edge) := by
  obtain ⟨dependency, needed, _⟩ := (Option.any_eq_true _ _).mp needs
  simp [owned, ofEdge, EdgeList.giveOwner, needed]

/-- The rows of made records, and only they, are among the rows of a stage. -/
theorem any_repeats_map (allMade : ∀ one ∈ records, one.IsMade) (made : edge.IsMade) :
    (records.map (ofEdge stage)).any (ofEdge stage edge).repeats = decide (edge ∈ records) := by
  refine any_repeats (List.filter_eq_self.mpr fun row member => ?_) allMade made
  obtain ⟨one, _, rfl⟩ := List.mem_map.mp member
  exact isOf_ofEdge.mpr rfl

/-- **Filling in owners in the rows of records** is filling them in in the records. -/
theorem fillOwners_map (stored : ObjectRef.normalizeOwner (some owner) = some owner)
    {finished rest complete repaired : List Edge}
    (keepsUp : EdgeList.KeepsUp name complete repaired finished rest) :
    (fillOwners stage name owner (finished.map (ofEdge stage)) (rest.map (ofEdge stage))).1.filter
        (fun row => !row.needsOwner stage name) =
      ((finished.filter fun one => !EdgeList.needsOwner name one) ++
        (EdgeList.backfillFrom name owner complete repaired rest).1).map (ofEdge stage) := by
  induction rest generalizing finished repaired with
  | nil =>
      rw [List.map_nil, fillOwners, EdgeList.backfillFrom, List.append_nil, List.filter_map]
      refine congrArg (List.map _) (List.filter_congr fun one _ => ?_)
      rw [Function.comp_apply, needsOwner_ofEdge]
  | cons edge rest ih =>
      have add_map : ∀ one, finished.map (ofEdge stage) ++ [ofEdge stage one] =
          (finished ++ [one]).map (ofEdge stage) := fun one => by simp
      rw [List.map_cons, fillOwners_cons, EdgeList.backfillFrom_cons, needsOwner_ofEdge]
      by_cases needs : EdgeList.needsOwner name edge = true
      · have asked := @any_repeats_map stage _ _ keepsUp.made_others
          (keepsUp.made_head.giveOwner stored)
        rw [if_pos needs, if_pos needs, owned_ofEdge needs, ← List.map_append, asked]
        by_cases present : EdgeList.giveOwner owner edge ∈ complete ∨
            EdgeList.giveOwner owner edge ∈ repaired
        · rw [if_pos (decide_eq_true ((keepsUp.mem_giveOwner_iff needs).mpr present)),
            if_pos present, add_map, ih keepsUp.leave, List.filter_append,
            List.filter_cons_of_neg (by simpa using needs), List.filter_nil, List.append_nil]
        · rw [if_neg (by simpa using mt (keepsUp.mem_giveOwner_iff needs).mp present),
            if_neg present, add_map, ih (keepsUp.give needs stored), List.filter_append,
            List.filter_cons_of_pos (by simp [EdgeList.not_needsOwner_giveOwner]), List.filter_nil,
            List.append_assoc, List.singleton_append]
      · rw [if_neg needs, if_neg needs, add_map, ih keepsUp.leave, List.filter_append,
          List.filter_cons_of_pos (by simpa using needs), List.filter_nil, List.append_assoc,
          List.singleton_append]

/-- What has been filled in is left after those rows that still lack the owner are deleted. -/
theorem Lists.backfill (lists : Lists rows stage records) (allMade : ∀ one ∈ records, one.IsMade)
    (stored : ObjectRef.normalizeOwner (some owner) = some owner) :
    Lists (EdgeRow.backfill stage name owner rows).1 stage
      (EdgeList.backfill records name owner) := by
  have filled := @fillOwners_map stage name owner stored [] records _ []
    (EdgeList.keepsUp_start allMade)
  rw [Lists, EdgeRow.backfill, List.filter_filter]
  simp only [Bool.and_comm (isOf stage _)]
  rw [← List.filter_filter, filter_fillOwners, List.filter_nil, lists]
  exact filled

theorem Lists.backfill_other (lists : Lists rows other records) (differs : stage ≠ other) :
    Lists (EdgeRow.backfill stage name owner rows).1 other records := by
  rw [Lists, EdgeRow.backfill, List.filter_filter, ← lists]
  have kept : ∀ row : EdgeRow, (row.isOf other && !row.needsOwner stage name) = row.isOf other := by
    intro row
    rw [Bool.and_eq_left_iff_imp, needsOwner]
    intro isOther
    have notStage : row.isOf stage = false :=
      Bool.eq_false_iff.mpr fun isStage => differs (eq_of_isOf isStage isOther)
    rw [notStage]
    rfl
  simp only [kept]
  exact filter_fillOwners_other differs

/-! ## Reading and counting -/

theorem mapM_toEdge (allMade : ∀ one ∈ records, one.IsMade) :
    (records.map (ofEdge stage)).mapM toEdge = .ok records :=
  Outcome.mapM_map_eq_ok fun one member => toEdge_ofEdge (allMade one member)

/-- **Reading the rows of a stage** gives the records. -/
theorem Lists.read (lists : Lists rows stage records) (allMade : ∀ one ∈ records, one.IsMade) :
    (rows.filter (isOf stage)).mapM toEdge = .ok records := by
  rw [lists, mapM_toEdge allMade]

/-- **Counting the rows of a stage** is counting the records. -/
theorem Lists.count (lists : Lists rows stage records) (status : Option EdgeStatus) :
    (rows.countP fun row => row.isOf stage && status.all fun status => row.status == status.name) =
      records.countP fun edge => status.all fun status => decide (edge.status = status) := by
  simp only [Bool.and_comm (isOf stage _)]
  rw [← List.countP_filter, lists, List.countP_map]
  refine List.countP_congr fun edge _ => ?_
  cases status with
  | none => rfl
  | some status =>
      rw [Function.comp_apply, Option.all_some, Option.all_some, beq_iff_eq, decide_eq_true_eq]
      exact ⟨EdgeStatus.name_injective, congrArg EdgeStatus.name⟩

end EdgeRow

end SchemaPlan
