import Mathlib.Data.List.Nodup
import SchemaPlan.Edge.Sink

/-!
# Lists of records

A record is added to a list unless it is there already.  So a list has the records
added to it besides its own, and each once if it had its own once.

Filling in the owner of a dependency changes a list of records as if it were a
set: the records afterwards are the repaired forms of the records before.  What
is dropped equals a record that stays.  So it does not matter that the names are
worked through one after the other: each record gets its owner once.
-/

set_option autoImplicit false

namespace SchemaPlan.EdgeList

/-! ## Adding records -/

theorem mem_add {edges : List Edge} {edge other : Edge} :
    other ∈ add edges edge ↔ other ∈ edges ∨ other = edge := by
  rw [add]
  split
  · next present =>
    exact ⟨.inl, fun either => either.elim id fun same => same ▸ present⟩
  · simp

theorem nodup_add {edges : List Edge} (distinct : edges.Nodup) (edge : Edge) :
    (add edges edge).Nodup := by
  rw [add]
  split
  · exact distinct
  · next new =>
    refine List.nodup_append.mpr ⟨distinct, List.nodup_singleton _, ?_⟩
    intro old member other here same
    rw [List.mem_singleton] at here
    exact new (here ▸ same ▸ member)

theorem nodup_append {edges : List Edge} (distinct : edges.Nodup) (records : List Edge) :
    (append edges records).Nodup := by
  induction records generalizing edges with
  | nil => exact distinct
  | cons first rest ih => exact ih (nodup_add distinct first)

/-- Records that are all new are added as they are. -/
theorem append_eq {edges records : List Edge} (distinct : (edges ++ records).Nodup) :
    append edges records = edges ++ records := by
  induction records generalizing edges with
  | nil => exact (List.append_nil edges).symm
  | cons first rest ih =>
      have new : first ∉ edges := by
        intro old
        exact (List.nodup_append.mp distinct).2.2 first old first List.mem_cons_self rfl
      have added : add edges first = edges ++ [first] := if_neg new
      have split : edges ++ first :: rest = (edges ++ [first]) ++ rest := by simp
      rw [split] at distinct ⊢
      rw [append, List.foldl_cons, added]
      exact ih distinct

/-! ## Filling in owners -/

variable {name owner : String}

/-- A record with the owner filled in where it is asked for. -/
def repair (name owner : String) (edge : Edge) : Edge :=
  if needsOwner name edge then giveOwner owner edge else edge

/-- A record that has been repaired needs no owner. -/
theorem not_needsOwner_giveOwner {edge : Edge} :
    needsOwner name (giveOwner owner edge) = false := by
  rw [needsOwner, giveOwner]
  cases edge.dependency <;> rfl

theorem backfillFrom_cons {complete repaired : List Edge} {first : Edge} {rest : List Edge} :
    (backfillFrom name owner complete repaired (first :: rest)).1 =
      if needsOwner name first then
        if giveOwner owner first ∈ complete ∨ giveOwner owner first ∈ repaired then
          (backfillFrom name owner complete repaired rest).1
        else giveOwner owner first ::
          (backfillFrom name owner complete (giveOwner owner first :: repaired) rest).1
      else first :: (backfillFrom name owner complete repaired rest).1 := by
  rw [backfillFrom]
  by_cases needs : needsOwner name first = true
  · simp only [needs, if_true]
    split <;> rfl
  · simp only [needs]
    rfl

/-- Nothing but the repaired forms of the records is kept, and all of them
unless they are among the complete or repaired ones. -/
theorem mem_backfillFrom {complete repaired edges : List Edge} {edge : Edge} :
    (edge ∈ (backfillFrom name owner complete repaired edges).1 →
      ∃ old ∈ edges, repair name owner old = edge) ∧
    ∀ old ∈ edges, repair name owner old ∈ (backfillFrom name owner complete repaired edges).1 ∨
      needsOwner name old = true ∧
        (repair name owner old ∈ complete ∨ repair name owner old ∈ repaired) := by
  induction edges generalizing repaired with
  | nil => simp [backfillFrom]
  | cons first rest ih =>
      rw [backfillFrom_cons]
      split
      · next needs =>
        have fixed : repair name owner first = giveOwner owner first := if_pos needs
        split
        · next present =>
          obtain ⟨sound, all⟩ := @ih repaired
          refine ⟨fun member => ?_, fun old member => ?_⟩
          · obtain ⟨old, later, same⟩ := sound member
            exact ⟨old, List.mem_cons_of_mem _ later, same⟩
          · rcases List.mem_cons.mp member with rfl | later
            · exact .inr ⟨needs, fixed ▸ present⟩
            · exact all old later
        · obtain ⟨sound, all⟩ := @ih (giveOwner owner first :: repaired)
          refine ⟨fun member => ?_, fun old member => ?_⟩
          · rcases List.mem_cons.mp member with same | inRest
            · exact ⟨first, List.mem_cons_self, fixed.trans same.symm⟩
            · obtain ⟨old, later, same⟩ := sound inRest
              exact ⟨old, List.mem_cons_of_mem _ later, same⟩
          · rcases List.mem_cons.mp member with rfl | later
            · exact .inl (fixed ▸ List.mem_cons_self)
            · rcases all old later with kept | ⟨needsToo, inComplete | inRepaired⟩
              · exact .inl (List.mem_cons_of_mem _ kept)
              · exact .inr ⟨needsToo, .inl inComplete⟩
              · rcases List.mem_cons.mp inRepaired with same | before
                · exact .inl (same ▸ List.mem_cons_self)
                · exact .inr ⟨needsToo, .inr before⟩
      · next whole =>
        have unchanged : repair name owner first = first := if_neg whole
        obtain ⟨sound, all⟩ := @ih repaired
        refine ⟨fun member => ?_, fun old member => ?_⟩
        · rcases List.mem_cons.mp member with same | inRest
          · exact ⟨first, List.mem_cons_self, unchanged.trans same.symm⟩
          · obtain ⟨old, later, same⟩ := sound inRest
            exact ⟨old, List.mem_cons_of_mem _ later, same⟩
        · rcases List.mem_cons.mp member with rfl | later
          · rw [unchanged]
            exact .inl List.mem_cons_self
          · exact (all old later).imp_left (List.mem_cons_of_mem _)

/-- **Filling in owners repairs every record** and adds nothing. -/
theorem mem_backfill {edges : List Edge} {edge : Edge} :
    edge ∈ backfill edges name owner ↔ ∃ old ∈ edges, repair name owner old = edge := by
  rw [backfill, backfillCounted]
  constructor
  · exact fun member => mem_backfillFrom.1 member
  · rintro ⟨old, member, rfl⟩
    obtain ⟨_, all⟩ := @mem_backfillFrom name owner
      (edges.filter fun edge => !needsOwner name edge) [] edges old
    rcases all old member with kept | ⟨_, inComplete | inNothing⟩
    · exact kept
    · -- A record that was complete from the start is its own repaired form.
      obtain ⟨whole, isComplete⟩ := List.mem_filter.mp inComplete
      have incomplete : ¬ needsOwner name (repair name owner old) = true := by
        simpa using isComplete
      rcases all _ whole with kept | ⟨needs, _⟩
      · rw [repair, if_neg incomplete] at kept
        exact kept
      · exact absurd needs incomplete
    · exact absurd inNothing List.not_mem_nil

/-- Records that are distinct stay so: a repaired record that is kept is none of those
kept before and none of those that were complete. -/
theorem nodup_backfillFrom {complete repaired edges : List Edge} (distinct : edges.Nodup)
    (whole : ∀ edge ∈ edges, needsOwner name edge = false → edge ∈ complete) :
    (backfillFrom name owner complete repaired edges).1.Nodup ∧
      ∀ edge ∈ (backfillFrom name owner complete repaired edges).1,
        edge ∈ edges ∧ needsOwner name edge = false ∨ edge ∉ complete ∧ edge ∉ repaired := by
  induction edges generalizing repaired with
  | nil => simp [backfillFrom]
  | cons first rest ih =>
      obtain ⟨new, distinct⟩ := List.nodup_cons.mp distinct
      have later := fun edge member => whole edge (List.mem_cons_of_mem first member)
      rw [backfillFrom_cons]
      split
      · split
        · obtain ⟨each, origin⟩ := @ih repaired distinct later
          exact ⟨each, fun edge kept =>
            (origin edge kept).imp_left fun old => ⟨List.mem_cons_of_mem _ old.1, old.2⟩⟩
        · next absent =>
          rw [not_or] at absent
          obtain ⟨each, origin⟩ := @ih (giveOwner owner first :: repaired) distinct later
          refine ⟨List.nodup_cons.mpr ⟨fun again => ?_, each⟩, fun edge kept => ?_⟩
          · rcases origin _ again with ⟨old, complete⟩ | ⟨_, unrepaired⟩
            · exact absent.1 (later _ old complete)
            · exact unrepaired List.mem_cons_self
          · rcases List.mem_cons.mp kept with rfl | kept
            · exact .inr absent
            · refine (origin edge kept).imp (fun old => ⟨List.mem_cons_of_mem _ old.1, old.2⟩) ?_
              exact fun apart => ⟨apart.1, fun member => apart.2 (List.mem_cons_of_mem _ member)⟩
      · next complete =>
        have isWhole : needsOwner name first = false := by simpa using complete
        obtain ⟨each, origin⟩ := @ih repaired distinct later
        refine ⟨List.nodup_cons.mpr ⟨fun again => ?_, each⟩, fun edge kept => ?_⟩
        · rcases origin _ again with ⟨old, _⟩ | ⟨incomplete, _⟩
          · exact new old
          · exact incomplete (whole first List.mem_cons_self isWhole)
        · rcases List.mem_cons.mp kept with rfl | kept
          · exact .inl ⟨List.mem_cons_self, isWhole⟩
          · exact (origin edge kept).imp_left fun old => ⟨List.mem_cons_of_mem _ old.1, old.2⟩

theorem nodup_backfill {edges : List Edge} (distinct : edges.Nodup) :
    (backfill edges name owner).Nodup := by
  refine (nodup_backfillFrom distinct fun edge member complete => ?_).1
  exact List.mem_filter.mpr ⟨member, by rw [complete]; rfl⟩

theorem prefix_backfillFrom {complete repaired first rest : List Edge}
    (whole : ∀ edge ∈ first, needsOwner name edge = false) :
    first <+: (backfillFrom name owner complete repaired (first ++ rest)).1 := by
  induction first with
  | nil => exact List.nil_prefix
  | cons edge others ih =>
      obtain ⟨isWhole, later⟩ := List.forall_mem_cons.mp whole
      rw [List.cons_append, backfillFrom_cons, isWhole, if_neg Bool.false_ne_true]
      exact (List.prefix_cons_inj edge).mpr (ih later)

/-- **Complete records at the front stay there.** -/
theorem prefix_backfill {edges first : List Edge} (isFirst : first <+: edges)
    (whole : ∀ edge ∈ first, needsOwner name edge = false) :
    first <+: backfill edges name owner := by
  obtain ⟨rest, rfl⟩ := isFirst
  exact prefix_backfillFrom whole

/-! ## Several names -/

/-- A record with the owner of its dependency filled in, where it has none. -/
def fill (ownerOf : String → Option String) (edge : Edge) : Edge :=
  { edge with
    dependency := edge.dependency.map fun dependency =>
      { dependency with owner := dependency.owner.or (ownerOf dependency.key.name) } }

variable {ownerOf : String → Option String}

theorem fill_congr {other : String → Option String} {edge : Edge}
    (same : ∀ dependency, edge.dependency = some dependency → dependency.owner = none →
      ownerOf dependency.key.name = other dependency.key.name) :
    fill ownerOf edge = fill other edge := by
  obtain ⟨status, object, dependency⟩ := edge
  cases dependency with
  | none => rfl
  | some dependency =>
      obtain ⟨owner, key⟩ := dependency
      cases owner with
      | none => simp [fill, same ⟨none, key⟩ rfl rfl]
      | some owner => rfl

/-- Where nothing is given for a name nothing is filled in. -/
theorem fill_none (edge : Edge) : fill (fun _ => none) edge = edge := by
  simp [fill]

/-- To repair one name first is to fill in the owner given for it. -/
theorem fill_repair {name owner : String} (edge : Edge) :
    fill ownerOf (repair name owner edge) =
      fill (fun other => if other == name then some owner else ownerOf other) edge := by
  obtain ⟨status, object, dependency⟩ := edge
  cases dependency with
  | none => rfl
  | some dependency =>
      obtain ⟨given, key⟩ := dependency
      cases given with
      | some given => rfl
      | none =>
          by_cases named : key.name = name
          · simp [fill, repair, needsOwner, giveOwner, named]
          · simp [fill, repair, needsOwner, named]

/-- **Repairs of several names fill in each owner once.** -/
theorem mem_backfillAll {repairs : List (String × String)} {edges : List Edge} {edge : Edge} :
    edge ∈ repairs.foldl (fun edges repair => backfill edges repair.1 repair.2) edges ↔
      ∃ old ∈ edges, fill (fun name => repairs.lookup name) old = edge := by
  induction repairs generalizing edges with
  | nil => simp [fill_none]
  | cons first rest ih =>
      obtain ⟨name, owner⟩ := first
      have once : ∀ old, fill (fun other => rest.lookup other) (repair name owner old) =
          fill (fun other => ((name, owner) :: rest).lookup other) old := by
        intro old
        rw [fill_repair]
        congr 1
        funext other
        rw [List.lookup_cons]
        cases other == name <;> rfl
      refine ih.trans ?_
      simp only [mem_backfill]
      constructor
      · rintro ⟨_, ⟨old, member, rfl⟩, rfl⟩
        exact ⟨old, member, (once old).symm⟩
      · rintro ⟨old, member, rfl⟩
        exact ⟨_, ⟨old, member, rfl⟩, once old⟩

theorem nodup_backfillAll {repairs : List (String × String)} {edges : List Edge}
    (distinct : edges.Nodup) :
    (repairs.foldl (fun edges repair => backfill edges repair.1 repair.2) edges).Nodup := by
  induction repairs generalizing edges with
  | nil => exact distinct
  | cons first rest ih => exact ih (nodup_backfill distinct)

theorem prefix_backfillAll {repairs : List (String × String)} {edges first : List Edge}
    (isFirst : first <+: edges)
    (whole : ∀ edge ∈ first, ∀ repair ∈ repairs, needsOwner repair.1 edge = false) :
    first <+: repairs.foldl (fun edges repair => backfill edges repair.1 repair.2) edges := by
  induction repairs generalizing edges with
  | nil => exact isFirst
  | cons repair rest ih =>
      refine ih (prefix_backfill isFirst fun edge member => ?_) fun edge member other later => ?_
      · exact whole edge member repair List.mem_cons_self
      · exact whole edge member other (List.mem_cons_of_mem _ later)

/-- A record that has been filled in needs no owner that is given. -/
theorem needsOwner_fill (edge : Edge) {name owner : String} (given : ownerOf name = some owner) :
    needsOwner name (fill ownerOf edge) = false := by
  obtain ⟨status, object, dependency⟩ := edge
  cases dependency with
  | none => rfl
  | some dependency =>
      obtain ⟨owner, key⟩ := dependency
      cases owner with
      | some owner => rfl
      | none =>
          by_cases named : key.name = name
          · simp [fill, needsOwner, named, given]
          · simp [fill, needsOwner, named]

/-- To fill in a record from two sources is to fill it in once, from the first source first. -/
theorem fill_or (other : String → Option String) (edge : Edge) :
    fill other (fill ownerOf edge) = fill (fun name => (ownerOf name).or (other name)) edge := by
  obtain ⟨status, object, dependency⟩ := edge
  cases dependency with
  | none => rfl
  | some dependency => simp [fill, Option.or_assoc]

/-- To fill in a record twice is to fill it in once. -/
theorem fill_fill (edge : Edge) : fill ownerOf (fill ownerOf edge) = fill ownerOf edge := by
  simp only [fill_or, Option.or_self]

/-- What a record says apart from the owner of its dependency. -/
def gist (edge : Edge) : EdgeStatus × ObjectRef × Option ObjectKey :=
  (edge.status, edge.object, edge.dependency.map (·.key))

theorem gist_fill (edge : Edge) : gist (fill ownerOf edge) = gist edge := by
  simp [gist, fill, Function.comp_def]

/-- Filling in owners keeps what records say apart from them. -/
theorem mem_map_gist_backfillAll {repairs : List (String × String)} {edges : List Edge}
    {said : EdgeStatus × ObjectRef × Option ObjectKey} :
    said ∈ (repairs.foldl (fun edges repair => backfill edges repair.1 repair.2) edges).map gist ↔
      said ∈ edges.map gist := by
  simp only [List.mem_map, mem_backfillAll]
  constructor
  · rintro ⟨_, ⟨old, member, rfl⟩, rfl⟩
    exact ⟨old, member, (gist_fill old).symm⟩
  · rintro ⟨old, member, rfl⟩
    exact ⟨_, ⟨old, member, rfl⟩, gist_fill old⟩

end SchemaPlan.EdgeList
