import Mathlib.Data.Finset.Dedup
import Mathlib.Data.Finset.Card
import Mathlib.Data.String.Basic
import SchemaPlan.Proofs.Collection
import SchemaPlan.Reference.Kind

/-!
# References as a finite set

References are kept in groups, one group for each kind.  The groups stand in ascending
order of kinds (`Ordered`), so a name is removed from its kind for good, and a group whose
last name is removed is closed, so none is ever without names (`Filled`).

References in such groups stand for a finite set of kinds with names (`Represents`): every
question is answered by the set, and there is one way only to group a set
(`WellGrouped.ext`).  Whatever is inserted and withdrawn, in whatever order, the set is that
of the pairs whose last insertion has not been followed by a withdrawal
(`represents_ofChanges`).
-/

set_option autoImplicit false

namespace SchemaPlan

namespace References

/-! ## Members -/

theorem mem_toList_insertInto {kind : ReferenceKind} {name : String} {groups : List KindNames}
    {mention : ReferenceKind × String} :
    mention ∈ (References.mk (insertInto kind name groups)).toList ↔
      mention = (kind, name) ∨ mention ∈ (References.mk groups).toList := by
  induction groups with
  | nil => simp [toList, insertInto, OrderedSet.insert, OrderedSet.place, OrderedSet.empty]
  | cons group rest ih =>
      rw [insertInto]
      split
      · simp [toList, OrderedSet.insert, OrderedSet.place, OrderedSet.empty]
      · next equal =>
        obtain rfl := Std.LawfulEqCmp.eq_of_compare equal
        have inGroup : ∀ other, other ∈ (group.names.insert name).toList ↔
            other = name ∨ other ∈ group.names.toList := fun other => OrderedSet.mem_insert
        simp only [toList, List.flatMap_cons, List.mem_append, List.mem_map, inGroup]
        constructor
        · rintro (⟨other, rfl | old, rfl⟩ | later)
          · exact .inl rfl
          · exact .inr (.inl ⟨other, old, rfl⟩)
          · exact .inr (.inr later)
        · rintro (rfl | ⟨other, old, rfl⟩ | later)
          · exact .inl ⟨name, .inl rfl, rfl⟩
          · exact .inl ⟨other, .inr old, rfl⟩
          · exact .inr later
      · have here : ∀ others, mention ∈ (References.mk (group :: others)).toList ↔
            mention ∈ group.names.toList.map (group.kind, ·) ∨
              mention ∈ (References.mk others).toList := fun others => List.mem_append
        rw [here, here, ih, or_left_comm]

theorem mem_toList_insert {references : References} {kind : ReferenceKind} {name : String}
    {mention : ReferenceKind × String} :
    mention ∈ (references.insert kind name).toList ↔
      mention = (kind, name) ∨ mention ∈ references.toList :=
  mem_toList_insertInto

theorem mem_toList_ofList {mentions : List (ReferenceKind × String)}
    {mention : ReferenceKind × String} :
    mention ∈ (ofList mentions).toList ↔ mention ∈ mentions := by
  have gathered : ∀ references : References,
      mention ∈ (mentions.foldl (fun references mention =>
        references.insert mention.1 mention.2) references).toList ↔
      mention ∈ references.toList ∨ mention ∈ mentions := by
    induction mentions with
    | nil => simp
    | cons first rest ih =>
        intro references
        rw [List.foldl_cons, ih, mem_toList_insert, List.mem_cons, or_comm (a := mention = _),
          or_assoc]
  exact (gathered empty).trans (or_iff_right List.not_mem_nil)

theorem mem_toList_of_removeFrom {kind : ReferenceKind} {name : String} {groups : List KindNames}
    {mention : ReferenceKind × String}
    (member : mention ∈ (References.mk (removeFrom kind name groups)).toList) :
    mention ∈ (References.mk groups).toList := by
  induction groups with
  | nil => exact member
  | cons group rest ih =>
      rw [removeFrom] at member
      split at member
      · dsimp only at member
        split at member
        · exact List.mem_append_right _ member
        · refine (List.mem_append.mp member).elim (fun here => ?_) (List.mem_append_right _)
          obtain ⟨other, kept, rfl⟩ := List.mem_map.mp here
          exact List.mem_append_left _ (List.mem_map_of_mem (List.mem_of_mem_filter kept))
      · exact (List.mem_append.mp member).elim (List.mem_append_left _)
          fun later => List.mem_append_right _ (ih later)

theorem mem_toList_of_remove {references : References} {kind : ReferenceKind} {name : String}
    {mention : ReferenceKind × String} (member : mention ∈ (references.remove kind name).toList) :
    mention ∈ references.toList :=
  mem_toList_of_removeFrom member

/-! ## Groups in order -/

/-- The kinds of the groups, one after the other. -/
def kinds (references : References) : List ReferenceKind := references.byKind.map (·.kind)

/-- The groups stand in ascending order of kinds. -/
def Ordered (references : References) : Prop := Ascending references.kinds

theorem kinds_insert (references : References) (kind : ReferenceKind) (name : String) :
    (references.insert kind name).kinds = OrderedSet.place kind references.kinds := by
  obtain ⟨groups⟩ := references
  induction groups with
  | nil => rfl
  | cons first rest ih =>
      simp only [References.insert, kinds, List.map_cons, insertInto, OrderedSet.place] at ih ⊢
      cases compare kind first.kind with
      | lt => rfl
      | eq => rfl
      | gt => exact congrArg (first.kind :: ·) ih

theorem kinds_remove (references : References) (kind : ReferenceKind) (name : String) :
    (references.remove kind name).kinds.Sublist references.kinds := by
  obtain ⟨groups⟩ := references
  induction groups with
  | nil => exact List.Sublist.refl _
  | cons first rest ih =>
      simp only [References.remove, kinds, List.map_cons, removeFrom] at ih ⊢
      split
      · split
        · exact List.sublist_cons_self _ _
        · exact List.Sublist.refl _
      · exact ih.cons_cons first.kind

theorem ordered_empty : empty.Ordered := List.Pairwise.nil

theorem Ordered.insert {references : References} (ordered : references.Ordered)
    (kind : ReferenceKind) (name : String) : (references.insert kind name).Ordered := by
  rw [Ordered, kinds_insert]
  exact OrderedSet.ascending_place ordered

theorem Ordered.remove {references : References} (ordered : references.Ordered)
    (kind : ReferenceKind) (name : String) : (references.remove kind name).Ordered :=
  List.Pairwise.sublist (kinds_remove references kind name) ordered

theorem ordered_ofList (mentions : List (ReferenceKind × String)) : (ofList mentions).Ordered := by
  have gathered : ∀ references : References, references.Ordered →
      (mentions.foldl (fun references mention =>
        references.insert mention.1 mention.2) references).Ordered := by
    induction mentions with
    | nil => exact fun _ ordered => ordered
    | cons first rest ih => exact fun references ordered => ih _ (ordered.insert first.1 first.2)
  exact gathered empty ordered_empty

/-! ## Names of a kind -/

theorem mem_toList_cons {group : KindNames} {rest : List KindNames}
    {mention : ReferenceKind × String} : mention ∈ (References.mk (group :: rest)).toList ↔
      (mention.1 = group.kind ∧ mention.2 ∈ group.names) ∨
        mention ∈ (References.mk rest).toList := by
  obtain ⟨kind, name⟩ := mention
  rw [toList, List.flatMap_cons, List.mem_append, List.mem_map]
  refine or_congr_left ⟨?_, ?_⟩
  · rintro ⟨other, member, same⟩
    obtain ⟨rfl, rfl⟩ := Prod.mk.inj same
    exact ⟨rfl, member⟩
  · rintro ⟨rfl, member⟩
    exact ⟨name, member, rfl⟩

/-- In groups in order no later group is of the kind of the first one. -/
theorem Ordered.kind_ne {group : KindNames} {rest : List KindNames}
    (ordered : (References.mk (group :: rest)).Ordered) {mention : ReferenceKind × String}
    (member : mention ∈ (References.mk rest).toList) : mention.1 ≠ group.kind := by
  obtain ⟨other, inRest, listed⟩ := List.mem_flatMap.mp member
  obtain ⟨name, _, rfl⟩ := List.mem_map.mp listed
  have before := (List.pairwise_cons.mp ordered).1 other.kind (List.mem_map_of_mem inRest)
  intro same
  dsimp only at same
  rw [same, Std.compare_self] at before
  cases before

theorem Ordered.tail {group : KindNames} {rest : List KindNames}
    (ordered : (References.mk (group :: rest)).Ordered) : (References.mk rest).Ordered :=
  (List.pairwise_cons.mp ordered).2

/-- **The names of a kind are those that are listed with the kind.** -/
theorem Ordered.mem_namesOf {references : References} (ordered : references.Ordered)
    {kind : ReferenceKind} {name : String} :
    name ∈ references.namesOf kind ↔ (kind, name) ∈ references.toList := by
  obtain ⟨groups⟩ := references
  induction groups with
  | nil => exact iff_of_false OrderedSet.not_mem_empty List.not_mem_nil
  | cons first rest ih =>
      rw [mem_toList_cons]
      by_cases sameKind : first.kind = kind
      · have notLater : (kind, name) ∉ (References.mk rest).toList := fun later =>
          ordered.kind_ne later sameKind.symm
        rw [or_iff_left notLater, and_iff_right sameKind.symm, namesOf,
          List.find?_cons_of_pos (by simpa using sameKind)]
      · rw [or_iff_right fun here => sameKind here.1.symm, ← ih ordered.tail, namesOf,
          List.find?_cons_of_neg (by simpa using sameKind)]
        rfl

/-- A group left with no names is dropped whole, so its kind then lists nothing. -/
theorem mem_toList_removeFrom_head {kind : ReferenceKind} {name : String} {first : KindNames}
    {rest : List KindNames} {mention : ReferenceKind × String} (sameKind : first.kind = kind) :
    mention ∈ (References.mk (removeFrom kind name (first :: rest))).toList ↔
      (mention.1 = first.kind ∧ mention.2 ∈ first.names.erase name) ∨
        mention ∈ (References.mk rest).toList := by
  rw [removeFrom, if_pos sameKind]
  dsimp only
  split
  · next none =>
    refine (or_iff_right fun here => ?_).symm
    rw [OrderedSet.isEmpty, List.isEmpty_iff] at none
    rw [OrderedSet.mem_def, none] at here
    exact List.not_mem_nil here.2
  · exact mem_toList_cons

/-- **What is removed is gone, and everything else stays.** -/
theorem Ordered.mem_toList_remove {references : References} (ordered : references.Ordered)
    {kind : ReferenceKind} {name : String} {mention : ReferenceKind × String} :
    mention ∈ (references.remove kind name).toList ↔
      mention ∈ references.toList ∧ mention ≠ (kind, name) := by
  obtain ⟨groups⟩ := references
  induction groups with
  | nil => exact iff_of_false List.not_mem_nil fun both => absurd both.1 List.not_mem_nil
  | cons first rest ih =>
      rw [mem_toList_cons]
      by_cases sameKind : first.kind = kind
      · have notLater : mention ∈ (References.mk rest).toList → mention ≠ (kind, name) := by
          rintro later rfl
          exact ordered.kind_ne later sameKind.symm
        refine (mem_toList_removeFrom_head sameKind).trans ?_
        rw [OrderedSet.mem_erase]
        constructor
        · rintro (⟨isKind, member, other⟩ | later)
          · exact ⟨.inl ⟨isKind, member⟩, fun same => other (congrArg Prod.snd same)⟩
          · exact ⟨.inr later, notLater later⟩
        · rintro ⟨⟨isKind, member⟩ | later, other⟩
          · exact .inl ⟨isKind, member, fun same => other (Prod.ext (isKind.trans sameKind) same)⟩
          · exact .inr later
      · have removed : removeFrom kind name (first :: rest) = first :: removeFrom kind name rest :=
          if_neg sameKind
        have otherKind : mention.1 = first.kind → mention ≠ (kind, name) := by
          rintro isKind rfl
          exact sameKind isKind.symm
        rw [References.remove, removed, mem_toList_cons]
        refine (or_congr_right (ih ordered.tail)).trans ?_
        constructor
        · rintro (here | ⟨later, other⟩)
          · exact ⟨.inl here, otherKind here.1⟩
          · exact ⟨.inr later, other⟩
        · rintro ⟨here | later, other⟩
          · exact .inl here
          · exact .inr ⟨later, other⟩

/-! ## Groups with names -/

/-- No kind has a group without names. -/
def Filled (references : References) : Prop :=
  ∀ group ∈ references.byKind, ∃ name, name ∈ group.names

/-- The groups stand in order, and none is without names. -/
structure WellGrouped (references : References) : Prop where
  ordered : references.Ordered
  filled : references.Filled

theorem filled_insertInto {kind : ReferenceKind} {name : String} {groups : List KindNames}
    (filled : (References.mk groups).Filled) :
    (References.mk (insertInto kind name groups)).Filled := by
  have fresh : ∃ other, other ∈ OrderedSet.empty.insert name :=
    ⟨name, OrderedSet.mem_insert.mpr (.inl rfl)⟩
  induction groups with
  | nil => exact List.forall_mem_singleton.mpr fresh
  | cons group rest ih =>
      obtain ⟨here, later⟩ := List.forall_mem_cons.mp filled
      rw [insertInto]
      split
      · exact List.forall_mem_cons.mpr ⟨fresh, filled⟩
      · exact List.forall_mem_cons.mpr ⟨⟨name, OrderedSet.mem_insert.mpr (.inl rfl)⟩, later⟩
      · exact List.forall_mem_cons.mpr ⟨here, ih later⟩

/-- A group that would be left without names is closed. -/
theorem filled_removeFrom {kind : ReferenceKind} {name : String} {groups : List KindNames}
    (filled : (References.mk groups).Filled) :
    (References.mk (removeFrom kind name groups)).Filled := by
  induction groups with
  | nil => exact filled
  | cons group rest ih =>
      obtain ⟨here, later⟩ := List.forall_mem_cons.mp filled
      rw [removeFrom]
      split
      · dsimp only
        split
        · exact later
        · next some =>
          rw [OrderedSet.isEmpty, List.isEmpty_iff] at some
          exact List.forall_mem_cons.mpr ⟨List.exists_mem_of_ne_nil _ some, later⟩
      · exact List.forall_mem_cons.mpr ⟨here, ih later⟩

theorem wellGrouped_empty : empty.WellGrouped :=
  ⟨ordered_empty, fun _ nothing => absurd nothing List.not_mem_nil⟩

theorem WellGrouped.insert {references : References} (grouped : references.WellGrouped)
    (kind : ReferenceKind) (name : String) : (references.insert kind name).WellGrouped :=
  ⟨grouped.ordered.insert kind name, filled_insertInto grouped.filled⟩

theorem WellGrouped.remove {references : References} (grouped : references.WellGrouped)
    (kind : ReferenceKind) (name : String) : (references.remove kind name).WellGrouped :=
  ⟨grouped.ordered.remove kind name, filled_removeFrom grouped.filled⟩

/-! ## Withdrawal -/

theorem withdrawFrom_eq (kind : ReferenceKind) (name : String) (groups : List KindNames) :
    withdrawFrom kind name groups =
      (removeFrom kind name groups, (References.mk groups).contains kind name) := by
  induction groups with
  | nil => simp [withdrawFrom, removeFrom, contains, namesOf, OrderedSet.contains]
  | cons group rest ih =>
      rw [withdrawFrom, removeFrom, contains, namesOf]
      by_cases sameKind : group.kind = kind
      · rw [if_pos sameKind, if_pos sameKind, List.find?_cons_of_pos (by simpa using sameKind)]
      · rw [if_neg sameKind, if_neg sameKind, ih,
          List.find?_cons_of_neg (by simpa using sameKind)]
        rfl

/-- **To withdraw a name is to remove it and to tell whether it was there.** -/
theorem withdraw_eq (references : References) (kind : ReferenceKind) (name : String) :
    references.withdraw kind name =
      (references.remove kind name, references.contains kind name) := by
  rw [withdraw, withdrawFrom_eq]
  rfl

/-! ## Sets of pairs -/

/-- One pair stands before another: by kind, and within a kind by name. -/
def Precedes (one other : ReferenceKind × String) : Prop :=
  one.1.rank < other.1.rank ∨ one.1 = other.1 ∧ one.2 < other.2

/-- References stand for a finite set of kinds with names.  Every question about them is
answered by the set, lists are in order, and every group has a name. -/
structure Represents (references : References) (members : Finset (ReferenceKind × String)) :
    Prop where
  contains : ∀ kind name, references.contains kind name = true ↔ (kind, name) ∈ members
  namesOf : ∀ kind name, name ∈ (references.namesOf kind).toList ↔ (kind, name) ∈ members
  namesInOrder : ∀ kind, (references.namesOf kind).toList.Pairwise (· < ·)
  toList : ∀ pair, pair ∈ references.toList ↔ pair ∈ members
  inOrder : references.toList.Pairwise Precedes
  size : references.size = members.card
  isEmpty : references.isEmpty = true ↔ members = ∅
  withdraw : ∀ kind name, (references.withdraw kind name).2 = true ↔ (kind, name) ∈ members
  groups : ∀ group ∈ references.byKind, ∃ name, name ∈ group.names

theorem pairwise_names (names : OrderedSet String) : names.toList.Pairwise (· < ·) :=
  names.ascending.imp compare_lt_iff_lt.mp

theorem Ordered.pairwise_toList {references : References} (ordered : references.Ordered) :
    references.toList.Pairwise Precedes := by
  refine List.pairwise_flatMap.mpr ⟨fun group _ => ?_, ?_⟩
  · exact List.pairwise_map.mpr ((pairwise_names group.names).imp fun before => .inr ⟨rfl, before⟩)
  · refine (List.pairwise_map.mp ordered).imp fun before one isOne other isOther => ?_
    obtain ⟨_, _, rfl⟩ := List.mem_map.mp isOne
    obtain ⟨_, _, rfl⟩ := List.mem_map.mp isOther
    exact .inl (Nat.compare_eq_lt.mp before)

theorem Precedes.ne {one other : ReferenceKind × String} (before : Precedes one other) :
    one ≠ other := by
  rintro rfl
  rcases before with less | ⟨_, less⟩
  · exact Nat.lt_irrefl _ less
  · exact lt_irrefl _ less

theorem size_eq_length (references : References) :
    references.size = references.toList.length := by
  obtain ⟨groups⟩ := references
  induction groups with
  | nil => rfl
  | cons group rest ih =>
      simp only [size, toList, List.foldr_cons, List.flatMap_cons, List.length_append,
        List.length_map] at ih ⊢
      rw [ih, OrderedSet.size]

/-- **Well grouped references stand for the set of the pairs that they list.** -/
theorem WellGrouped.represents {references : References} (grouped : references.WellGrouped) :
    references.Represents references.toList.toFinset := by
  have inOrder := grouped.ordered.pairwise_toList
  have named : ∀ kind name, name ∈ references.namesOf kind ↔
      (kind, name) ∈ references.toList.toFinset :=
    fun kind name => grouped.ordered.mem_namesOf.trans List.mem_toFinset.symm
  have contained : ∀ kind name, references.contains kind name = true ↔
      (kind, name) ∈ references.toList.toFinset :=
    fun kind name => decide_eq_true_iff.trans (named kind name)
  refine ⟨contained, named, fun kind => pairwise_names (references.namesOf kind),
    fun pair => List.mem_toFinset.symm, inOrder, ?_, ?_, fun kind name => ?_, grouped.filled⟩
  · rw [size_eq_length, List.toFinset_card_of_nodup (inOrder.imp Precedes.ne)]
  · rw [isEmpty, List.isEmpty_iff, List.toFinset_eq_empty_iff, toList, List.flatMap_eq_nil_iff]
    constructor
    · intro none
      rw [none]
      exact fun _ nothing => absurd nothing List.not_mem_nil
    · intro unlisted
      refine List.eq_nil_iff_forall_not_mem.mpr fun group member => ?_
      obtain ⟨name, isName⟩ := grouped.filled group member
      have listed := List.map_eq_nil_iff.mp (unlisted group member)
      rw [OrderedSet.mem_def, listed] at isName
      exact List.not_mem_nil isName
  · rw [withdraw_eq]
    exact contained kind name

/-! ## One way to group a set -/

theorem Ordered.byKind_eq {references : References} (ordered : references.Ordered) :
    references.byKind = references.kinds.map fun kind => ⟨kind, references.namesOf kind⟩ := by
  obtain ⟨groups⟩ := references
  induction groups with
  | nil => rfl
  | cons first rest ih =>
      have own : (References.mk (first :: rest)).namesOf first.kind = first.names := by
        rw [namesOf, List.find?_cons_of_pos (by simp)]
      have others : ∀ kind ∈ (References.mk rest).kinds,
          (References.mk (first :: rest)).namesOf kind = (References.mk rest).namesOf kind := by
        intro kind member
        have before := (List.pairwise_cons.mp ordered).1 kind member
        have differs : first.kind ≠ kind := by
          rintro rfl
          rw [Std.compare_self] at before
          cases before
        rw [namesOf, List.find?_cons_of_neg (by simpa using differs)]
        rfl
      rw [kinds, List.map_cons, List.map_cons, own]
      refine congrArg (first :: ·) ((ih ordered.tail).trans ?_)
      exact List.map_congr_left fun kind member => by rw [others kind member]

theorem WellGrouped.mem_kinds {references : References} (grouped : references.WellGrouped)
    {kind : ReferenceKind} :
    kind ∈ references.kinds ↔ ∃ name, (kind, name) ∈ references.toList := by
  constructor
  · intro member
    obtain ⟨group, isGroup, rfl⟩ := List.mem_map.mp member
    obtain ⟨name, isName⟩ := grouped.filled group isGroup
    exact ⟨name, List.mem_flatMap.mpr ⟨group, isGroup, List.mem_map_of_mem isName⟩⟩
  · rintro ⟨name, listed⟩
    obtain ⟨group, isGroup, inGroup⟩ := List.mem_flatMap.mp listed
    obtain ⟨_, _, same⟩ := List.mem_map.mp inGroup
    obtain ⟨rfl, _⟩ := Prod.mk.inj same
    exact List.mem_map_of_mem isGroup

/-- **Well grouped references are told by the pairs that they list.** -/
theorem WellGrouped.ext {first second : References} (grouped : first.WellGrouped)
    (alsoGrouped : second.WellGrouped)
    (same : ∀ pair, pair ∈ first.toList ↔ pair ∈ second.toList) : first = second := by
  have kinds : first.kinds = second.kinds := by
    have sets : (⟨first.kinds, grouped.ordered⟩ : OrderedSet ReferenceKind) =
        ⟨second.kinds, alsoGrouped.ordered⟩ := by
      refine OrderedSet.ext fun kind => ?_
      refine grouped.mem_kinds.trans (Iff.trans ?_ alsoGrouped.mem_kinds.symm)
      exact exists_congr fun name => same (kind, name)
    exact congrArg OrderedSet.toList sets
  have names : first.namesOf = second.namesOf := by
    funext kind
    refine OrderedSet.ext fun name => ?_
    rw [grouped.ordered.mem_namesOf, alsoGrouped.ordered.mem_namesOf, same]
  have groups : first.byKind = second.byKind := by
    rw [grouped.ordered.byKind_eq, alsoGrouped.ordered.byKind_eq, kinds, names]
  cases first
  cases second
  exact congrArg References.mk groups

end References

/-! ## Insertions and withdrawals -/

/-- A change of references. -/
inductive ReferenceChange where
  | insert (kind : ReferenceKind) (name : String)
  | withdraw (kind : ReferenceKind) (name : String)
deriving DecidableEq, Repr

namespace References

variable {changes : List ReferenceChange} {change : ReferenceChange}
  {pair : ReferenceKind × String}

/-- The references after a change. -/
def apply (references : References) : ReferenceChange → References
  | .insert kind name => references.insert kind name
  | .withdraw kind name => (references.withdraw kind name).1

/-- The references that changes make from none. -/
def ofChanges (changes : List ReferenceChange) : References := changes.foldl apply empty

/-- A pair has been inserted and has not been withdrawn since. -/
def Remains (changes : List ReferenceChange) (pair : ReferenceKind × String) : Prop :=
  ∃ earlier later, changes = earlier ++ .insert pair.1 pair.2 :: later ∧
    .withdraw pair.1 pair.2 ∉ later

theorem remains_concat : Remains (changes ++ [change]) pair ↔
    change = .insert pair.1 pair.2 ∨ change ≠ .withdraw pair.1 pair.2 ∧ Remains changes pair := by
  constructor
  · rintro ⟨earlier, later, same, kept⟩
    rcases List.eq_nil_or_concat later with rfl | ⟨others, last, rfl⟩
    · exact .inl (List.singleton_inj.mp (List.append_inj' same rfl).2)
    · rw [List.concat_eq_append, ← List.cons_append, ← List.append_assoc] at same
      obtain ⟨rfl, lasts⟩ := List.append_inj' same rfl
      obtain rfl := List.singleton_inj.mp lasts
      rw [List.concat_eq_append, List.mem_append, not_or, List.mem_singleton] at kept
      exact .inr ⟨fun isLast => kept.2 isLast.symm, earlier, others, rfl, kept.1⟩
  · rintro (rfl | ⟨differs, earlier, later, rfl, kept⟩)
    · exact ⟨changes, [], rfl, List.not_mem_nil⟩
    · refine ⟨earlier, later ++ [change], by simp, ?_⟩
      rw [List.mem_append, not_or, List.mem_singleton]
      exact ⟨kept, fun isLast => differs isLast.symm⟩

/-- **A change inserts one pair or withdraws one**, and keeps the groups in order and filled. -/
theorem WellGrouped.apply {references : References} (grouped : references.WellGrouped)
    (change : ReferenceChange) :
    (references.apply change).WellGrouped ∧ ∀ pair, pair ∈ (references.apply change).toList ↔
      change = .insert pair.1 pair.2 ∨
        change ≠ .withdraw pair.1 pair.2 ∧ pair ∈ references.toList := by
  cases change with
  | insert kind name =>
      refine ⟨grouped.insert kind name, fun pair => ?_⟩
      rw [References.apply, mem_toList_insert, Prod.ext_iff, ReferenceChange.insert.injEq,
        and_iff_right ReferenceChange.noConfusion, eq_comm (a := pair.1), eq_comm (a := pair.2)]
  | withdraw kind name =>
      rw [References.apply, withdraw_eq]
      refine ⟨grouped.remove kind name, fun pair => ?_⟩
      rw [grouped.ordered.mem_toList_remove, or_iff_right ReferenceChange.noConfusion, and_comm,
        ne_eq, Prod.ext_iff, ne_eq, ReferenceChange.withdraw.injEq, eq_comm (a := pair.1),
        eq_comm (a := pair.2)]

/-- What changes make of no references is well grouped and lists what remains of them. -/
theorem wellGrouped_ofChanges (changes : List ReferenceChange) :
    (ofChanges changes).WellGrouped ∧
      ∀ pair, pair ∈ (ofChanges changes).toList ↔ Remains changes pair := by
  induction changes using List.reverseRecOn with
  | nil =>
      refine ⟨wellGrouped_empty, fun pair => iff_of_false List.not_mem_nil ?_⟩
      rintro ⟨earlier, later, same, _⟩
      simp at same
  | append_singleton changes change ih =>
      obtain ⟨grouped, listed⟩ := ih
      obtain ⟨alsoGrouped, changed⟩ := grouped.apply change
      rw [ofChanges, List.foldl_concat]
      refine ⟨alsoGrouped, fun pair => (changed pair).trans ?_⟩
      rw [remains_concat]
      exact or_congr_right (and_congr_right fun _ => listed pair)

/-- **References stand for the pairs that were inserted and not withdrawn since**, whatever
the insertions and withdrawals and their order.  Changes that leave the same pairs make the
same references. -/
theorem represents_ofChanges (changes : List ReferenceChange) :
    (∃ members : Finset (ReferenceKind × String),
      (∀ pair, pair ∈ members ↔ Remains changes pair) ∧ (ofChanges changes).Represents members) ∧
    ∀ others, ofChanges others = ofChanges changes ↔
      ∀ pair, Remains others pair ↔ Remains changes pair := by
  obtain ⟨grouped, listed⟩ := wellGrouped_ofChanges changes
  refine ⟨⟨_, fun pair => List.mem_toFinset.trans (listed pair), grouped.represents⟩,
    fun others => ?_⟩
  obtain ⟨alsoGrouped, alsoListed⟩ := wellGrouped_ofChanges others
  constructor
  · intro same pair
    rw [← alsoListed, same, listed]
  · intro same
    exact alsoGrouped.ext grouped fun pair => by rw [alsoListed, same, listed]

end References

end SchemaPlan
