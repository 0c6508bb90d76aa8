import Mathlib.Data.List.Induction
import Mathlib.Data.List.Nodup
import SchemaPlan.Collection.OrderedSet
import SchemaPlan.Collection.Sorting

/-!
# Members of ordered sets and of sorted lists

A set made from a list, or by adding a list to a set, has the elements of the
list and those that were there before.  A set is told by its elements, and so is
a sorted list when no two of its elements have the same key.

What is added to the end of a list counts as a first occurrence when it is not in
the list yet.
-/

set_option autoImplicit false

namespace SchemaPlan

/-! ## First occurrences -/

section

variable {Item Reading : Type} [BEq Item] [LawfulBEq Item] [BEq Reading] [LawfulBEq Reading]
  {items : List Item}

theorem eraseDups_append_singleton {item : Item} :
    (items ++ [item]).eraseDups =
      if item ∈ items then items.eraseDups else items.eraseDups ++ [item] := by
  rw [List.eraseDups_append]
  by_cases present : item ∈ items
  · simp [List.removeAll, present]
  · simp [List.removeAll, present, List.eraseDups_cons]

/-- Where no two items read alike, the first occurrences among the readings are the readings
of the first occurrences. -/
theorem eraseDups_filterMap {read : Item → Option Reading}
    (apart : ∀ item other reading, read item = some reading → read other = some reading →
      item = other) :
    (items.filterMap read).eraseDups = items.eraseDups.filterMap read := by
  induction items using List.reverseRecOn with
  | nil => rfl
  | append_singleton before last ih =>
      rw [List.filterMap_append, eraseDups_append_singleton]
      cases isRead : read last with
      | none =>
          have nothing : [last].filterMap read = [] := by rw [List.filterMap_cons_none isRead]; rfl
          rw [nothing, List.append_nil, ih]
          split
          · rfl
          · rw [List.filterMap_append, nothing, List.append_nil]
      | some reading =>
          have one : [last].filterMap read = [reading] := by
            rw [List.filterMap_cons_some isRead]; rfl
          have present : reading ∈ before.filterMap read ↔ last ∈ before := by
            rw [List.mem_filterMap]
            constructor
            · rintro ⟨item, member, same⟩
              exact apart item last reading same isRead ▸ member
            · exact fun member => ⟨last, member, isRead⟩
          rw [one, eraseDups_append_singleton, ih]
          by_cases member : last ∈ before
          · rw [if_pos (present.mpr member), if_pos member]
          · rw [if_neg (present.not.mpr member), if_neg member, List.filterMap_append, one]

end

namespace OrderedSet

variable {Element : Type} [Ord Element] [Std.TransOrd Element] [Std.LawfulEqOrd Element]

theorem mem_insertAll {elements : List Element} {set : OrderedSet Element} {element : Element} :
    element ∈ set.insertAll elements ↔ element ∈ set ∨ element ∈ elements := by
  induction elements generalizing set with
  | nil => simp [insertAll]
  | cons first rest ih =>
      have here := @ih (set.insert first)
      rw [mem_insert, or_comm (a := element = first), or_assoc, ← List.mem_cons] at here
      exact here

theorem mem_ofList {elements : List Element} {element : Element} :
    element ∈ ofList elements ↔ element ∈ elements :=
  mem_insertAll.trans (or_iff_right not_mem_empty)

omit [Std.LawfulEqOrd Element] in
/-- A set lists each element once. -/
theorem nodup_toList (set : OrderedSet Element) : set.toList.Nodup :=
  set.ascending.imp fun before equal => by
    rw [equal, Std.compare_self] at before
    cases before

omit [Std.LawfulEqOrd Element] in
/-- **A set is told by its elements.** -/
theorem ext {first second : OrderedSet Element}
    (same : ∀ element, element ∈ first ↔ element ∈ second) : first = second := by
  have perm := (List.perm_ext_iff_of_nodup first.nodup_toList second.nodup_toList).mpr same
  have lists : first.toList = second.toList := by
    refine perm.eq_of_pairwise (fun one other _ _ before after => ?_) first.ascending
      second.ascending
    rw [Std.OrientedOrd.eq_swap, after] at before
    cases before
  cases first
  cases second
  simpa using lists

/-- An element that is there is not added again. -/
theorem insert_of_mem {set : OrderedSet Element} {element : Element} (member : element ∈ set) :
    set.insert element = set :=
  ext fun _ => mem_insert.trans (or_iff_right_of_imp fun same => same ▸ member)

end OrderedSet

namespace Sorting

variable {Element Key : Type} [Ord Key] {key : Element → Key}

theorem perm_insertBefore (element : Element) (elements : List Element) :
    (insertBefore key element elements).Perm (element :: elements) := by
  induction elements with
  | nil => exact List.Perm.refl _
  | cons first rest ih =>
      rw [insertBefore]
      split
      · exact List.Perm.refl _
      · exact (ih.cons first).trans (List.Perm.swap element first rest)

theorem perm_sortOn (elements : List Element) : (sortOn key elements).Perm elements := by
  induction elements with
  | nil => exact List.Perm.refl _
  | cons first rest ih => exact (perm_insertBefore first _).trans (ih.cons first)

variable [Std.TransOrd Key]

theorem pairwise_insertBefore {element : Element} {elements : List Element}
    (sorted : elements.Pairwise fun one other => (compare (key one) (key other)).isLE = true) :
    (insertBefore key element elements).Pairwise fun one other =>
      (compare (key one) (key other)).isLE = true := by
  induction elements with
  | nil => exact List.pairwise_singleton _ _
  | cons first rest ih =>
      obtain ⟨below, tail⟩ := List.pairwise_cons.mp sorted
      rw [insertBefore]
      split
      · next before =>
        refine List.pairwise_cons.mpr ⟨fun other member => ?_, sorted⟩
        rcases List.mem_cons.mp member with rfl | later
        · exact before
        · exact Std.TransCmp.isLE_trans before (below other later)
      · next after =>
        refine List.pairwise_cons.mpr ⟨fun other member => ?_, ih tail⟩
        rcases mem_insertBefore.mp member with rfl | later
        · rw [Std.OrientedOrd.eq_swap]
          cases order : compare (key other) (key first) <;> simp_all
        · exact below other later

theorem pairwise_sortOn (elements : List Element) :
    (sortOn key elements).Pairwise fun one other =>
      (compare (key one) (key other)).isLE = true := by
  induction elements with
  | nil => exact List.Pairwise.nil
  | cons first rest ih => exact pairwise_insertBefore ih

/-- **A sorted list with distinct keys is told by its elements.** -/
theorem sortOn_congr [Std.LawfulEqOrd Key] {first second : List Element}
    (distinct : (first.map key).Nodup) (alsoDistinct : (second.map key).Nodup)
    (same : ∀ element, element ∈ first ↔ element ∈ second) :
    sortOn key first = sortOn key second := by
  have perm := (List.perm_ext_iff_of_nodup (List.Nodup.of_map key distinct)
    (List.Nodup.of_map key alsoDistinct)).mpr same
  refine List.Perm.eq_of_pairwise (fun one other inFirst inSecond before after => ?_)
    (pairwise_sortOn first) (pairwise_sortOn second)
    ((perm_sortOn first).trans (perm.trans (perm_sortOn second).symm))
  have sameKey : key one = key other :=
    Std.LawfulEqOrd.eq_of_compare (Std.OrientedCmp.isLE_antisymm before after)
  have alsoInFirst := (same other).mpr (mem_sortOn.mp inSecond)
  exact List.inj_on_of_nodup_map distinct (mem_sortOn.mp inFirst) alsoInFirst sameKey

end Sorting

end SchemaPlan
