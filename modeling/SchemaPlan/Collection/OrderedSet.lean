/-!
# Finite sets in ascending order

A finite set is kept as the list of its elements in strictly ascending order.  Two sets with the
same elements are therefore equal, and listing a set needs no sorting.
-/

set_option autoImplicit false

namespace SchemaPlan

/-- The list is strictly ascending. -/
def Ascending {Element : Type} [Ord Element] (elements : List Element) : Prop :=
  elements.Pairwise fun first second => compare first second = .lt

/-- A finite set, kept as its elements in strictly ascending order. -/
structure OrderedSet (Element : Type) [Ord Element] where
  toList : List Element
  ascending : Ascending toList

namespace OrderedSet

variable {Element : Type} [Ord Element]

/-- Puts an element at its place in an ascending list, unless it is there already. -/
def place (element : Element) : List Element → List Element
  | [] => [element]
  | first :: rest =>
    match compare element first with
    | .lt => element :: first :: rest
    | .eq => first :: rest
    | .gt => first :: place element rest

theorem mem_place_imp {element other : Element} {elements : List Element}
    (member : other ∈ place element elements) : other = element ∨ other ∈ elements := by
  induction elements with
  | nil => simpa [place] using member
  | cons first rest hypothesis =>
    simp only [place] at member
    split at member
    · simpa using member
    · exact Or.inr member
    · rcases List.mem_cons.1 member with equal | later
      · exact Or.inr (equal ▸ List.mem_cons_self)
      · exact (hypothesis later).imp_right (List.mem_cons_of_mem _)

theorem ascending_place [Std.TransOrd Element] {element : Element} {elements : List Element}
    (ascending : Ascending elements) : Ascending (place element elements) := by
  induction elements with
  | nil => exact List.pairwise_singleton _ _
  | cons first rest hypothesis =>
    have ⟨below, tail⟩ := List.pairwise_cons.1 ascending
    simp only [place]
    split
    · next before =>
      refine List.pairwise_cons.2 ⟨fun other member => ?_, ascending⟩
      rcases List.mem_cons.1 member with equal | later
      · exact equal ▸ before
      · exact Std.TransCmp.lt_trans before (below other later)
    · exact ascending
    · next after =>
      refine List.pairwise_cons.2 ⟨fun other member => ?_, hypothesis tail⟩
      rcases mem_place_imp member with equal | later
      · exact equal ▸ Std.OrientedCmp.lt_of_gt after
      · exact below other later

theorem ascending_filter {elements : List Element} (ascending : Ascending elements)
    (keep : Element → Bool) : Ascending (elements.filter keep) :=
  List.Pairwise.filter keep ascending

/-- The set with no elements. -/
def empty : OrderedSet Element := ⟨[], List.Pairwise.nil⟩

instance : EmptyCollection (OrderedSet Element) := ⟨empty⟩

instance : Inhabited (OrderedSet Element) := ⟨empty⟩

instance [DecidableEq Element] : DecidableEq (OrderedSet Element) := fun left right =>
  decidable_of_iff (left.toList = right.toList) (by cases left; cases right; simp)

instance : Membership Element (OrderedSet Element) := ⟨fun set element => element ∈ set.toList⟩

instance [DecidableEq Element] (element : Element) (set : OrderedSet Element) :
    Decidable (element ∈ set) :=
  inferInstanceAs (Decidable (element ∈ set.toList))

/-- The set has no elements. -/
def isEmpty (set : OrderedSet Element) : Bool := set.toList.isEmpty

/-- The number of elements. -/
def size (set : OrderedSet Element) : Nat := set.toList.length

/-- Whether the set holds an element. -/
def contains [DecidableEq Element] (set : OrderedSet Element) (element : Element) : Bool :=
  decide (element ∈ set)

/-- The set with one more element. -/
def insert [Std.TransOrd Element] (set : OrderedSet Element) (element : Element) :
    OrderedSet Element :=
  ⟨place element set.toList, ascending_place set.ascending⟩

/-- The elements that satisfy a test. -/
def filter (keep : Element → Bool) (set : OrderedSet Element) : OrderedSet Element :=
  ⟨set.toList.filter keep, ascending_filter set.ascending keep⟩

/-- The set without an element. -/
def erase [DecidableEq Element] (set : OrderedSet Element) (element : Element) :
    OrderedSet Element :=
  set.filter fun other => decide (other ≠ element)

/-- The set of the elements of a list. -/
def ofList [Std.TransOrd Element] (elements : List Element) : OrderedSet Element :=
  elements.foldl insert ∅

/-- The set with all elements of a list added. -/
def insertAll [Std.TransOrd Element] (set : OrderedSet Element) (elements : List Element) :
    OrderedSet Element :=
  elements.foldl insert set

theorem mem_def {element : Element} {set : OrderedSet Element} :
    element ∈ set ↔ element ∈ set.toList := Iff.rfl

theorem mem_place [Std.LawfulEqOrd Element] {element other : Element} {elements : List Element} :
    other ∈ place element elements ↔ other = element ∨ other ∈ elements := by
  refine ⟨mem_place_imp, ?_⟩
  induction elements with
  | nil => simp [place]
  | cons first rest hypothesis =>
    simp only [place]
    split
    · simp
    · next equal =>
      rw [Std.LawfulEqCmp.eq_of_compare equal]
      simp
    · intro member
      rcases member with equal | member
      · exact List.mem_cons_of_mem _ (hypothesis (Or.inl equal))
      · rcases List.mem_cons.1 member with equal | later
        · exact equal ▸ List.mem_cons_self
        · exact List.mem_cons_of_mem _ (hypothesis (Or.inr later))

@[simp] theorem mem_insert [Std.TransOrd Element] [Std.LawfulEqOrd Element]
    {set : OrderedSet Element} {element other : Element} :
    other ∈ set.insert element ↔ other = element ∨ other ∈ set := mem_place

@[simp] theorem not_mem_empty {element : Element} : ¬ element ∈ (∅ : OrderedSet Element) :=
  List.not_mem_nil

@[simp] theorem mem_filter {set : OrderedSet Element} {keep : Element → Bool}
    {element : Element} : element ∈ set.filter keep ↔ element ∈ set ∧ keep element = true :=
  List.mem_filter

@[simp] theorem mem_erase [DecidableEq Element] {set : OrderedSet Element}
    {element other : Element} : other ∈ set.erase element ↔ other ∈ set ∧ other ≠ element := by
  simp [erase]

end OrderedSet

end SchemaPlan
