/-!
# Sorting by a key

Elements are put in ascending order of a key; elements with equal keys keep their order.
-/

set_option autoImplicit false

namespace SchemaPlan.Sorting

variable {Element Key : Type} [Ord Key]

/-- Puts an element in front of the first one whose key is not less than its own. -/
def insertBefore (key : Element → Key) (element : Element) : List Element → List Element
  | [] => [element]
  | first :: rest =>
    if (compare (key element) (key first)).isLE then element :: first :: rest
    else first :: insertBefore key element rest

/-- The elements in ascending order of a key. -/
def sortOn (key : Element → Key) : List Element → List Element
  | [] => []
  | first :: rest => insertBefore key first (sortOn key rest)

theorem mem_insertBefore {key : Element → Key} {element other : Element}
    {elements : List Element} :
    other ∈ insertBefore key element elements ↔ other = element ∨ other ∈ elements := by
  induction elements with
  | nil => simp [insertBefore]
  | cons first rest hypothesis =>
    simp only [insertBefore]
    split
    · simp
    · simp only [List.mem_cons, hypothesis]
      exact or_left_comm

@[simp] theorem mem_sortOn {key : Element → Key} {element : Element} {elements : List Element} :
    element ∈ sortOn key elements ↔ element ∈ elements := by
  induction elements with
  | nil => simp [sortOn]
  | cons first rest hypothesis => simp [sortOn, mem_insertBefore, hypothesis]

theorem length_insertBefore {key : Element → Key} {element : Element}
    {elements : List Element} :
    (insertBefore key element elements).length = elements.length + 1 := by
  induction elements with
  | nil => rfl
  | cons first rest hypothesis =>
    simp only [insertBefore]
    split
    · simp
    · simp [hypothesis]

/-- Elements in ascending order stay where they are. -/
theorem sortOn_eq_self {key : Element → Key} {elements : List Element}
    (ascending : elements.Pairwise fun first second =>
      (compare (key first) (key second)).isLE = true) : sortOn key elements = elements := by
  induction elements with
  | nil => rfl
  | cons first rest hypothesis =>
    obtain ⟨least, others⟩ := List.pairwise_cons.mp ascending
    rw [sortOn, hypothesis others]
    cases rest with
    | nil => rfl
    | cons second further => rw [insertBefore, if_pos (least second List.mem_cons_self)]

@[simp] theorem length_sortOn {key : Element → Key} {elements : List Element} :
    (sortOn key elements).length = elements.length := by
  induction elements with
  | nil => rfl
  | cons first rest hypothesis => simp [sortOn, length_insertBefore, hypothesis]

end SchemaPlan.Sorting
