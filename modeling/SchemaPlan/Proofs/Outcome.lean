import Mathlib.Data.List.Basic

/-!
# Computations that may fail

A computation made of steps gives a result when each of its steps does.  These
lemmas take such a computation apart: into the result of its first step and
what follows, and, for a list worked through from the left, into an induction
over the results on the way.
-/

set_option autoImplicit false

namespace SchemaPlan.Outcome

variable {Failure Wider First Second Item State : Type}

theorem bind_eq_ok {first : Except Failure First} {next : First → Except Failure Second}
    {result : Second} :
    (first >>= next) = .ok result ↔ ∃ value, first = .ok value ∧ next value = .ok result := by
  cases first <;> simp [bind, Except.bind]

theorem bind_eq_error {first : Except Failure First} {next : First → Except Failure Second}
    {failure : Failure} :
    (first >>= next) = .error failure ↔
      first = .error failure ∨ ∃ value, first = .ok value ∧ next value = .error failure := by
  cases first <;> simp [bind, Except.bind]

theorem pure_eq_ok {value result : First} :
    (pure value : Except Failure First) = .ok result ↔ value = result := by
  simp [pure, Except.pure]

theorem mapError_eq_ok {first : Except Failure First} {widen : Failure → Wider}
    {result : First} : first.mapError widen = .ok result ↔ first = .ok result := by
  cases first <;> simp [Except.mapError]

theorem mapError_eq_error {first : Except Failure First} {widen : Failure → Wider}
    {failure : Wider} :
    first.mapError widen = .error failure ↔ ∃ cause, first = .error cause ∧ widen cause = failure := by
  cases first <;> simp [Except.mapError]

/-- A run whose result has been read succeeds with such a result. -/
theorem eq_ok_of_reading {Log Reading : Type} {run : Except Failure First × Log}
    {read : First → Reading} {reading : Reading}
    (done : run.1.toOption.map read = some reading) :
    ∃ result after, run = (.ok result, after) ∧ read result = reading := by
  obtain ⟨outcome, after⟩ := run
  cases outcome with
  | error failure => cases done
  | ok result => exact ⟨result, after, rfl, Option.some.inj done⟩

theorem mem_mapM {Result : Type} {read : Item → Except Failure Result} {items : List Item}
    {results : List Result} (done : items.mapM read = .ok results) {result : Result} :
    result ∈ results ↔ ∃ item ∈ items, read item = .ok result := by
  induction items generalizing results with
  | nil =>
      obtain rfl := pure_eq_ok.mp done
      simp
  | cons first rest ih =>
      rw [List.mapM_cons, bind_eq_ok] at done
      obtain ⟨value, one, others⟩ := done
      obtain ⟨values, rest, all⟩ := bind_eq_ok.mp others
      obtain rfl := pure_eq_ok.mp all
      simp [ih rest, one, eq_comm]

/-- Items that are each read as they have been written are so all together. -/
theorem mapM_map_eq_ok {Row : Type} {write : Item → Row} {read : Row → Except Failure Item}
    {items : List Item} (same : ∀ item ∈ items, read (write item) = .ok item) :
    (items.map write).mapM read = .ok items := by
  induction items with
  | nil => rfl
  | cons first rest ih =>
      rw [List.map_cons, List.mapM_cons]
      refine bind_eq_ok.mpr ⟨first, same first List.mem_cons_self, ?_⟩
      exact bind_eq_ok.mpr ⟨rest, ih fun item member => same item (List.mem_cons_of_mem _ member), rfl⟩

/-- Reading a list fails because reading one of its items does. -/
theorem exists_of_mapM_eq_error {Result : Type} {read : Item → Except Failure Result}
    {items : List Item} {failure : Failure} (failed : items.mapM read = .error failure) :
    ∃ item ∈ items, read item = .error failure := by
  induction items with
  | nil => cases failed
  | cons first rest ih =>
      rw [List.mapM_cons, bind_eq_error] at failed
      rcases failed with here | ⟨value, _, later⟩
      · exact ⟨first, List.mem_cons_self, here⟩
      · rcases bind_eq_error.mp later with others | ⟨_, _, done⟩
        · obtain ⟨item, member, stepped⟩ := ih others
          exact ⟨item, List.mem_cons_of_mem _ member, stepped⟩
        · cases done

/-- Steps that do the same with the items of a list do the same with the list. -/
theorem foldlM_congr {step other : State → Item → Except Failure State} {items : List Item}
    (same : ∀ item ∈ items, ∀ state, step state item = other state item) (state : State) :
    items.foldlM step state = items.foldlM other state := by
  induction items generalizing state with
  | nil => rfl
  | cons first rest ih =>
      rw [List.foldlM_cons, List.foldlM_cons, same first List.mem_cons_self]
      exact bind_congr fun middle =>
        ih (fun item member => same item (List.mem_cons_of_mem _ member)) middle

/-- What every step keeps holds after a list has been worked through. -/
theorem foldlM_induction {step : State → Item → Except Failure State}
    {property : State → Prop} {items : List Item} {state result : State}
    (start : property state)
    (keeps : ∀ before, ∀ item ∈ items, ∀ after, property before →
      step before item = .ok after → property after)
    (done : items.foldlM step state = .ok result) : property result := by
  induction items generalizing state with
  | nil =>
      rw [List.foldlM_nil, pure_eq_ok] at done
      exact done ▸ start
  | cons first rest ih =>
      rw [List.foldlM_cons, bind_eq_ok] at done
      obtain ⟨middle, one, others⟩ := done
      exact ih (keeps state first List.mem_cons_self middle start one)
        (fun before item member => keeps before item (List.mem_cons_of_mem _ member)) others

/-- A list is worked through when every step succeeds from what the steps before it
keep. -/
theorem exists_foldlM {step : State → Item → Except Failure State} {property : State → Prop}
    {items : List Item} {state : State} (start : property state)
    (steps : ∀ before, ∀ item ∈ items, property before →
      ∃ after, step before item = .ok after ∧ property after) :
    ∃ result, items.foldlM step state = .ok result ∧ property result := by
  induction items generalizing state with
  | nil => exact ⟨state, rfl, start⟩
  | cons first rest ih =>
      obtain ⟨middle, one, kept⟩ := steps state first List.mem_cons_self start
      obtain ⟨result, others, ends⟩ :=
        ih kept fun before item member => steps before item (List.mem_cons_of_mem _ member)
      exact ⟨result, by rw [List.foldlM_cons]; exact bind_eq_ok.mpr ⟨middle, one, others⟩, ends⟩

/-- A list that cannot be worked through has an item that fails. -/
theorem exists_of_foldlM_eq_error {step : State → Item → Except Failure State}
    {items : List Item} {state : State} {failure : Failure}
    (failed : items.foldlM step state = .error failure) :
    ∃ before, ∃ item ∈ items, step before item = .error failure := by
  induction items generalizing state with
  | nil => cases failed
  | cons first rest ih =>
      rw [List.foldlM_cons, bind_eq_error] at failed
      rcases failed with here | ⟨middle, _, later⟩
      · exact ⟨state, first, List.mem_cons_self, here⟩
      · obtain ⟨before, item, member, stepped⟩ := ih later
        exact ⟨before, item, List.mem_cons_of_mem _ member, stepped⟩

/-- A list whose items fail or not by themselves fails with its first item that
does. -/
theorem foldlM_eq_error {step : State → Item → Except Failure State}
    {check : Item → Option Failure} (fails : ∀ state item failure,
      step state item = .error failure ↔ check item = some failure)
    {items : List Item} {state : State} {failure : Failure} :
    items.foldlM step state = .error failure ↔ items.findSome? check = some failure := by
  induction items generalizing state with
  | nil => simp [pure, Except.pure]
  | cons first rest ih =>
      rw [List.foldlM_cons, bind_eq_error, fails, List.findSome?_cons]
      cases checked : check first with
      | some found =>
          have stepped := (fails state first found).mpr checked
          simp [stepped]
      | none =>
          have goesOn : ∃ next, step state first = .ok next := by
            cases stepped : step state first with
            | ok next => exact ⟨next, rfl⟩
            | error found =>
                rw [fails, checked] at stepped
                cases stepped
          obtain ⟨next, stepped⟩ := goesOn
          simp [stepped, ih]

end SchemaPlan.Outcome
