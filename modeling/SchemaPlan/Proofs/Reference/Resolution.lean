import SchemaPlan.Proofs.Catalog
import SchemaPlan.Reference.Resolution

/-!
# What a reference means

Whatever the catalog is, a reference is resolved to a row that satisfies it and that
answers one of its questions, and to nothing only when no question is answered with
such a row.

A snapshot always answers.  It holds rows in up to four places where a reference is
looked up (`Place.Holds`), and the reference means the least row that satisfies it in
the first place that holds one (`resolve_eq_some_iff`).  A place that holds only rows
of another kind does not end the search.
-/

set_option autoImplicit false

namespace SchemaPlan

namespace Reference

variable {reference : Reference} {owner : Option String} {catalog : Catalog}

/-- A row answers a reference when it satisfies it and one of the questions is
answered with it. -/
theorem firstAnswer_eq_some
    {questions : List (Unit → Except CatalogError (List CatalogRow))} {row : CatalogRow}
    (found : reference.firstAnswer questions = .ok (some row)) :
    reference.isSatisfiedBy row = true ∧ ∃ ask ∈ questions, ∃ rows, ask () = .ok rows ∧
      row ∈ rows := by
  induction questions with
  | nil => cases found
  | cons ask rest ih =>
      rw [firstAnswer] at found
      split at found
      · cases found
      · next rows answered =>
        split at found
        · next picked isPicked =>
          obtain rfl := Option.some.inj (Except.ok.inj found)
          obtain ⟨listed, satisfied⟩ := List.mem_filter.mp (CatalogRow.least?_mem isPicked)
          exact ⟨satisfied, ask, List.mem_cons_self, rows, answered, listed⟩
        · obtain ⟨satisfied, other, later, rest⟩ := ih found
          exact ⟨satisfied, other, List.mem_cons_of_mem _ later, rest⟩

theorem firstAnswer_eq_none
    {questions : List (Unit → Except CatalogError (List CatalogRow))}
    (nothing : reference.firstAnswer questions = .ok none) :
    ∀ ask ∈ questions, ∃ rows, ask () = .ok rows ∧
      ∀ row ∈ rows, reference.isSatisfiedBy row = false := by
  induction questions with
  | nil => exact fun _ member => absurd member List.not_mem_nil
  | cons ask rest ih =>
      rw [firstAnswer] at nothing
      split at nothing
      · cases nothing
      · next rows answered =>
        split at nothing
        · cases nothing
        · next noneFits =>
          refine List.forall_mem_cons.mpr ⟨⟨rows, answered, fun row listed => ?_⟩, ih nothing⟩
          have unsatisfied := List.filter_eq_nil_iff.mp (CatalogRow.least?_eq_none_iff.mp noneFits)
          simpa using unsatisfied row listed

theorem isSatisfiedBy_iff {row : CatalogRow} :
    reference.isSatisfiedBy row = true ↔ row.key.name = reference.name ∧
      reference.kind.accepts row.key.objectType = true := by
  simp [isSatisfiedBy]

/-- The row found for a reference satisfies it. -/
theorem isSatisfiedBy_of_resolve {row : CatalogRow}
    (found : reference.resolve owner catalog = .ok (some row)) :
    reference.isSatisfiedBy row = true :=
  (firstAnswer_eq_some found).1

/-- A row is found in the package of the reference or of its referrer, or outside
all packages for one owner or for any. -/
theorem mem_of_resolve_eq_some {row : CatalogRow}
    (found : reference.resolve owner catalog = .ok (some row)) :
    (∃ owner package rows, (reference.package = some package ∨
        ∃ scope, reference.scope = some scope ∧ scope.package = package) ∧
      catalog.findInPackage owner package [reference.name] = .ok rows ∧ row ∈ rows) ∨
    ∃ owner rows, catalog.findByOwner owner [reference.name] = .ok rows ∧ row ∈ rows := by
  obtain ⟨_, ask, member, rows, answered, listed⟩ := firstAnswer_eq_some found
  simp only [questions, List.mem_append, List.mem_map, List.mem_singleton, Option.mem_toList]
    at member
  rcases member with ((⟨package, qualified, rfl⟩ | ⟨scope, isScope, rfl⟩) | ⟨_, _, rfl⟩) | rfl
  · exact .inl ⟨_, package, rows, .inl qualified, answered, listed⟩
  · exact .inl ⟨_, scope.package, rows, .inr ⟨scope, isScope, rfl⟩, answered, listed⟩
  · exact .inr ⟨_, rows, answered, listed⟩
  · exact .inr ⟨_, rows, answered, listed⟩

/-- When nothing is found for a reference, nothing outside all packages satisfies
it. -/
theorem findByOwner_of_resolve_eq_none (nothing : reference.resolve owner catalog = .ok none) :
    ∃ rows, catalog.findByOwner none [reference.name] = .ok rows ∧
      ∀ row ∈ rows, reference.isSatisfiedBy row = false := by
  refine firstAnswer_eq_none nothing (fun _ => catalog.findByOwner none [reference.name]) ?_
  rw [questions]
  exact List.mem_append_right _ List.mem_cons_self

/-- The questions to two catalogs are related when they are so place by place. -/
theorem forall₂_questions {first second : Catalog}
    {related : (Unit → Except CatalogError (List CatalogRow)) →
      (Unit → Except CatalogError (List CatalogRow)) → Prop}
    (packaged : ∀ package, reference.package = some package →
      related (fun _ => first.findInPackage reference.owner package [reference.name])
        (fun _ => second.findInPackage reference.owner package [reference.name]))
    (inScope : ∀ scope, reference.scope = some scope →
      related (fun _ => first.findInPackage scope.owner scope.package [reference.name])
        (fun _ => second.findInPackage scope.owner scope.package [reference.name]))
    (owned : ∀ asked, reference.owner.or owner = some asked →
      related (fun _ => first.findByOwner (some asked) [reference.name])
        (fun _ => second.findByOwner (some asked) [reference.name]))
    (anywhere : related (fun _ => first.findByOwner none [reference.name])
      (fun _ => second.findByOwner none [reference.name])) :
    List.Forall₂ related (reference.questions owner first) (reference.questions owner second) := by
  have place : ∀ {Place : Type} (place : Option Place) (question other : Place → Unit →
      Except CatalogError (List CatalogRow)),
      (∀ value, place = some value → related (question value) (other value)) →
      List.Forall₂ related (place.toList.map question) (place.toList.map other) := by
    intro Place place question other pairs
    cases place with
    | none => exact .nil
    | some value => exact .cons (pairs value rfl) .nil
  refine List.rel_append (List.rel_append (List.rel_append ?_ ?_) ?_) (.cons anywhere .nil)
  · exact place reference.package _ _ packaged
  · exact place reference.scope _ _ inScope
  · exact place (reference.owner.or owner) _ _ owned

/-! ## Places of a snapshot -/

/-- A routine of a package, of one owner if given.  The catalog looks past the case. -/
def IsRoutineOf (row : CatalogRow) (owner : Option String) (package : String) : Prop :=
  row.key.objectType.isRoutine = true ∧ Text.sameIgnoringCase row.key.package package = true ∧
    ∀ name, owner = some name → Text.sameIgnoringCase row.owner name = true

/-- Where a reference is looked up. -/
inductive Place where
  /-- The package that the reference names. -/
  | named
  /-- The package that the referrer is delivered with. -/
  | around
  /-- Outside all packages, with the owner of the reference or else of the referrer. -/
  | owned
  /-- Outside all packages, with any owner. -/
  | anywhere
deriving DecidableEq, Repr

/-- Every place, in the order in which they are looked at. -/
def Place.all : List Place := [.named, .around, .owned, .anywhere]

theorem Place.mem_all (place : Place) : place ∈ all := by
  cases place <;> decide

/-- What a place holds, as seen from a referrer of this owner. -/
def Place.Holds (reference : Reference) (referrerOwner : Option String) (row : CatalogRow) :
    Place → Prop
  | named => ∃ package, reference.package = some package ∧
      IsRoutineOf row reference.owner package
  | around => ∃ scope, reference.scope = some scope ∧ IsRoutineOf row scope.owner scope.package
  | owned => ∃ owner, reference.owner.or referrerOwner = some owner ∧
      row.key.isRootLevel = true ∧ Text.sameIgnoringCase row.owner owner = true
  | anywhere => row.key.isRootLevel = true

/-- A row that could be meant by a reference, in one of the places. -/
structure Candidate (reference : Reference) (referrerOwner : Option String) (snapshot : Snapshot)
    (place : Place) (row : CatalogRow) : Prop where
  listed : row ∈ snapshot.rows
  name : row.key.name = reference.name
  kind : reference.kind.accepts row.key.objectType = true
  held : place.Holds reference referrerOwner row

/-- What the catalog answers when it is asked about a place. -/
def answers (reference : Reference) (referrerOwner : Option String) (snapshot : Snapshot) :
    Place → List CatalogRow
  | .named => (reference.package.map fun package =>
      snapshot.findInPackage reference.owner package [reference.name]).getD []
  | .around => (reference.scope.map fun scope =>
      snapshot.findInPackage scope.owner scope.package [reference.name]).getD []
  | .owned => ((reference.owner.or referrerOwner).map fun owner =>
      snapshot.findByOwner (some owner) [reference.name]).getD []
  | .anywhere => snapshot.findByOwner none [reference.name]

variable {snapshot : Snapshot} {place : Place} {row : CatalogRow}

/-- A place that may be missing holds nothing if it is. -/
theorem mem_getD_map {Asked : Type} {asked : Option Asked} {answer : Asked → List CatalogRow}
    {Holds : Asked → Prop}
    (answered : ∀ value, row ∈ answer value ↔ row ∈ snapshot.rows ∧ Holds value) :
    row ∈ (asked.map answer).getD [] ↔
      row ∈ snapshot.rows ∧ ∃ value, asked = some value ∧ Holds value := by
  cases asked <;> simp [answered]

/-- Among the rows with the name of the reference, an answer gives those that the place
holds. -/
theorem mem_answers (name : row.key.name = reference.name) :
    row ∈ reference.answers owner snapshot place ↔
      row ∈ snapshot.rows ∧ place.Holds reference owner row := by
  have inPackage : ∀ owner package,
      row ∈ snapshot.findInPackage owner package [reference.name] ↔
        row ∈ snapshot.rows ∧ IsRoutineOf row owner package := by
    intro owner package
    rw [Snapshot.mem_findInPackage, Snapshot.ownerMatches_iff, IsRoutineOf, ← name]
    simp only [Snapshot.nameWanted_self, and_true]
    rw [and_left_comm (a := Text.sameIgnoringCase row.key.package package = true)]
  have outside : ∀ owner, row ∈ snapshot.findByOwner owner [reference.name] ↔
      row ∈ snapshot.rows ∧ row.key.isRootLevel = true ∧
        ∀ name, owner = some name → Text.sameIgnoringCase row.owner name = true := by
    intro owner
    rw [Snapshot.mem_findByOwner, Snapshot.ownerMatches_iff, ← name]
    simp only [Snapshot.nameWanted_self, and_true]
  cases place with
  | named => exact mem_getD_map (inPackage reference.owner)
  | around => exact mem_getD_map fun scope => inPackage scope.owner scope.package
  | owned =>
      refine mem_getD_map fun asked => (outside (some asked)).trans ?_
      simp only [Option.some.injEq, forall_eq']
  | anywhere =>
      rw [answers, outside]
      simp [Place.Holds]

/-- The candidates are the rows of the answer that satisfy the reference. -/
theorem candidate_iff : reference.Candidate owner snapshot place row ↔
    row ∈ (reference.answers owner snapshot place).filter reference.isSatisfiedBy := by
  rw [List.mem_filter, isSatisfiedBy_iff]
  constructor
  · exact fun ⟨listed, name, kind, held⟩ => ⟨(mem_answers name).mpr ⟨listed, held⟩, name, kind⟩
  · rintro ⟨answered, name, kind⟩
    obtain ⟨listed, held⟩ := (mem_answers name).mp answered
    exact ⟨listed, name, kind, held⟩

theorem pick_eq_some_iff : reference.pick (reference.answers owner snapshot place) = some row ↔
    reference.Candidate owner snapshot place row ∧
      ∀ other, reference.Candidate owner snapshot place other → (compare row other).isLE = true := by
  simp only [pick, CatalogRow.least?_eq_some_iff, candidate_iff]

theorem pick_eq_none_iff : reference.pick (reference.answers owner snapshot place) = none ↔
    ∀ row, ¬ reference.Candidate owner snapshot place row := by
  simp only [pick, CatalogRow.least?_eq_none_iff, candidate_iff, List.eq_nil_iff_forall_not_mem]

/-- A place is asked about before the others, unless it is missing. -/
theorem firstAnswer_place {Asked : Type} {asked : Option Asked}
    {answer : Asked → List CatalogRow}
    {rest : List (Unit → Except CatalogError (List CatalogRow))} {later : Option CatalogRow}
    (answered : reference.firstAnswer rest = .ok later) :
    reference.firstAnswer ((asked.toList.map fun value _ => .ok (answer value)) ++ rest) =
      .ok ((reference.pick ((asked.map answer).getD [])).or later) := by
  cases asked with
  | none => exact answered
  | some value =>
      simp only [Option.toList_some, List.map_cons, List.map_nil, List.cons_append, List.nil_append,
        firstAnswer, Option.map_some, Option.getD_some]
      cases reference.pick (answer value) with
      | some row => rfl
      | none => exact answered

/-- A snapshot answers every reference, with what is picked in the first place where
something is. -/
theorem resolve_snapshot (reference : Reference) (owner : Option String) (snapshot : Snapshot) :
    reference.resolve owner snapshot.catalog =
      .ok (Place.all.findSome? fun place =>
        reference.pick (reference.answers owner snapshot place)) := by
  have last : reference.firstAnswer [fun _ => .ok (reference.answers owner snapshot .anywhere)] =
      .ok (reference.pick (reference.answers owner snapshot .anywhere)) := by
    simp only [firstAnswer]
    cases reference.pick (reference.answers owner snapshot .anywhere) <;> rfl
  rw [resolve, questions, List.append_assoc, List.append_assoc,
    show Place.all = [.named] ++ ([.around] ++ ([.owned] ++ [.anywhere])) from rfl]
  simp only [List.findSome?_append, List.findSome?_singleton]
  exact firstAnswer_place (firstAnswer_place (firstAnswer_place last))

/-- **The first place with a candidate decides**, and the least one there is taken. -/
theorem resolve_eq_some_iff : reference.resolve owner snapshot.catalog = .ok (some row) ↔
    ∃ nearer place farther, Place.all = nearer ++ place :: farther ∧
      (∀ other ∈ nearer, ∀ row, ¬ reference.Candidate owner snapshot other row) ∧
      reference.Candidate owner snapshot place row ∧
      ∀ other, reference.Candidate owner snapshot place other → (compare row other).isLE = true := by
  rw [resolve_snapshot, Except.ok.injEq, List.findSome?_eq_some_iff]
  simp only [pick_eq_some_iff, pick_eq_none_iff]
  refine exists₃_congr fun nearer place farther => and_congr_right fun _ => ?_
  rw [and_comm]

theorem resolve_eq_none_iff : reference.resolve owner snapshot.catalog = .ok none ↔
    ∀ place row, ¬ reference.Candidate owner snapshot place row := by
  rw [resolve_snapshot, Except.ok.injEq, List.findSome?_eq_none_iff]
  simp only [pick_eq_none_iff, Place.mem_all, true_imp_iff]

/-- **What a reference means in a snapshot.**  It is always resolved: to the least row of
the first place where a row is a candidate, and to nothing if and only if no place has
a candidate. -/
theorem resolve_meaning (reference : Reference) (owner : Option String) (snapshot : Snapshot) :
    (∃ answer, reference.resolve owner snapshot.catalog = .ok answer) ∧
    (∀ row, reference.resolve owner snapshot.catalog = .ok (some row) ↔
      ∃ nearer place farther, Place.all = nearer ++ place :: farther ∧
        (∀ other ∈ nearer, ∀ row, ¬ reference.Candidate owner snapshot other row) ∧
        reference.Candidate owner snapshot place row ∧
        ∀ other, reference.Candidate owner snapshot place other →
          (compare row other).isLE = true) ∧
    (reference.resolve owner snapshot.catalog = .ok none ↔
      ∀ place row, ¬ reference.Candidate owner snapshot place row) :=
  ⟨⟨_, resolve_snapshot reference owner snapshot⟩, fun _ => resolve_eq_some_iff,
    resolve_eq_none_iff⟩

/-- A procedure in the package does not keep the function outside from being found, and
of two functions outside the one of the referrer's owner comes first. -/
example : (⟨.function, none, some "SALES", "RATE", none⟩ : Reference).resolve (some "B")
    (Snapshot.ofRows [⟨"A", .procedure, "SALES", "RATE"⟩, ⟨"A", .function, "NONE", "RATE"⟩,
      ⟨"B", .function, "NONE", "RATE"⟩]).catalog = .ok (some ⟨"B", .function, "NONE", "RATE"⟩) := by
  with_unfolding_all rfl

/-! ## Different referrers -/

theorem exists_resolve (reference : Reference) (owner : Option String) (snapshot : Snapshot) :
    ∃ answer, reference.resolve owner snapshot.catalog = .ok answer :=
  ⟨_, resolve_snapshot reference owner snapshot⟩

theorem candidate_of_resolve (found : reference.resolve owner snapshot.catalog = .ok (some row)) :
    ∃ place, reference.Candidate owner snapshot place row := by
  obtain ⟨_, place, _, _, _, candidate, _⟩ := resolve_eq_some_iff.mp found
  exact ⟨place, candidate⟩

/-- What a snapshot finds for a reference is one of its rows: one outside all packages,
or a routine of the package that was searched. -/
theorem mem_rows_of_resolve (found : reference.resolve owner snapshot.catalog = .ok (some row)) :
    row ∈ snapshot.rows ∧ (row.key.isRootLevel = true ∨
      row.key.objectType.isRoutine = true ∧ ∃ package,
        (reference.package = some package ∨
          ∃ scope, reference.scope = some scope ∧ scope.package = package) ∧
        Text.canonical row.key.package = Text.canonical package) := by
  obtain ⟨place, candidate⟩ := candidate_of_resolve found
  have held := candidate.held
  refine ⟨candidate.listed, ?_⟩
  cases place with
  | named =>
      obtain ⟨package, qualified, isRoutine, samePackage, _⟩ := held
      exact .inr ⟨isRoutine, package, .inl qualified,
        Text.canonical_eq_of_sameIgnoringCase samePackage⟩
  | around =>
      obtain ⟨scope, isScope, isRoutine, samePackage, _⟩ := held
      exact .inr ⟨isRoutine, scope.package, .inr ⟨scope, isScope, rfl⟩,
        Text.canonical_eq_of_sameIgnoringCase samePackage⟩
  | owned =>
      obtain ⟨_, _, rootLevel, _⟩ := held
      exact .inl rootLevel
  | anywhere => exact .inl held

/-- What a reference finds in a package does not depend on the referrer; else it finds
something outside all packages. -/
theorem resolve_packaged_or_outside (reference : Reference) (snapshot : Snapshot) :
    (∃ row, ∀ owner, reference.resolve owner snapshot.catalog = .ok (some row)) ∨
      ∀ owner row, reference.resolve owner snapshot.catalog = .ok (some row) →
        row.key.isRootLevel = true := by
  let picked (owner : Option String) (place : Place) : Option CatalogRow :=
    reference.pick (reference.answers owner snapshot place)
  have parts : ∀ owner, reference.resolve owner snapshot.catalog =
      .ok (([.named, .around].findSome? (picked none)).or
        ([.owned, .anywhere].findSome? (picked owner))) := by
    intro owner
    rw [resolve_snapshot, show Place.all = [.named, .around] ++ [.owned, .anywhere] from rfl,
      List.findSome?_append]
    rfl
  cases packaged : [.named, .around].findSome? (picked none) with
  | some row => exact .inl ⟨row, fun owner => by rw [parts, packaged, Option.some_or]⟩
  | none =>
      refine .inr fun owner row found => ?_
      rw [parts, packaged, Option.none_or, Except.ok.injEq] at found
      obtain ⟨place, outside, isPicked⟩ := List.exists_of_findSome?_eq_some found
      have held := (pick_eq_some_iff.mp isPicked).1.held
      rcases List.mem_pair.mp outside with rfl | rfl
      · obtain ⟨_, _, rootLevel, _⟩ := held
        exact rootLevel
      · exact held

/-- The owner of the referrer does not matter to a reference that names one. -/
theorem resolve_congr_of_owner {other : Option String} (named : reference.owner ≠ none) :
    reference.resolve owner catalog = reference.resolve other catalog := by
  obtain ⟨wanted, isWanted⟩ := Option.ne_none_iff_exists'.mp named
  simp only [resolve, questions, isWanted, Option.some_or]

/-- What is found outside all packages for one referrer keeps a reference from finding
nothing for another one. -/
theorem resolve_ne_none (found : reference.resolve owner snapshot.catalog = .ok (some row))
    (rootLevel : row.key.isRootLevel = true) (other : Option String) :
    reference.resolve other snapshot.catalog ≠ .ok none := by
  intro nothing
  obtain ⟨_, listed, name, kind, _⟩ := candidate_of_resolve found
  exact resolve_eq_none_iff.mp nothing .anywhere row ⟨listed, name, kind, rootLevel⟩

/-- **A reference finds something for every referrer or for none**: one row for all of
them, unless it names no owner and finds rows outside all packages. -/
theorem exists_resolve_other
    (found : reference.resolve owner snapshot.catalog = .ok (some row)) (other : Option String) :
    ∃ again, reference.resolve other snapshot.catalog = .ok (some again) ∧
      (again = row ∨ reference.owner = none ∧ row.key.isRootLevel = true ∧
        again.key.isRootLevel = true) := by
  rcases reference.resolve_packaged_or_outside snapshot with ⟨always, ask⟩ | outside
  · obtain rfl := Option.some.inj (Except.ok.inj (found.symm.trans (ask owner)))
    exact ⟨row, ask other, .inl rfl⟩
  · by_cases unnamed : reference.owner = none
    · have rootLevel := outside owner row found
      obtain ⟨answer, resolved⟩ := exists_resolve reference other snapshot
      cases answer with
      | none => exact absurd resolved (resolve_ne_none found rootLevel other)
      | some again =>
          exact ⟨again, resolved, .inr ⟨unnamed, rootLevel, outside other again resolved⟩⟩
    · exact ⟨row, (resolve_congr_of_owner unnamed).trans found, .inl rfl⟩

end Reference

end SchemaPlan
