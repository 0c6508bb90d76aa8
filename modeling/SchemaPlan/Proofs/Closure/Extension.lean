import SchemaPlan.Proofs.Closure.Lookup

/-!
# Later states of a run

From one iteration to the next a state only gains known objects, answers and
missing keys (`Extends`).  What becomes known is the package of another object
or the answer to a reference, and only references without an answer are asked.

Therefore an answer is never taken back.  It may be replaced in two ways only:
an object becomes known for a reference that nothing satisfied, or a routine of
the referring package becomes known where one outside all packages had served.
-/

set_option autoImplicit false

namespace SchemaPlan.ClosureState

/-- One state comes after another one in a run. -/
structure Extends (before after : ClosureState) : Prop where
  owners : after.owners = before.owners
  known : before.known <+: after.known
  missing : ∀ key ∈ before.missing, key ∈ after.missing
  resolved : before.resolved <+: after.resolved
  /-- What became known is a package or the answer to a reference. -/
  fresh : ∀ member ∈ after.known, member ∈ before.known ∨
    (∃ package, member.object.key = ObjectKey.packageNode package) ∨
    ∃ reference, (reference, some member.object) ∈ after.resolved
  /-- What has been asked had no answer. -/
  asked : ∀ entry ∈ after.resolved, entry ∈ before.resolved ∨ before.target? entry.1 = none

variable {before after : ClosureState} {reference : Reference}

/-! ## Answers by their origin -/

/-- The first known object that satisfies a reference. -/
def knownTarget? (state : ClosureState) (reference : Reference) : Option ObjectRef :=
  (searchedPackages reference).findSome? (state.candidate? reference)

/-- Answers given before come first, then known objects, then missing keys. -/
theorem target?_eq (state : ClosureState) (reference : Reference) :
    state.target? reference =
      match state.answered? reference, state.knownTarget? reference with
      | some answer, _ => some (answer.getD reference.placeholder)
      | none, some object => some object
      | none, none =>
        if reference.placeholder.key ∈ state.missing then some reference.placeholder else none := by
  rw [target?, lookup, knownTarget?]
  rcases state.answered? reference with _ | _ | object
  · cases (searchedPackages reference).findSome? (state.candidate? reference) with
    | none => by_cases isMissing : reference.placeholder.key ∈ state.missing <;> simp [isMissing]
    | some object => rfl
  · rfl
  · rfl

/-- A reference is unanswered when none of these answers it. -/
theorem target?_eq_none {state : ClosureState} :
    state.target? reference = none ↔ state.answered? reference = none ∧
      state.knownTarget? reference = none ∧ reference.placeholder.key ∉ state.missing := by
  rw [target?_eq]
  cases state.answered? reference with
  | some answer => simp
  | none =>
      cases state.knownTarget? reference with
      | some object => simp
      | none => simp

theorem answered?_isSome {state : ClosureState} :
    (state.answered? reference).isSome = true ↔
      ∃ answer, (reference, answer) ∈ state.resolved := by
  simp only [answered?, Option.isSome_map, List.find?_isSome, decide_eq_true_eq]
  constructor
  · rintro ⟨⟨_, answer⟩, noted, rfl⟩
    exact ⟨answer, noted⟩
  · rintro ⟨answer, noted⟩
    exact ⟨(reference, answer), noted, rfl⟩

theorem mem_resolved_of_answered? {state : ClosureState} {answer : Option ObjectRef}
    (answered : state.answered? reference = some answer) :
    (reference, answer) ∈ state.resolved := by
  obtain ⟨⟨asked, _⟩, found, rfl⟩ := Option.map_eq_some_iff.mp answered
  obtain rfl : asked = reference := by simpa using List.find?_some found
  exact List.mem_of_find?_eq_some found

/-- A candidate is a known object with the package, the name and an accepted
type, and not of another owner than the reference asks for. -/
theorem candidate?_eq_some {state : ClosureState} {package : String} {object : ObjectRef}
    (found : state.candidate? reference package = some object) :
    ∃ member ∈ state.known, member.object = object ∧ object.key.package = package ∧
      object.key.name = reference.name ∧
      reference.kind.accepts object.key.objectType = true ∧
      ownerAgrees reference object = true := by
  obtain ⟨member, isFound, rfl⟩ := Option.map_eq_some_iff.mp found
  have passes := List.find?_some isFound
  simp only [Bool.and_eq_true, beq_iff_eq] at passes
  obtain ⟨⟨⟨package, name⟩, type⟩, owner⟩ := passes
  exact ⟨member, List.mem_of_find?_eq_some isFound, rfl, package, name, type, owner⟩

/-- A known object that satisfies a reference leaves its package not without a
candidate. -/
theorem candidate?_ne_none {state : ClosureState} {member : KnownObject}
    (known : member ∈ state.known) (name : member.object.key.name = reference.name)
    (type : reference.kind.accepts member.object.key.objectType = true)
    (owner : ownerAgrees reference member.object = true) :
    state.candidate? reference member.object.key.package ≠ none := by
  intro nothing
  have fails := List.find?_eq_none.mp (Option.map_eq_none_iff.mp nothing) member known
  simp [name, type, owner] at fails

theorem knownTarget?_eq_some {state : ClosureState} {object : ObjectRef}
    (found : state.knownTarget? reference = some object) :
    ∃ package ∈ searchedPackages reference,
      state.candidate? reference package = some object :=
  List.exists_of_findSome?_eq_some found

/-- An object that is present for a reference has been noted for it or is a
candidate. -/
theorem lookup_eq_present {state : ClosureState} {object : ObjectRef}
    (present : state.lookup reference = .present object) :
    (reference, some object) ∈ state.resolved ∨
      ∃ package ∈ searchedPackages reference, state.candidate? reference package = some object := by
  rw [lookup] at present
  split at present
  · next asked =>
    obtain rfl := Standing.present.inj present
    exact .inl (mem_resolved_of_answered? asked)
  · cases present
  · split at present
    · next found =>
      obtain rfl := Standing.present.inj present
      exact .inr (List.exists_of_findSome?_eq_some found)
    · split at present <;> cases present

/-- A reference that nothing satisfies has been noted as such, or its placeholder
is missing. -/
theorem lookup_eq_absent {state : ClosureState} (absent : state.lookup reference = .absent) :
    (reference, none) ∈ state.resolved ∨ reference.placeholder.key ∈ state.missing := by
  rw [lookup] at absent
  split at absent
  · cases absent
  · next asked => exact .inl (mem_resolved_of_answered? asked)
  · split at absent
    · cases absent
    · split at absent
      · next isMissing => exact .inr isMissing
      · cases absent

/-- One package is searched, or that of the referrer and then the root level. -/
theorem searchedPackages_cases (reference : Reference) :
    (∃ package, searchedPackages reference = [package]) ∨
      ∃ scope, reference.scope = some scope ∧
        searchedPackages reference = [scope.package, rootPackage] := by
  rw [searchedPackages]
  cases reference.package with
  | some package => exact .inl ⟨package, rfl⟩
  | none =>
      cases reference.scope with
      | none => exact .inl ⟨rootPackage, rfl⟩
      | some scope => exact .inr ⟨scope, rfl, rfl⟩

/-! ## Extensions -/

namespace Extends

theorem candidate? (extension : Extends before after) {package : String} {object : ObjectRef}
    (found : before.candidate? reference package = some object) :
    after.candidate? reference package = some object := by
  obtain ⟨member, isFound, rfl⟩ := Option.map_eq_some_iff.mp found
  rw [ClosureState.candidate?, extension.known.find?_eq_some isFound, Option.map_some]

theorem answered? (extension : Extends before after) {answer : Option ObjectRef}
    (answered : before.answered? reference = some answer) :
    after.answered? reference = some answer := by
  obtain ⟨entry, isFound, rfl⟩ := Option.map_eq_some_iff.mp answered
  rw [ClosureState.answered?, extension.resolved.find?_eq_some isFound, Option.map_some]

theorem knows (extension : Extends before after) {key : ObjectKey}
    (known : before.knows key = true) : after.knows key = true := by
  obtain ⟨member, inKnown, same⟩ := knows_iff.mp known
  exact knows_iff.mpr ⟨member, extension.known.subset inKnown, same⟩

/-- A reference that has been answered without being asked is not asked later. -/
theorem answered?_eq_none (extension : Extends before after) {target : ObjectRef}
    (answered : before.target? reference = some target)
    (unasked : before.answered? reference = none) : after.answered? reference = none := by
  rw [← Option.not_isSome_iff_eq_none, answered?_isSome]
  rintro ⟨answer, noted⟩
  rcases extension.asked _ noted with old | unanswered
  · have asked := answered?_isSome.mpr ⟨answer, old⟩
    rw [unasked] at asked
    cases asked
  · rw [unanswered] at answered
    cases answered

/-- A known object that answers a reference still does, unless the package of
the referrer has got a candidate of its own. -/
theorem knownTarget? (extension : Extends before after) {target : ObjectRef}
    (found : before.knownTarget? reference = some target) :
    ∃ later, after.knownTarget? reference = some later ∧ (later = target ∨
      ∃ scope, reference.scope = some scope ∧ scope.package ∈ searchedPackages reference ∧
        before.candidate? reference scope.package = none ∧
        after.candidate? reference scope.package = some later ∧
        before.candidate? reference rootPackage = some target) := by
  rw [ClosureState.knownTarget?] at found
  rw [ClosureState.knownTarget?]
  rcases searchedPackages_cases reference with ⟨package, only⟩ | ⟨scope, isScope, both⟩
  · rw [only, List.findSome?_singleton] at found
    rw [only, List.findSome?_singleton]
    exact ⟨target, extension.candidate? found, .inl rfl⟩
  · rw [both, List.findSome?_cons, List.findSome?_singleton] at found
    rw [both, List.findSome?_cons, List.findSome?_singleton]
    cases inScope : before.candidate? reference scope.package with
    | some object =>
        rw [inScope] at found
        rw [extension.candidate? inScope]
        exact ⟨object, rfl, .inl (Option.some.inj found)⟩
    | none =>
        rw [inScope] at found
        cases nowInScope : after.candidate? reference scope.package with
        | none => exact ⟨target, extension.candidate? found, .inl rfl⟩
        | some later =>
            exact ⟨later, rfl, .inr ⟨scope, isScope, List.mem_cons_self, inScope, nowInScope,
              found⟩⟩

/-- **An answer stays**, or an object that was not known takes its place: the
place of a placeholder, or that of an object outside all packages. -/
theorem target? (extension : Extends before after) {target : ObjectRef}
    (answered : before.target? reference = some target) :
    ∃ later, after.target? reference = some later ∧ (later = target ∨
      ∃ package ∈ searchedPackages reference,
        before.candidate? reference package = none ∧
        after.candidate? reference package = some later ∧
        (target = reference.placeholder ∧ reference.placeholder.key ∈ before.missing ∨
          (∃ scope, reference.scope = some scope ∧ package = scope.package) ∧
            before.candidate? reference rootPackage = some target)) := by
  cases asked : before.answered? reference with
  | some answer =>
      refine ⟨target, ?_, .inl rfl⟩
      rw [target?_eq, asked] at answered
      rw [target?_eq, extension.answered? asked]
      exact answered
  | none =>
      have unasked := extension.answered?_eq_none answered asked
      rw [target?_eq, asked] at answered
      rw [target?_eq, unasked]
      cases found : before.knownTarget? reference with
      | some object =>
          rw [found] at answered
          obtain rfl := Option.some.inj answered
          obtain ⟨later, nowFound, same⟩ := extension.knownTarget? found
          rw [nowFound]
          refine ⟨later, rfl, same.imp_right ?_⟩
          rintro ⟨scope, isScope, searched, was, isNow, atRoot⟩
          exact ⟨scope.package, searched, was, isNow, .inr ⟨⟨scope, isScope, rfl⟩, atRoot⟩⟩
      | none =>
          rw [found] at answered
          by_cases isMissing : reference.placeholder.key ∈ before.missing
          · obtain rfl : reference.placeholder = target := by simpa [isMissing] using answered
            cases nowFound : after.knownTarget? reference with
            | none => exact ⟨_, if_pos (extension.missing _ isMissing), .inl rfl⟩
            | some later =>
                obtain ⟨package, searched, isNow⟩ := knownTarget?_eq_some nowFound
                exact ⟨later, rfl, .inr ⟨package, searched,
                  List.findSome?_eq_none_iff.mp found package searched, isNow,
                  .inl ⟨rfl, isMissing⟩⟩⟩
          · simp [isMissing] at answered

/-! ## Steps -/

/-- Records and history do not matter. -/
theorem of_bare {state other : ClosureState} (same : other.bare = state.bare) :
    Extends state other := by
  obtain ⟨owners, known, resolved, missing⟩ := fields_of_bare same
  refine ⟨owners, known ▸ List.prefix_refl _, fun key member => missing ▸ member,
    resolved ▸ List.prefix_refl _, fun member inKnown => .inl (known ▸ inKnown),
    fun entry noted => .inl (resolved ▸ noted)⟩

theorem trans {first second third : ClosureState} (earlier : Extends first second)
    (later : Extends second third) : Extends first third where
  owners := later.owners.trans earlier.owners
  known := earlier.known.trans later.known
  missing key member := later.missing key (earlier.missing key member)
  resolved := earlier.resolved.trans later.resolved
  fresh member known := by
    rcases later.fresh member known with inSecond | isPackage | ⟨reference, noted⟩
    · rcases earlier.fresh member inSecond with old | isPackage | ⟨reference, noted⟩
      · exact .inl old
      · exact .inr (.inl isPackage)
      · exact .inr (.inr ⟨reference, later.resolved.subset noted⟩)
    · exact .inr (.inl isPackage)
    · exact .inr (.inr ⟨reference, noted⟩)
  asked entry noted := by
    rcases later.asked entry noted with inSecond | unanswered
    · exact earlier.asked entry inSecond
    · refine .inr (Option.eq_none_iff_forall_not_mem.mpr fun target answered => ?_)
      obtain ⟨_, still, _⟩ := earlier.target? (Option.mem_def.mp answered)
      rw [unanswered] at still
      cases still

variable {base state : ClosureState}

/-- An object may become known when it is a package or the answer to a
reference. -/
theorem enter (extension : Extends base state) {object : ObjectRef}
    (references : Option References)
    (origin : (∃ package, object.key = ObjectKey.packageNode package) ∨
      ∃ reference, (reference, some object) ∈ state.resolved) :
    Extends base (state.enter object references) := by
  obtain ⟨sameOwners, _, sameResolved, _⟩ := fields_enter state object references
  refine ⟨sameOwners.trans extension.owners, ?_, ?_, ?_, ?_, ?_⟩
  · rw [known_enter]
    exact extension.known.trans (List.prefix_append _ _)
  · exact fun key member => mem_missing_enter.mpr (.inl (extension.missing key member))
  · exact sameResolved ▸ extension.resolved
  · intro member known
    rw [sameResolved]
    rcases mem_known_enter.mp known with old | rfl
    · exact extension.fresh member old
    · exact .inr origin
  · exact sameResolved ▸ extension.asked

/-- The answer to a reference that had none may be noted. -/
theorem noteFound (extension : Extends base state) {object : ObjectRef}
    (unanswered : base.target? reference = none) :
    Extends base (state.noteFound reference object) := by
  refine ⟨extension.owners, extension.known, extension.missing,
    extension.resolved.trans (List.prefix_append _ _), ?_, ?_⟩
  · intro member known
    refine (extension.fresh member known).imp_right fun origin => origin.imp_right ?_
    exact fun ⟨asked, noted⟩ => ⟨asked, List.mem_append_left _ noted⟩
  · intro entry noted
    rcases List.mem_append.mp noted with old | new
    · exact extension.asked entry old
    · exact .inr (List.mem_singleton.mp new ▸ unanswered)

theorem noteUnresolved (extension : Extends base state) (referrer : ObjectRef)
    (iteration : Nat) (unanswered : base.target? reference = none) :
    Extends base (state.noteUnresolved reference referrer iteration) := by
  obtain ⟨sameOwners, sameKnown, nowResolved, nowMissing⟩ :=
    fields_noteUnresolved state reference referrer iteration
  refine ⟨sameOwners.trans extension.owners, sameKnown ▸ extension.known, ?_, ?_, ?_, ?_⟩
  · intro key member
    rw [nowMissing, OrderedSet.mem_insert]
    exact .inr (extension.missing key member)
  · rw [nowResolved]
    exact extension.resolved.trans (List.prefix_append _ _)
  · rw [sameKnown, nowResolved]
    intro member known
    refine (extension.fresh member known).imp_right fun origin => origin.imp_right ?_
    exact fun ⟨asked, noted⟩ => ⟨asked, List.mem_append_left _ noted⟩
  · rw [nowResolved]
    intro entry noted
    rcases List.mem_append.mp noted with old | new
    · exact extension.asked entry old
    · exact .inr (List.mem_singleton.mp new ▸ unanswered)

end Extends

end SchemaPlan.ClosureState
