import SchemaPlan.Proofs.Closure.Progress

/-!
# Runs that go further

One expansion relaxes another one when its catalog and its sources answer at least
what those of the other one do, and when it is stopped by no limit and no
cancellation that does not stop the other one (`Relaxes`).  Where a step of the
stricter expansion gives a result the relaxed one gives the same
(`Outcome.KeptBy`).  So, with a sink that accepts what the other sink accepts,
every iteration that the stricter run begins is begun by the relaxed one, with the
same state and the same references that have been pending (`Begins.relax`).
-/

set_option autoImplicit false

namespace SchemaPlan

namespace Outcome

variable {Failure Wider First Second Item State : Type}

/-- Where the first computation gives a result, the second gives the same. -/
def KeptBy (first second : Except Failure First) : Prop :=
  ∀ result, first = .ok result → second = .ok result

namespace KeptBy

theorem refl (computation : Except Failure First) : KeptBy computation computation :=
  fun _ done => done

theorem bind {first second : Except Failure First}
    {next further : First → Except Failure Second} (kept : KeptBy first second)
    (rest : ∀ value, KeptBy (next value) (further value)) :
    KeptBy (first >>= next) (second >>= further) := by
  intro result done
  obtain ⟨value, one, others⟩ := bind_eq_ok.mp done
  exact bind_eq_ok.mpr ⟨value, kept value one, rest value result others⟩

theorem mapError {first second : Except Failure First} (kept : KeptBy first second)
    (widen : Failure → Wider) : KeptBy (first.mapError widen) (second.mapError widen) :=
  fun result done => mapError_eq_ok.mpr (kept result (mapError_eq_ok.mp done))

theorem foldlM {step further : State → Item → Except Failure State}
    (kept : ∀ state item, KeptBy (step state item) (further state item)) (items : List Item)
    (state : State) : KeptBy (items.foldlM step state) (items.foldlM further state) := by
  induction items generalizing state with
  | nil => exact refl _
  | cons first rest ih => exact (kept state first).bind ih

end KeptBy

end Outcome

open Outcome (KeptBy)

/-- A sink that accepts what another one accepts, while their contents are related. -/
structure EdgeSink.Accepts {Log Other : Type} (sink : EdgeSink Other) (related : Log → Other → Prop)
    (strict : EdgeSink Log) : Prop where
  append : ∀ {log after other records}, related log other →
    strict.append log records = .ok after →
    ∃ next, sink.append other records = .ok next ∧ related after next

theorem EdgeSink.Accepts.refl {Log : Type} (sink : EdgeSink Log) : sink.Accepts Eq sink where
  append same appended := ⟨_, same ▸ appended, rfl⟩

namespace Expansion

/-- An expansion that gets wherever a stricter one gets. -/
structure Relaxes (relaxed strict : Expansion) : Prop where
  owners : KeptBy strict.catalog.owners relaxed.catalog.owners
  findInPackage : ∀ owner package names, KeptBy (strict.catalog.findInPackage owner package names)
    (relaxed.catalog.findInPackage owner package names)
  findByOwner : ∀ owner names, KeptBy (strict.catalog.findByOwner owner names)
    (relaxed.catalog.findByOwner owner names)
  existingPackages : ∀ names, KeptBy (strict.catalog.existingPackages names)
    (relaxed.catalog.existingPackages names)
  fetch : ∀ object, KeptBy (strict.sources.fetch object) (relaxed.sources.fetch object)
  prior : relaxed.prior = strict.prior
  extractor : relaxed.config.extractor = strict.config.extractor
  iterations : strict.config.effectiveMaxIterations ≤ relaxed.config.effectiveMaxIterations
  repeats : strict.config.effectiveMaxUnresolvedRepeats ≤
    relaxed.config.effectiveMaxUnresolvedRepeats
  uncancelled : ∀ check, strict.isCancelled check = false → relaxed.isCancelled check = false

namespace Relaxes

variable {relaxed strict : Expansion}

theorem refl (expansion : Expansion) : expansion.Relaxes expansion where
  owners := .refl _
  findInPackage _ _ _ := .refl _
  findByOwner _ _ := .refl _
  existingPackages _ := .refl _
  fetch _ := .refl _
  prior := rfl
  extractor := rfl
  iterations := Nat.le_refl _
  repeats := Nat.le_refl _
  uncancelled _ := id

/-! ## Steps -/

theorem extractLines (relaxes : relaxed.Relaxes strict) (extractor : Extractor)
    (lines : List String) : KeptBy (extractor.extractLines strict.catalog lines)
      (extractor.extractLines relaxed.catalog lines) := by
  rw [Extractor.extractLines, Extractor.extractLines, Extractor.extract, Extractor.extract]
  split
  · exact .refl _
  · exact (relaxes.existingPackages _).bind fun _ => .refl _

theorem referencesOf (relaxes : relaxed.Relaxes strict) (object : ObjectRef) :
    KeptBy (strict.referencesOf object) (relaxed.referencesOf object) := by
  refine ((relaxes.fetch object).mapError ClosureError.source).bind fun source => ?_
  cases source with
  | none => exact .refl _
  | some lines =>
      rw [relaxes.extractor]
      exact ((relaxes.extractLines _ lines).mapError ClosureError.catalog).bind fun _ => .refl _

theorem takeUpObject (relaxes : relaxed.Relaxes strict) (state : ClosureState)
    (object : ObjectRef) :
    KeptBy (strict.takeUpObject state object) (relaxed.takeUpObject state object) := by
  rw [Expansion.takeUpObject, Expansion.takeUpObject]
  split
  · exact .refl _
  · exact (relaxes.referencesOf object).bind fun _ => .refl _

theorem takeUp (relaxes : relaxed.Relaxes strict) (state : ClosureState) (object : ObjectRef) :
    KeptBy (strict.takeUp state object) (relaxed.takeUp state object) := by
  rw [Expansion.takeUp, Expansion.takeUp]
  split
  · exact .refl _
  · refine (relaxes.takeUpObject state object).bind fun admitted => ?_
    split
    · exact relaxes.takeUpObject admitted _
    · exact .refl _

theorem start (relaxes : relaxed.Relaxes strict) (roots : List ObjectRef) :
    KeptBy (strict.start roots) (relaxed.start roots) := by
  rw [Expansion.start, Expansion.start, priorObjects, priorObjects, relaxes.prior]
  exact (relaxes.owners.mapError ClosureError.catalog).bind fun _ => .foldlM relaxes.takeUp _ _

/-- Questions of the one catalog and of the other that are asked one after the
other. -/
theorem firstAnswer {reference : Reference} {questions others :
      List (Unit → Except CatalogError (List CatalogRow))}
    (kept : List.Forall₂ (fun question other => KeptBy (question ()) (other ())) questions others) :
    KeptBy (reference.firstAnswer questions) (reference.firstAnswer others) := by
  induction kept with
  | nil => exact .refl _
  | @cons question other _ _ here _ ih =>
      rw [Reference.firstAnswer, Reference.firstAnswer]
      cases asked : question () with
      | error failure =>
          intro result done
          cases done
      | ok rows =>
          rw [here rows asked]
          dsimp only
          split
          · exact .refl _
          · exact ih

theorem resolve (relaxes : relaxed.Relaxes strict) (reference : Reference)
    (owner : Option String) :
    KeptBy (reference.resolve owner strict.catalog) (reference.resolve owner relaxed.catalog) := by
  refine firstAnswer (Reference.forall₂_questions ?_ ?_ ?_ (relaxes.findByOwner _ _))
  · exact fun package _ => relaxes.findInPackage _ _ _
  · exact fun scope _ => relaxes.findInPackage _ _ _
  · exact fun asked _ => relaxes.findByOwner _ _

theorem resolveAll (relaxes : relaxed.Relaxes strict) (iteration : Nat) (state : ClosureState)
    (pending : List (Reference × ObjectRef)) :
    KeptBy (strict.resolveAll iteration state pending)
      (relaxed.resolveAll iteration state pending) := by
  refine .foldlM (fun state entry => ?_) pending state
  refine ((relaxes.resolve entry.1 entry.2.owner).mapError ClosureError.catalog).bind fun answer => ?_
  cases answer with
  | none => exact .refl _
  | some row => exact relaxes.takeUp _ _

/-- References that have not been pending too often have not been so for a larger
limit. -/
theorem stalled_eq_nil (relaxes : relaxed.Relaxes strict) {asked : List Reference}
    {pending : List (Reference × ObjectRef)} (patient : strict.stalled asked pending = []) :
    relaxed.stalled asked pending = [] := by
  rw [Expansion.stalled, List.filter_eq_nil_iff] at patient ⊢
  intro reference listed tooOften
  refine patient reference listed (decide_eq_true ?_)
  exact Nat.lt_of_le_of_lt relaxes.repeats (of_decide_eq_true tooOften)

end Relaxes

/-! ## Iterations -/

variable {Log Other : Type} {relaxed strict : Expansion} {sink : EdgeSink Other}
  {strictSink : EdgeSink Log} {related : Log → Other → Prop} {iteration : Nat}
  {state further : ClosureState} {asked more : List Reference} {before after : Log}

/-- Where an iteration of the stricter expansion leads on, that of the relaxed one
does. -/
theorem Relaxes.turn (relaxes : relaxed.Relaxes strict) (accepts : sink.Accepts related strictSink)
    {other : Other} (alike : related before other)
    (goesOn : strict.turn strictSink iteration state asked before = .onward further more after) :
    ∃ next, relaxed.turn sink iteration state asked other = .onward further more next ∧
      related after next := by
  have turned := turnsInto_turn strict strictSink iteration state asked before
  rw [goesOn] at turned
  cases turned with
  | onward free appended pending patient isResolved written =>
      obtain ⟨middle, appended, alike⟩ := accepts.append alike appended
      obtain ⟨next, written, alike⟩ := accepts.append alike written
      have resolved := relaxes.resolveAll _ _ _ _ isResolved
      have relaxedPatient := relaxes.stalled_eq_nil patient
      refine ⟨next, ?_, alike⟩
      rw [Expansion.turn, relaxes.uncancelled _ free]
      simp [appended, pending, Expansion.resolvePending, relaxedPatient, resolved, written]

/-- **The iterations of a stricter run are begun by a relaxed one** in the same
way. -/
theorem Begins.relax (relaxes : relaxed.Relaxes strict) (accepts : sink.Accepts related strictSink)
    {roots : List ObjectRef} {log : Log} {otherLog : Other} (alike : related log otherLog)
    (begins : Begins strict strictSink roots log iteration state asked before) :
    ∃ other, Begins relaxed sink roots otherLog iteration state asked other ∧
      related before other := by
  induction begins with
  | first started accepted =>
      obtain ⟨other, accepted, alike⟩ := accepts.append alike accepted
      exact ⟨other, .first (relaxes.start roots _ started) accepted, alike⟩
  | next _ allowed goesOn ih =>
      obtain ⟨middle, begins, alike⟩ := ih
      obtain ⟨other, goesOn, alike⟩ := relaxes.turn accepts alike goesOn
      exact ⟨other, begins.next (allowed.trans relaxes.iterations) goesOn, alike⟩

end Expansion

end SchemaPlan
