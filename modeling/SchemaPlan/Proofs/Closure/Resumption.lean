import SchemaPlan.Proofs.Closure.Log
import SchemaPlan.Proofs.Closure.Truth

/-!
# Resuming an interrupted run

A run that is stopped leaves its records in the sink, and a new run can begin with
them.  The new run takes up the objects of the confirmed records only.  An object
without source has at first no other record than that it is missing.  When the
run is stopped then, the object is not taken up again, and a reference to it is
taken for its placeholder, which is missing.  So the object is lost, with the
records about it.

When names are unambiguous this is all that can be lost: the new run leads to the
same closure exactly when it comes to know the objects that have been recorded as
missing.
-/

set_option autoImplicit false

namespace SchemaPlan

/-- Two closures hold the same objects, the same missing keys and the same
records. -/
structure Closure.SameContents (first second : Closure) : Prop where
  objects : first.objects = second.objects
  missing : first.missing = second.missing
  edges : ∀ edge, edge ∈ first.edges ↔ edge ∈ second.edges

namespace Expansion

variable {expansion : Expansion} {roots : List ObjectRef} {snapshot : Snapshot}

/-- The same expansion, with other answers to the checks whether it is cancelled. -/
def stoppedBy (expansion : Expansion) (isCancelled : Nat → Bool) : Expansion :=
  { expansion with isCancelled }

/-- The same expansion, begun with the records of an earlier run. -/
def resumedFrom (expansion : Expansion) (records : List Edge) : Expansion :=
  { expansion with prior := records }

/-- **Closures with one meaning have the same contents**, also when they begin with
the records of different runs. -/
theorem Finishes.sameContents {first second : Expansion} (same : second.afresh = first.afresh)
    (isSnapshot : first.catalog = snapshot.catalog)
    (unambiguous : first.afresh.Unambiguous roots)
    (allowed : ∀ edge ∈ first.prior, first.afresh.Allows roots edge)
    (alsoAllowed : ∀ edge ∈ second.prior, second.afresh.Allows roots edge)
    {last alsoLast : Nat} {final alsoFinal : ClosureState} {closure other : Closure}
    (finishes : Finishes first roots last final closure)
    (alsoFinishes : Finishes second roots alsoLast alsoFinal other)
    (readmits : first.Readmits roots final) (alsoReadmits : second.Readmits roots alsoFinal) :
    other.SameContents closure := by
  have alsoSnapshot : second.catalog = snapshot.catalog :=
    (congrArg Expansion.catalog same).trans isSnapshot
  have alsoUnambiguous : second.afresh.Unambiguous roots := same ▸ unambiguous
  have known : ∀ member, member ∈ alsoFinal.known ↔ member ∈ final.known := by
    intro member
    rw [finishes.mem_known_iff isSnapshot unambiguous allowed readmits,
      alsoFinishes.mem_known_iff alsoSnapshot alsoUnambiguous alsoAllowed alsoReadmits, same]
  have sorted : alsoFinal.sortedKnown = final.sortedKnown :=
    Sorting.sortOn_congr alsoFinishes.scans.sound.1.keysDistinct
      finishes.scans.sound.1.keysDistinct known
  have owners : alsoFinal.ownerOfName? = final.ownerOfName? := by
    funext name
    rw [ClosureState.ownerOfName?, ClosureState.ownerOfName?, sorted]
  refine ⟨?_, OrderedSet.ext fun key => ?_, fun edge => ?_⟩
  · rw [finishes.objects_eq, alsoFinishes.objects_eq, sorted]
  · rw [finishes.mem_missing_iff isSnapshot unambiguous allowed readmits,
      alsoFinishes.mem_missing_iff alsoSnapshot alsoUnambiguous alsoAllowed alsoReadmits, same]
  · rw [finishes.mem_edges_iff isSnapshot unambiguous allowed readmits,
      alsoFinishes.mem_edges_iff alsoSnapshot alsoUnambiguous alsoAllowed alsoReadmits, same,
      owners]

/-! ## Records of a stopped run -/

theorem allows_of_fresh (fresh : expansion.prior = []) :
    ∀ edge ∈ expansion.prior, expansion.afresh.Allows roots edge := by
  intro edge recorded
  rw [fresh] at recorded
  exact absurd recorded List.not_mem_nil

theorem readmits_of_fresh (fresh : expansion.prior = []) (state : ClosureState) :
    expansion.Readmits roots state := by
  intro object recorded
  rw [fresh] at recorded
  exact absurd recorded List.not_mem_nil

/-- The records that a stopped run leaves are among those that the closure may
hold. -/
theorem allows_of_stopped (isSnapshot : expansion.catalog = snapshot.catalog)
    (fresh : expansion.prior = []) (unambiguous : expansion.afresh.Unambiguous roots)
    {first : ClosureState} (started : expansion.start roots = .ok first)
    {failure : ClosureError} {left : List Edge}
    (stopped : expansion.run EdgeList.sink roots [] = (.error failure, left)) :
    ∀ edge ∈ left, expansion.afresh.Allows roots edge := by
  have nothing : EdgeList.append [] expansion.prior = [] := by
    rw [fresh]
    rfl
  rw [← nothing] at stopped
  obtain ⟨_, final, scans, either⟩ := (log_of_run started stopped).2 failure rfl
  have truthful := scans.truthful isSnapshot unambiguous (allows_of_fresh fresh)
  rcases either with rfl | rfl
  · exact truthful.edges
  · exact (truthful.scanned isSnapshot unambiguous scans).edges

/-- What is taken up at the start is known in the end, and so is its package. -/
theorem Finishes.readmits_of_takenUp (isSnapshot : expansion.catalog = snapshot.catalog)
    (unambiguous : expansion.afresh.Unambiguous roots)
    (allowed : ∀ edge ∈ expansion.prior, expansion.afresh.Allows roots edge)
    {last : Nat} {final : ClosureState} {closure : Closure}
    (finishes : Finishes expansion roots last final closure)
    (takenUp : ∀ object, Edge.missing object ∈ expansion.prior →
      expansion.afresh.Reaches roots object → ∃ taken ∈ expansion.priorObjects ++ roots,
        taken = object ∨ containerOf? taken = some object) :
    expansion.Readmits roots final := by
  intro object earlier reaches _
  obtain ⟨taken, listed, origin⟩ := takenUp object earlier reaches
  have knows := finishes.scans.knows_start taken listed
  rcases origin with rfl | contained
  · exact knows
  · have truthful := finishes.scans.truthful isSnapshot unambiguous allowed
    obtain ⟨member, known, rfl⟩ :=
      truthful.mem_of_knows unambiguous (reaches_of_start allowed listed) knows
    exact finishes.scans.sound.2.housed member known object contained

/-! ## Resumed runs -/

/-- **What a resumed run loses.**  Over a snapshot, when names are unambiguous, a run
that resumes a stopped one leads to the same closure as a run that is not stopped,
exactly when it finds the objects that the stopped run has recorded as missing.  It
does when each of them, or a member of it, is a root or the object of a confirmed
record. -/
theorem resumed_sameContents_iff (isSnapshot : expansion.catalog = snapshot.catalog)
    (fresh : expansion.prior = []) (unambiguous : expansion.afresh.Unambiguous roots)
    {whole resumed : Closure} {log left after : List Edge}
    (complete : expansion.run EdgeList.sink roots [] = (.ok whole, log))
    {isCancelled : Nat → Bool} {failure : ClosureError}
    (stopped : (expansion.stoppedBy isCancelled).run EdgeList.sink roots [] =
      (.error failure, left))
    (again : (expansion.resumedFrom left).run EdgeList.sink roots left = (.ok resumed, after)) :
    (resumed.SameContents whole ↔
      ∀ edge ∈ left, edge.status = .missing → edge.object ∈ whole.objects →
        edge.object ∈ resumed.objects) ∧
    ((∀ edge ∈ left, edge.status = .missing → edge.object ∈ whole.objects →
        ∃ taken ∈ (expansion.resumedFrom left).priorObjects ++ roots,
          taken = edge.object ∨ containerOf? taken = some edge.object) →
      resumed.SameContents whole) := by
  obtain ⟨_, final, finishes⟩ := finishes_of_run complete
  obtain ⟨_, alsoFinal, alsoFinishes⟩ := finishes_of_run again
  obtain ⟨first, started⟩ := finishes.scans.started
  have allowed := @allows_of_fresh expansion roots fresh
  have readmits := @readmits_of_fresh expansion roots fresh final
  have alsoAllowed : ∀ edge ∈ left, expansion.afresh.Allows roots edge :=
    @allows_of_stopped (expansion.stoppedBy isCancelled) _ _ isSnapshot fresh unambiguous _ started
      _ _ stopped
  have inWhole : ∀ object, expansion.afresh.Reaches roots object → object ∈ whole.objects := by
    intro object reaches
    exact finishes.mem_objects.mpr
      (finishes.mem_known_of_reaches isSnapshot unambiguous allowed readmits reaches)
  have sameContents : (expansion.resumedFrom left).Readmits roots alsoFinal →
      resumed.SameContents whole := fun alsoReadmits =>
    @Finishes.sameContents roots snapshot expansion (expansion.resumedFrom left) rfl isSnapshot
      unambiguous allowed alsoAllowed _ _ _ _ _ _ finishes alsoFinishes readmits alsoReadmits
  refine ⟨⟨fun same edge _ _ listed => same.objects ▸ listed, fun found => ?_⟩, fun takenUp => ?_⟩
  · refine sameContents fun object earlier reaches _ => ?_
    have listed := found (Edge.missing object) earlier rfl (inWhole object reaches)
    obtain ⟨member, known, rfl⟩ := alsoFinishes.mem_objects.mp listed
    exact ClosureState.knows_iff.mpr ⟨member, known, rfl⟩
  · refine sameContents ?_
    refine @Finishes.readmits_of_takenUp (expansion.resumedFrom left) roots snapshot isSnapshot
      unambiguous alsoAllowed _ _ _ alsoFinishes ?_
    intro object earlier reaches
    exact takenUp (Edge.missing object) earlier rfl (inWhole object reaches)

/-- The rows of a procedure and of one without source that it calls. -/
def interruptedRows : CatalogRow × CatalogRow :=
  (.new "A" .procedure "" "MAIN", .new "A" .procedure "" "HELP")

/-- The catalog of the two procedures. -/
def interruptedSnapshot : Snapshot := Snapshot.ofRows [interruptedRows.1, interruptedRows.2]

/-- The expansion of the procedure. -/
def interruptedExpansion : Expansion where
  catalog := interruptedSnapshot.catalog
  sources := (SourceShelf.ofEntries [.new "A" "" "MAIN" "HELP;"]).store
  config := {}

/-- What the procedure calls. -/
def interruptedCall : Reference := Reference.qualify .procedure "HELP" ["A"] interruptedRows.1.toRef

/-- What is recorded when the run is cancelled after its first iteration. -/
def interruptedLog : List Edge := [Edge.missing interruptedRows.2.toRef]

theorem complete_interruptedExpansion :
    (interruptedExpansion.run EdgeList.sink [interruptedRows.1.toRef] []).1.toOption.map
      (·.objects) = some [interruptedRows.2.toRef, interruptedRows.1.toRef] := by
  with_unfolding_all rfl

theorem stopped_interruptedExpansion :
    (interruptedExpansion.stoppedBy fun check => decide (1 ≤ check)).run EdgeList.sink
      [interruptedRows.1.toRef] [] = (.error (.cancelled 1), interruptedLog) := by
  with_unfolding_all rfl

theorem resumed_interruptedExpansion :
    ((interruptedExpansion.resumedFrom interruptedLog).run EdgeList.sink
      [interruptedRows.1.toRef] interruptedLog).1.toOption.map (·.objects) =
      some [interruptedRows.1.toRef] := by
  with_unfolding_all rfl

theorem mentionsOf_interruptedExpansion :
    interruptedExpansion.mentionsOf interruptedRows.1.toRef = [interruptedCall] ∧
      interruptedExpansion.mentionsOf interruptedRows.2.toRef = [] := by
  constructor <;> with_unfolding_all rfl

/-- The procedure calls the other one, and nothing else is called. -/
theorem call_interruptedExpansion {object : ObjectRef} {reference : Reference} {answer : Option CatalogRow}
    (listed : object ∈ [interruptedRows.1.toRef, interruptedRows.2.toRef])
    (mentions : interruptedExpansion.afresh.Mentions object reference)
    (resolved : reference.resolve object.owner interruptedExpansion.catalog = .ok answer) :
    object = interruptedRows.1.toRef ∧ reference = interruptedCall ∧
      answer = some interruptedRows.2 := by
  have found : interruptedCall.resolve interruptedRows.1.toRef.owner
      interruptedExpansion.catalog = .ok (some interruptedRows.2) := by
    with_unfolding_all rfl
  have mentioned := mentions.mem_mentionsOf
  rcases List.mem_pair.mp listed with rfl | rfl
  · obtain rfl := List.mem_singleton.mp (mentionsOf_interruptedExpansion.1 ▸ mentioned)
    exact ⟨rfl, rfl, Except.ok.inj (resolved.symm.trans found)⟩
  · exact absurd (mentionsOf_interruptedExpansion.2 ▸ mentioned) List.not_mem_nil

theorem reaches_interruptedExpansion {object : ObjectRef}
    (reaches : interruptedExpansion.afresh.Reaches [interruptedRows.1.toRef] object) :
    object ∈ [interruptedRows.1.toRef, interruptedRows.2.toRef] := by
  have uncontained : ∀ object ∈ [interruptedRows.1.toRef, interruptedRows.2.toRef],
      containerOf? object = none := by
    with_unfolding_all decide
  refine reaches.mem_of_closed ?_ ?_ ?_
  · intro root isRoot
    exact List.mem_cons.mpr (.inl (List.mem_singleton.mp isRoot))
  · intro object listed package contained
    rw [uncontained object listed] at contained
    cases contained
  · intro object listed reference row mentions resolved
    obtain ⟨_, _, isRow⟩ := call_interruptedExpansion listed mentions resolved
    rw [Option.some.inj isRow]
    exact List.mem_cons_of_mem _ List.mem_cons_self

theorem unambiguous_interruptedExpansion :
    interruptedExpansion.afresh.Unambiguous [interruptedRows.1.toRef] := by
  have call : ∀ {caller reference answer},
      interruptedExpansion.afresh.Calls [interruptedRows.1.toRef] caller reference answer →
      caller = interruptedRows.1.toRef ∧ reference = interruptedCall ∧
        answer = some interruptedRows.2 := fun calls =>
    call_interruptedExpansion (reaches_interruptedExpansion calls.reaches) calls.mentions calls.resolved
  have fits : Fits interruptedCall interruptedRows.2.toRef := by
    constructor <;> with_unfolding_all decide
  refine ⟨?_, ?_, ?_, ?_, ?_, ?_⟩
  · intro first second reaches alsoReaches
    have distinct : ∀ first ∈ [interruptedRows.1.toRef, interruptedRows.2.toRef],
        ∀ second ∈ [interruptedRows.1.toRef, interruptedRows.2.toRef],
          first.key = second.key → first = second := by
      with_unfolding_all decide
    exact distinct _ (reaches_interruptedExpansion reaches) _
      (reaches_interruptedExpansion alsoReaches)
  · intro first second reference answer other calls alsoCalls
    rw [(call calls).2.2, (call alsoCalls).2.2]
  · intro caller reference answer object calls reaches fitting
    obtain ⟨rfl, rfl, rfl⟩ := call calls
    rcases List.mem_pair.mp (reaches_interruptedExpansion reaches) with rfl | rfl
    · have otherName : interruptedRows.1.toRef.key.name ≠ interruptedCall.name := by
        with_unfolding_all decide
      exact absurd fitting.name otherName
    · exact ⟨interruptedRows.2, rfl, rfl⟩
  · intro first second reference other answer calls
    cases (call calls).2.2
  · intro caller reference answer object calls reaches _ sameKey
    obtain ⟨rfl, rfl, rfl⟩ := call calls
    rcases List.mem_pair.mp (reaches_interruptedExpansion reaches) with rfl | rfl
    · have otherKey : interruptedCall.placeholder.key ≠ interruptedRows.1.toRef.key := by
        with_unfolding_all decide
      exact absurd sameKey otherKey
    · exact fits
  · intro caller reference row calls _
    obtain ⟨rfl, rfl, isRow⟩ := call calls
    obtain rfl := Option.some.inj isRow
    refine .inr ⟨by with_unfolding_all decide, fun other reaches _ => ?_⟩
    have owned : ∀ object ∈ [interruptedRows.1.toRef, interruptedRows.2.toRef],
        object.owner = interruptedRows.2.toRef.owner := by
      with_unfolding_all decide
    exact owned other (reaches_interruptedExpansion reaches)

theorem not_sameContents_interruptedExpansion :
    ∃ whole resumed log after,
      interruptedExpansion.run EdgeList.sink [interruptedRows.1.toRef] [] = (.ok whole, log) ∧
      (interruptedExpansion.resumedFrom interruptedLog).run EdgeList.sink
        [interruptedRows.1.toRef] interruptedLog = (.ok resumed, after) ∧
      ¬ resumed.SameContents whole := by
  obtain ⟨whole, log, complete, objects⟩ := Outcome.eq_ok_of_reading complete_interruptedExpansion
  obtain ⟨resumed, after, again, fewer⟩ := Outcome.eq_ok_of_reading resumed_interruptedExpansion
  refine ⟨whole, resumed, log, after, complete, again, fun same => ?_⟩
  have sameObjects := same.objects
  rw [objects, fewer] at sameObjects
  simp at sameObjects

/-- The run that is resumed does not find the procedure without source. -/
theorem interruptedExpansion_loses_missing :
    ∃ whole resumed log after,
      interruptedExpansion.run EdgeList.sink [interruptedRows.1.toRef] [] = (.ok whole, log) ∧
      (interruptedExpansion.stoppedBy fun check => decide (1 ≤ check)).run EdgeList.sink
        [interruptedRows.1.toRef] [] = (.error (.cancelled 1), interruptedLog) ∧
      (interruptedExpansion.resumedFrom interruptedLog).run EdgeList.sink
        [interruptedRows.1.toRef] interruptedLog = (.ok resumed, after) ∧
      ∃ edge ∈ interruptedLog, edge.status = .missing ∧ edge.object ∈ whole.objects ∧
        edge.object ∉ resumed.objects := by
  obtain ⟨whole, resumed, log, after, complete, again, differs⟩ :=
    not_sameContents_interruptedExpansion
  obtain ⟨exactly, _⟩ := @resumed_sameContents_iff interruptedExpansion [interruptedRows.1.toRef]
    interruptedSnapshot rfl rfl unambiguous_interruptedExpansion _ _ _ _ _ complete _ _
    stopped_interruptedExpansion again
  refine ⟨whole, resumed, log, after, complete, stopped_interruptedExpansion, again, ?_⟩
  have lost := mt exactly.mpr differs
  push Not at lost
  exact lost

/-- **Resuming a run loses records in general**, also when the run is cancelled
after a number of checks and the roots have owners. -/
theorem not_forall_sameContents :
    ¬ ∀ (snapshot : Snapshot) (expansion : Expansion) (roots : List ObjectRef) (checks : Nat)
        (whole resumed : Closure) (log left after : List Edge) (failure : ClosureError),
      expansion.catalog = snapshot.catalog → expansion.prior = [] →
      (∀ root ∈ roots, root.owner ≠ none) →
      expansion.run EdgeList.sink roots [] = (.ok whole, log) →
      (expansion.stoppedBy fun check => decide (checks ≤ check)).run EdgeList.sink roots [] =
        (.error failure, left) →
      (expansion.resumedFrom left).run EdgeList.sink roots left = (.ok resumed, after) →
      resumed.SameContents whole := by
  intro always
  obtain ⟨whole, resumed, log, after, complete, again, differs⟩ :=
    not_sameContents_interruptedExpansion
  have owned : ∀ root ∈ [interruptedRows.1.toRef], root.owner ≠ none := by
    with_unfolding_all decide
  exact differs (always interruptedSnapshot interruptedExpansion [interruptedRows.1.toRef] 1 whole
    resumed log interruptedLog after (.cancelled 1) rfl rfl owned complete
    stopped_interruptedExpansion again)

end Expansion

end SchemaPlan
