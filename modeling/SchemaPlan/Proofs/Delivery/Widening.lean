import SchemaPlan.Proofs.Delivery.Statuses

/-!
# Selecting more

A selection that names more packages to deliver and fewer packages never to deliver
delivers no less (`Widens.delivers`).  A package that is named besides makes its members
independent of what requires them, but then it is either one to deliver, or it was one
never to deliver before.  So whatever the members had inherited, they are now given.

To name no package at all asks for everything, so the rule starts with the first
package that is named.
-/

set_option autoImplicit false

namespace SchemaPlan.Selection

open DependencyGraph

variable {selection narrow wide : Selection} {missing : OrderedSet ObjectKey}
  {graph : DependencyGraph} {key : ObjectKey} {package : String} {id : Nat}

/-- A selection asks for particular packages, and another one asks for no less. -/
structure Widens (wide narrow : Selection) : Prop where
  particular : ∃ package, package ∈ narrow.install
  install : ∀ package ∈ narrow.install, package ∈ wide.install
  skip : ∀ package ∈ wide.skip, package ∈ narrow.skip

/-! ## Names in stored form -/

theorem mem_packageNames {names : List String} :
    package ∈ packageNames names ↔ package ≠ "" ∧ ∃ name ∈ names, Text.canonical name = package := by
  rw [packageNames, OrderedSet.mem_ofList, List.mem_filter, List.mem_map, and_comm]
  simp

/-- More names to deliver and fewer never to deliver, of which one is not blank. -/
theorem widens_new {install more skip fewer : List String}
    (particular : ∃ name ∈ install, Text.canonical name ≠ "") (isMore : install ⊆ more)
    (isFewer : fewer ⊆ skip) : (new more fewer).Widens (new install skip) where
  particular := by
    obtain ⟨name, listed, nonempty⟩ := particular
    exact ⟨_, mem_packageNames.mpr ⟨nonempty, name, listed, rfl⟩⟩
  install _ member := by
    obtain ⟨nonempty, name, listed, stored⟩ := mem_packageNames.mp member
    exact mem_packageNames.mpr ⟨nonempty, name, isMore listed, stored⟩
  skip _ member := by
    obtain ⟨nonempty, name, listed, stored⟩ := mem_packageNames.mp member
    exact mem_packageNames.mpr ⟨nonempty, name, isFewer listed, stored⟩

/-! ## Before anything is inherited -/

theorem installsEverything_eq_false (member : package ∈ selection.install) :
    selection.installsEverything = false :=
  List.isEmpty_eq_false_iff.mpr (List.ne_nil_of_mem member)

/-- A selection of particular packages delivers their members, unless the package is never to
be delivered as well. -/
theorem initialStatus_eq_install (particular : selection.installsEverything = false) :
    selection.initialStatus missing key = .install ↔ key ∉ missing ∧
      ∃ package, key.deliveryPackage? = some package ∧ package ∈ selection.install ∧
        package ∉ selection.skip := by
  by_cases isMissing : key ∈ missing
  · rw [initialStatus_eq_missing.mpr isMissing]
    exact iff_of_false (by decide) fun both => both.1 isMissing
  · cases isPackage : key.deliveryPackage? with
    | none => simp [initialStatus, OrderedSet.contains, isMissing, isPackage, particular]
    | some package =>
        by_cases skipped : package ∈ selection.skip
        · simp [initialStatus, OrderedSet.contains, isMissing, isPackage, skipped]
        · simp [initialStatus, OrderedSet.contains, isMissing, isPackage, skipped, particular]

theorem initialStatus_eq_skip (particular : selection.installsEverything = false) :
    selection.initialStatus missing key = .skip ↔ key ∉ missing ∧
      ∀ package, key.deliveryPackage? = some package → package ∈ selection.install →
        package ∈ selection.skip := by
  have missing_or : selection.initialStatus missing key = .skip ↔
      selection.initialStatus missing key ≠ .missing ∧
        selection.initialStatus missing key ≠ .install := by
    cases selection.initialStatus missing key <;> decide
  rw [missing_or, Ne, initialStatus_eq_missing, Ne, initialStatus_eq_install particular]
  refine and_congr_right fun present => ?_
  simp only [present, not_false_eq_true, true_and, not_exists, not_and, not_not]

/-! ## What is delivered -/

namespace Widens

variable (widens : wide.Widens narrow)
include widens

theorem narrow_particular : narrow.installsEverything = false := by
  obtain ⟨_, member⟩ := widens.particular
  exact installsEverything_eq_false member

theorem wide_particular : wide.installsEverything = false := by
  obtain ⟨_, member⟩ := widens.particular
  exact installsEverything_eq_false (widens.install _ member)

/-- What is chosen stays chosen. -/
theorem decidesFirst_install (decided : narrow.DecidesFirst missing graph id .install) :
    wide.DecidesFirst missing graph id .install := by
  obtain ⟨node, found, isInstall⟩ := decided
  obtain ⟨present, package, isPackage, chosen, notSkipped⟩ :=
    (initialStatus_eq_install widens.narrow_particular).mp isInstall
  exact ⟨node, found, (initialStatus_eq_install widens.wide_particular).mpr
    ⟨present, package, isPackage, widens.install _ chosen,
      fun skipped => notSkipped (widens.skip _ skipped)⟩⟩

/-- What could inherit is chosen now, or can inherit still. -/
theorem chosen_or_free (decided : narrow.DecidesFirst missing graph id .skip)
    (free : ¬ narrow.NamesPackageOf graph id) :
    wide.DecidesFirst missing graph id .install ∨
      wide.DecidesFirst missing graph id .skip ∧ ¬ wide.NamesPackageOf graph id := by
  obtain ⟨node, found, isSkip⟩ := decided
  have present := ((initialStatus_eq_skip widens.narrow_particular).mp isSkip).1
  have notSkipped : ∀ package, node.key.deliveryPackage? = some package → package ∉ wide.skip :=
    fun package isPackage skipped =>
      free ⟨node, package, found, isPackage, .inr (widens.skip _ skipped)⟩
  by_cases chosen : ∃ package, node.key.deliveryPackage? = some package ∧ package ∈ wide.install
  · obtain ⟨package, isPackage, named⟩ := chosen
    exact .inl ⟨node, found, (initialStatus_eq_install widens.wide_particular).mpr
      ⟨present, package, isPackage, named, notSkipped package isPackage⟩⟩
  · refine .inr ⟨⟨node, found, (initialStatus_eq_skip widens.wide_particular).mpr
      ⟨present, fun package isPackage named => absurd ⟨package, isPackage, named⟩ chosen⟩⟩, ?_⟩
    rintro ⟨other, package, alsoFound, isPackage, named | skipped⟩
    · obtain rfl := Option.some.inj (found.symm.trans alsoFound)
      exact chosen ⟨package, isPackage, named⟩
    · obtain rfl := Option.some.inj (found.symm.trans alsoFound)
      exact notSkipped package isPackage skipped

/-- **What is delivered stays delivered**, along every way on which it is inherited. -/
theorem delivers (delivers : narrow.Delivers missing graph id) :
    wide.Delivers missing graph id := by
  induction delivers with
  | chosen decided => exact .chosen (widens.decidesFirst_install decided)
  | inherited _ required decided free ih =>
      rcases widens.chosen_or_free decided free with chosen | ⟨stillSkip, stillFree⟩
      · exact .chosen chosen
      · exact .inherited ih required stillSkip stillFree

end Widens

/-! ## After classification -/

/-- Classification changes nothing about which nodes take part in delivery. -/
theorem scheduled_classified (selection : Selection) :
    (selection.classified missing graph).scheduled = graph.scheduled := by
  have kept : ∀ (graph : DependencyGraph) (status : Nat → Node → NodeStatus),
      (graph.assignStatuses status).scheduled = graph.scheduled := by
    intro graph status
    rw [scheduled, scheduled, ids_assignStatuses]
    refine List.filter_congr fun id _ => ?_
    rw [isScheduled, isScheduled, node?_assignStatuses, Option.any_map]
  exact (kept _ _).trans (kept _ _)

/-- **Selecting more never delivers less.**  An acyclic graph is classified under a selection
and under one that names more to deliver and less never to deliver.  Every node that is
delivered under the first one is delivered under the second one, so no fewer are. -/
theorem classify_widens {changes : List GraphChange} (acyclic : (ofChanges changes).Acyclic)
    (widens : wide.Widens narrow) :
    ∃ fewer more fewerSummary moreSummary,
      narrow.classify missing (ofChanges changes) = .ok (fewer, fewerSummary) ∧
      wide.classify missing (ofChanges changes) = .ok (more, moreSummary) ∧
      (∀ id, fewer.hasStatus .install id = true → more.hasStatus .install id = true) ∧
      fewerSummary.install ≤ moreSummary.install := by
  have proper := proper_ofChanges changes
  have kept : ∀ id, (narrow.classified missing (ofChanges changes)).hasStatus .install id = true →
      (wide.classified missing (ofChanges changes)).hasStatus .install id = true := by
    intro id
    rw [install_classified_iff proper, install_classified_iff proper]
    exact widens.delivers
  refine ⟨_, _, _, _, classify_of_acyclic proper acyclic, classify_of_acyclic proper acyclic,
    kept, ?_⟩
  rw [summary, summary, countStatus, countStatus, scheduled_classified, scheduled_classified]
  exact List.countP_mono_left fun id _ => kept id

/-- What sales need of the ledger is inherited.  It stays delivered when the ledger is named
besides and taxes are no longer held back. -/
theorem classify_widens_salesChanges :
    (ofChanges salesChanges).Acyclic ∧
    (new ["sales", "ledger"] []).Widens salesSelection ∧
    ∃ more summary,
      (new ["sales", "ledger"] []).classify (.ofList [.rootLevel .procedure "GONE"])
        (ofChanges salesChanges) = .ok (more, summary) ∧
      more.hasStatus .install 2 = true ∧ 3 ≤ summary.install := by
  have acyclic : (ofChanges salesChanges).Acyclic :=
    acyclic_of_lt (by with_unfolding_all decide)
  have widens : (new ["sales", "ledger"] []).Widens salesSelection :=
    show (new ["sales", "ledger"] []).Widens (new ["sales"] ["tax"]) from
      widens_new ⟨"sales", List.mem_cons_self, by with_unfolding_all decide⟩ (by simp) (by simp)
  obtain ⟨fewer, more, fewerSummary, moreSummary, done, alsoDone, kept, count⟩ :=
    @classify_widens _ _ (.ofList [.rootLevel .procedure "GONE"]) _ acyclic widens
  have delivered : (salesSelection.classify (.ofList [.rootLevel .procedure "GONE"])
      (ofChanges salesChanges)).map (fun result =>
        (result.1.hasStatus .install 2, result.2.install)) = .ok (true, 3) := by
    with_unfolding_all rfl
  rw [done] at delivered
  obtain ⟨inherited, three⟩ := Prod.mk.inj (Except.ok.inj delivered)
  exact ⟨acyclic, widens, more, moreSummary, alsoDone, kept 2 inherited, three ▸ count⟩

end SchemaPlan.Selection
