import SchemaPlan.Proofs.Delivery.Widening
import SchemaPlan.Proofs.Reference.Alike

/-!
# Contradictory targets

A configuration is refused when it names a package both among those to deliver and among
those never to deliver (`validate_eq_ok_iff`).  Names are compared for this as they were
written, up to the case of their letters, while the selection removes the blanks around
them as well.  So a package can be in both sets of the selection of an accepted
configuration, if one of the lists writes it with blanks around it, and only then
(`contradicts_iff_of_valid`).
-/

set_option autoImplicit false

namespace SchemaPlan.Config

open Text (Trimmed)

variable {config : Config}

/-! ## What is accepted -/

theorem contradictoryPackages_eq_nil {targets : TargetConfig} :
    contradictoryPackages targets = [] ↔ ∀ package ∈ targets.installPackages,
      ∀ skipped ∈ targets.skipPackages, Text.sameIgnoringCase skipped package = false := by
  simp [contradictoryPackages, List.filter_eq_nil_iff]

/-- **What is accepted**: no number that is given is zero, and no package to deliver is one
never to deliver in other letters. -/
theorem validate_eq_ok_iff : config.validate = .ok () ↔
    config.closure.maxIterations ≠ some 0 ∧ config.closure.maxUnresolvedRepeats ≠ some 0 ∧
      config.graph.minNameLength ≠ some 0 ∧
      ∀ package ∈ config.targets.installPackages, ∀ skipped ∈ config.targets.skipPackages,
        Text.sameIgnoringCase skipped package = false := by
  rw [← contradictoryPackages_eq_nil, ← List.isEmpty_iff, validate]
  split
  · next zero => exact iff_of_false (fun accepted => nomatch accepted) fun all => all.1 zero
  · next iterations =>
    split
    · next zero => exact iff_of_false (fun accepted => nomatch accepted) fun all => all.2.1 zero
    · next repeats =>
      split
      · next zero => exact iff_of_false (fun accepted => nomatch accepted) fun all => all.2.2.1 zero
      · next length =>
        dsimp only
        split
        · next none => exact iff_of_true rfl ⟨iterations, repeats, length, none⟩
        · next some =>
          exact iff_of_false (fun accepted => nomatch accepted) fun all => some all.2.2.2

/-! ## What the selection makes of it -/

/-- The selection names a package both for delivery and never to be delivered. -/
def Contradicts (targets : TargetConfig) : Prop :=
  ∃ package, package ∈ (Selection.ofTargets targets).install ∧
    package ∈ (Selection.ofTargets targets).skip

/-- Names have one stored form when they agree up to case once the blanks around them are
removed. -/
theorem canonical_eq_iff {first second : String} :
    Text.canonical first = Text.canonical second ↔
      Text.sameIgnoringCase (Text.trim first) (Text.trim second) = true :=
  beq_iff_eq.symm

/-- A stored form is empty when nothing is left without the blanks. -/
theorem canonical_ne_empty {name : String} : Text.canonical name ≠ "" ↔ Text.trim name ≠ "" := by
  rw [Ne, Ne, ← String.toList_eq_nil_iff, ← String.toList_eq_nil_iff, Text.toList_canonical,
    Text.toList_trim, List.map_eq_nil_iff]

theorem contradicts_iff {targets : TargetConfig} : Contradicts targets ↔
    ∃ package ∈ targets.installPackages, ∃ skipped ∈ targets.skipPackages,
      Text.sameIgnoringCase (Text.trim skipped) (Text.trim package) = true ∧
        Text.trim package ≠ "" := by
  constructor
  · rintro ⟨stored, isInstalled, isSkipped⟩
    obtain ⟨nonempty, package, listed, rfl⟩ := Selection.mem_packageNames.mp isInstalled
    obtain ⟨_, skipped, alsoListed, same⟩ := Selection.mem_packageNames.mp isSkipped
    exact ⟨package, listed, skipped, alsoListed, canonical_eq_iff.mp same,
      canonical_ne_empty.mp nonempty⟩
  · rintro ⟨package, listed, skipped, alsoListed, same, nonempty⟩
    have stored := canonical_ne_empty.mpr nonempty
    exact ⟨Text.canonical package, Selection.mem_packageNames.mpr ⟨stored, package, listed, rfl⟩,
      Selection.mem_packageNames.mpr ⟨stored, skipped, alsoListed, canonical_eq_iff.mpr same⟩⟩

/-- **When the targets of an accepted configuration contradict each other**: exactly when a
package to deliver and one never to deliver agree up to case and the blanks around them, and
one of the two is written with such blanks.  So they never do when all names are written
without blanks around them. -/
theorem contradicts_iff_of_valid (valid : config.validate = .ok ()) :
    (Contradicts config.targets ↔
      ∃ package ∈ config.targets.installPackages, ∃ skipped ∈ config.targets.skipPackages,
        Text.sameIgnoringCase (Text.trim skipped) (Text.trim package) = true ∧
          Text.trim package ≠ "" ∧ ¬ (Trimmed package ∧ Trimmed skipped)) ∧
    ((∀ name ∈ config.targets.installPackages ++ config.targets.skipPackages, Trimmed name) →
      ∀ package ∈ (Selection.ofTargets config.targets).install,
        package ∉ (Selection.ofTargets config.targets).skip) := by
  obtain ⟨_, _, _, apart⟩ := validate_eq_ok_iff.mp valid
  have blanks : Contradicts config.targets ↔
      ∃ package ∈ config.targets.installPackages, ∃ skipped ∈ config.targets.skipPackages,
        Text.sameIgnoringCase (Text.trim skipped) (Text.trim package) = true ∧
          Text.trim package ≠ "" ∧ ¬ (Trimmed package ∧ Trimmed skipped) := by
    refine contradicts_iff.trans ?_
    refine exists_congr fun package => and_congr_right fun listed => exists_congr fun skipped =>
      and_congr_right fun alsoListed => and_congr_right fun same => ?_
    refine (and_iff_left ?_).symm
    rintro ⟨packageWhole, skippedWhole⟩
    -- Without blanks around them the names are compared as they are, and then refused.
    rw [skippedWhole, packageWhole, apart package listed skipped alsoListed] at same
    cases same
  refine ⟨blanks, fun whole package isInstalled isSkipped => ?_⟩
  obtain ⟨package, listed, skipped, alsoListed, _, _, blank⟩ :=
    blanks.mp ⟨package, isInstalled, isSkipped⟩
  exact blank ⟨whole package (List.mem_append_left _ listed),
    whole skipped (List.mem_append_right _ alsoListed)⟩

/-- A configuration that names one package in both lists, once with a blank behind it. -/
def blankedConfig : Config where
  targets := { installPackages := ["xx_pkg "], skipPackages := ["XX_PKG"] }

theorem valid_blankedConfig : blankedConfig.validate = .ok () := by
  with_unfolding_all rfl

/-- The configuration is accepted, and its targets contradict each other. -/
theorem blankedConfig_contradicts :
    blankedConfig.validate = .ok () ∧ Contradicts blankedConfig.targets := by
  refine ⟨valid_blankedConfig, (contradicts_iff_of_valid valid_blankedConfig).1.mpr ?_⟩
  refine ⟨"xx_pkg ", List.mem_singleton_self _, "XX_PKG", List.mem_singleton_self _, ?_, ?_, ?_⟩
  · with_unfolding_all rfl
  · decide
  · rintro ⟨whole, _⟩
    exact absurd whole (by rw [Trimmed]; decide)

/-- Accepted targets may contradict each other. -/
theorem not_forall_consistent_targets :
    ¬ ∀ config : Config, config.validate = .ok () →
      ∀ package ∈ (Selection.ofTargets config.targets).install,
        package ∉ (Selection.ofTargets config.targets).skip := by
  intro consistent
  have installed : "XX_PKG" ∈ (Selection.ofTargets blankedConfig.targets).install := by
    with_unfolding_all decide
  have skipped : "XX_PKG" ∈ (Selection.ofTargets blankedConfig.targets).skip := by
    with_unfolding_all decide
  exact consistent blankedConfig valid_blankedConfig "XX_PKG" installed skipped

end SchemaPlan.Config
