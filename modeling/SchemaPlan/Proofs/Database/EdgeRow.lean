import SchemaPlan.Database.EdgeLog
import SchemaPlan.Proofs.Object
import SchemaPlan.Proofs.Outcome

/-!
# Records as rows

A record is kept as a row of texts, in which a blank stands for what is missing when
rows are compared.  For records whose names are in stored form nothing is lost by
this: the row is read as the record again (`toEdge_ofEdge`), and two rows repeat each
other only if they are the same record of the same stage (`repeats_ofEdge`).
-/

set_option autoImplicit false

namespace SchemaPlan

/-! ## Records in stored form -/

/-- A record of references that have been made so. -/
structure Edge.IsMade (edge : Edge) : Prop where
  object : edge.object.IsMade
  dependency : ∀ dependency, edge.dependency = some dependency → dependency.IsMade

/-- Every table reads the name of a type as that type. -/
theorem TableName.readType_name (table : TableName) (objectType : ObjectType) :
    table.readType objectType.name = .ok objectType := by
  rw [readType, ObjectType.parse_name]
  rfl

namespace EdgeStatus

/-- The name of a status is read as that status. -/
theorem parse_name (status : EdgeStatus) : parse status.name = .ok status := by
  cases status <;> with_unfolding_all rfl

theorem name_injective {first second : EdgeStatus} (same : first.name = second.name) :
    first = second := by
  have read := parse_name first
  rw [same, parse_name] at read
  exact (Except.ok.inj read).symm

end EdgeStatus

theorem EdgeStage.name_injective {first second : EdgeStage} (same : first.name = second.name) :
    first = second := by
  cases first <;> cases second <;> first | rfl | exact absurd same (by decide)

namespace EdgeRow

variable {stage other : EdgeStage} {edge another : Edge}

/-! ## Reading rows -/

theorem dependency_ofEdge (made : edge.IsMade) :
    (ofEdge stage edge).dependency = .ok edge.dependency := by
  cases needed : edge.dependency with
  | none => simp only [EdgeRow.dependency, ofEdge, needed, Option.map_none]
  | some dependency =>
      simp only [EdgeRow.dependency, ofEdge, needed, Option.map_some, Option.bind_some,
        Option.getD_some]
      refine Outcome.bind_eq_ok.mpr ⟨_, TableName.readType_name _ _, ?_⟩
      rw [(made.dependency dependency needed).new_eq]
      rfl

/-- **The row of a record is read as the record.** -/
theorem toEdge_ofEdge (made : edge.IsMade) : (ofEdge stage edge).toEdge = .ok edge := by
  refine Outcome.bind_eq_ok.mpr ⟨edge.status, ?_, Outcome.bind_eq_ok.mpr
    ⟨edge.object.key.objectType, TableName.readType_name _ _, Outcome.bind_eq_ok.mpr
      ⟨edge.dependency, dependency_ofEdge made, ?_⟩⟩⟩
  · exact Outcome.mapError_eq_ok.mpr (EdgeStatus.parse_name edge.status)
  · simp only [ofEdge, made.object.new_eq]
    rfl

/-! ## Repeated rows -/

theorem isOf_ofEdge : (ofEdge stage edge).isOf other = true ↔ stage = other := by
  rw [isOf, beq_iff_eq]
  exact ⟨EdgeStage.name_injective, congrArg EdgeStage.name⟩

/-- A row repeats only rows of its own stage. -/
theorem isOf_of_repeats {first second : EdgeRow} (repeats : first.repeats second = true)
    (isOf : first.isOf stage = true) : second.isOf stage = true := by
  have folded : first.folded = second.folded := of_decide_eq_true repeats
  have stages := congrArg EdgeRow.stage folded
  exact beq_iff_eq.mpr (stages.symm.trans (beq_iff_eq.mp isOf))

/-- A row belongs to one stage. -/
theorem eq_of_isOf {row : EdgeRow} (isOf : row.isOf stage = true)
    (alsoIsOf : row.isOf other = true) : stage = other :=
  EdgeStage.name_injective ((beq_iff_eq.mp isOf).symm.trans (beq_iff_eq.mp alsoIsOf))

theorem eq_of_getD_blank {first second : Option String} (firstNot : first ≠ some "")
    (secondNot : second ≠ some "") (same : first.getD "" = second.getD "") : first = second := by
  cases first <;> cases second <;> simp_all [eq_comm]

/-- References with the same texts, in which a blank stands for no owner, are the same. -/
theorem ref_eq_of_texts {first second : ObjectRef} (made : first.IsMade) (alsoMade : second.IsMade)
    (owner : first.owner.getD "" = second.owner.getD "")
    (objectType : first.key.objectType.name = second.key.objectType.name)
    (package : first.key.package = second.key.package) (name : first.key.name = second.key.name) :
    first = second :=
  ObjectRef.eq_of_fields (eq_of_getD_blank made.owner_ne_blank alsoMade.owner_ne_blank owner)
    (ObjectKey.eq_of_fields (ObjectType.name_injective objectType) package name)

/-- The rows of two records of one stage repeat each other only if the records are the
same. -/
theorem repeats_ofEdge (made : edge.IsMade) (alsoMade : another.IsMade) :
    (ofEdge stage edge).repeats (ofEdge stage another) = true ↔ edge = another := by
  constructor
  swap
  · rintro rfl
    exact decide_eq_true rfl
  intro repeats
  obtain ⟨status, object, dependency⟩ := edge
  obtain ⟨otherStatus, otherObject, otherDependency⟩ := another
  have same := of_decide_eq_true repeats
  simp only [folded, ofEdge, EdgeRow.mk.injEq, Option.some.injEq, true_and] at same
  obtain ⟨isStatus, objectOwner, objectType, objectPackage, objectName, owner, type, package,
    name⟩ := same
  have sameObject := ref_eq_of_texts made.object alsoMade.object objectOwner objectType
    objectPackage objectName
  have sameDependency : dependency = otherDependency := by
    cases dependency with
    | none =>
        cases otherDependency with
        | none => rfl
        | some other => exact absurd type.symm (ObjectType.name_ne_empty _)
    | some needed =>
        cases otherDependency with
        | none => exact absurd type (ObjectType.name_ne_empty _)
        | some other =>
            exact congrArg some (ref_eq_of_texts (made.dependency needed rfl)
              (alsoMade.dependency other rfl) owner type package name)
  rw [Edge.mk.injEq]
  exact ⟨EdgeStatus.name_injective isStatus, sameObject, sameDependency⟩

end EdgeRow

end SchemaPlan
