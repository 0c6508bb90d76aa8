import SchemaPlan.Proofs.Catalog
import SchemaPlan.Proofs.Reference.Extraction
import SchemaPlan.Reference.Basic

/-!
# Qualified names

A reference made from a name of source text has its name and its package in
stored form.  A confirmed package is a name without dots, so a reference to one
has no owner, no package and no scope, and is told by its name.

Of the segments of a name only the first two and the last one count (`outline`).  With dots
between them they are what is written of the reference behind its kind, and they are split
into the same segments again.  So the text stands for the reference
(`identified_by_text`), and two names stand for the same one when they have segments and the
same outline (`Resembles`).  A name without segments is kept as it is.
-/

set_option autoImplicit false

namespace SchemaPlan

open Text

namespace Reference

/-! ## Names of source text -/

/-- What a reference made from source text looks like. -/
structure Plain (reference : Reference) : Prop where
  name : reference.kind ≠ .package → Text.canonical reference.name = reference.name
  package : ∀ package, reference.package = some package → normalizePackage package = package
  bare : reference.kind = .package →
    reference.owner = none ∧ reference.package = none ∧ reference.scope = none

theorem isPlain_segments {raw segment : String}
    (plain : ∀ character ∈ raw.toList, IsPlain character) (member : segment ∈ segments raw) :
    segment ≠ "" ∧ ∀ character ∈ segment.toList, IsPlain character := by
  obtain ⟨isPiece, nonempty⟩ := List.mem_filter.mp member
  obtain ⟨piece, inSplit, rfl⟩ := List.mem_map.mp isPiece
  refine ⟨by simpa using nonempty, ?_⟩
  rw [String.toList_ofList]
  exact fun character inPiece => plain character (mem_splitWhere inSplit character inPiece).1

/-- The name and the package of a plain name are plain. -/
theorem isPlain_parts {kind : ReferenceKind} {raw : String} {owners : List String}
    (plain : ∀ character ∈ raw.toList, IsPlain character) :
    (∀ character ∈ (parts kind raw owners).2.2.toList, IsPlain character) ∧
      ∀ package, (parts kind raw owners).2.1 = some package →
        package ≠ "" ∧ ∀ character ∈ package.toList, IsPlain character := by
  have pieces : ∀ segment ∈ segments raw,
      segment ≠ "" ∧ ∀ character ∈ segment.toList, IsPlain character :=
    fun segment member => isPlain_segments plain member
  rw [parts]
  split
  · exact ⟨plain, nofun⟩
  · next name one =>
    rw [one] at pieces
    exact ⟨(pieces name List.mem_cons_self).2, nofun⟩
  · next qualifier name two =>
    rw [two] at pieces
    have nameFine := pieces name (List.mem_cons_of_mem _ List.mem_cons_self)
    split
    · exact ⟨nameFine.2, nofun⟩
    · refine ⟨nameFine.2, fun package same => ?_⟩
      obtain rfl := Option.some.inj same
      exact pieces qualifier List.mem_cons_self
  · next owner package name rest more =>
    rw [more] at pieces
    refine ⟨?_, fun other same => ?_⟩
    · have last : (name :: rest).getLast?.getD name ∈ owner :: package :: name :: rest := by
        rw [List.getLast?_eq_some_getLast (List.cons_ne_nil _ _), Option.getD_some]
        exact List.mem_cons_of_mem _ (List.mem_cons_of_mem _ (List.getLast_mem _))
      exact (pieces _ last).2
    · obtain rfl := Option.some.inj same
      exact pieces package (List.mem_cons_of_mem _ List.mem_cons_self)

/-- The owner that a plain name gives is plain. -/
theorem isPlain_owner_parts {kind : ReferenceKind} {raw : String} {owners : List String}
    (plain : ∀ character ∈ raw.toList, IsPlain character) {owner : String}
    (isOwner : (parts kind raw owners).1 = some owner) :
    ∀ character ∈ owner.toList, IsPlain character := by
  suffices inName : owner ∈ segments raw from (isPlain_segments plain inName).2
  rw [parts] at isOwner
  split at isOwner
  · cases isOwner
  · cases isOwner
  · next two =>
    rw [two]
    split at isOwner
    · exact Option.some.inj isOwner ▸ List.mem_cons_self
    · cases isOwner
  · next more =>
    rw [more]
    exact Option.some.inj isOwner ▸ List.mem_cons_self

/-- A name without dots is qualified by nothing. -/
theorem parts_of_no_dot {kind : ReferenceKind} {raw : String} {owners : List String}
    (noDot : '.' ∉ raw.toList) : parts kind raw owners = (none, none, raw) := by
  have whole : Text.splitOn '.' raw = [raw] := by
    rw [Text.splitOn, Text.splitWhere_eq_singleton, List.map_singleton, String.ofList_toList]
    intro character member
    exact beq_eq_false_iff_ne.mpr fun same => noDot (same ▸ member)
  rw [parts, segments, whole]
  by_cases empty : raw.isEmpty = true
  · rw [List.filter_cons_of_neg (by simp [empty])]
    rfl
  · rw [List.filter_cons_of_pos (by simpa using empty)]
    rfl

/-- **References made from source text are plain**, when the catalog confirms
only packages that it was asked about. -/
theorem plain_qualify {extractor : Extractor} {catalog : Catalog} (lawful : catalog.Lawful)
    {lines : List String} {references : References}
    (extracted : extractor.extractLines catalog lines = .ok references)
    {mention : ReferenceKind × String} (member : mention ∈ references.toList)
    (owners : List String) (referrer : ObjectRef) :
    (qualify mention.1 mention.2 owners referrer).Plain := by
  rcases Extractor.mem_extractLines extracted member with
    ⟨notPackage, plain⟩ | ⟨isPackage, candidates, confirmed, answered, isConfirmed, noDots⟩
  · obtain ⟨name, package⟩ := @isPlain_parts mention.1 mention.2 owners plain
    refine ⟨fun _ => Text.canonical_eq_self name, fun other same => ?_, fun isPackage => ?_⟩
    · exact normalizePackage_eq_self (package other same).1 (package other same).2
    · exact absurd isPackage notPackage
  · obtain ⟨candidate, asked, alike⟩ := lawful.packages _ _ answered _ isConfirmed
    have noDot : '.' ∉ mention.2.toList := fun dot => noDots candidate asked
      (Text.dot_mem_canonical.mp (alike ▸ Text.dot_mem_canonical.mpr dot))
    have bare := @parts_of_no_dot mention.1 mention.2 owners noDot
    refine ⟨fun notPackage => absurd isPackage notPackage, fun package same => ?_, fun _ => ?_⟩
    · rw [qualify, bare] at same
      cases same
    · rw [qualify, bare, isPackage]
      exact ⟨rfl, rfl, rfl⟩

/-- The scope of a reference is the package that its referrer is delivered with,
and only routines without a package of their own have one. -/
theorem scope_qualify {kind : ReferenceKind} {raw : String} {owners : List String}
    {referrer : ObjectRef} {scope : Scope}
    (isScope : (qualify kind raw owners referrer).scope = some scope) :
    (kind.isRoutine = true ∧ (qualify kind raw owners referrer).package = none) ∧
      referrer.key.deliveryPackage? = some scope.package := by
  rw [qualify] at isScope ⊢
  dsimp only at isScope ⊢
  split at isScope
  · next routine =>
    rw [Bool.and_eq_true, Option.isNone_iff_eq_none] at routine
    obtain ⟨package, delivered, rfl⟩ := Option.map_eq_some_iff.mp isScope
    exact ⟨routine, delivered⟩
  · cases isScope

section

variable {kind : ReferenceKind} {raw other : String} {owners : List String} {referrer : ObjectRef}

/-! ## Segments -/

/-- A stretch of characters without dots. -/
structure IsSegment (segment : String) : Prop where
  nonempty : segment ≠ ""
  noDot : '.' ∉ segment.toList

theorem isSegment_of_mem {segment : String} (member : segment ∈ segments raw) :
    IsSegment segment := by
  obtain ⟨isPiece, nonempty⟩ := List.mem_filter.mp member
  obtain ⟨piece, inSplit, rfl⟩ := List.mem_map.mp isPiece
  refine ⟨by simpa using nonempty, fun dot => ?_⟩
  rw [String.toList_ofList] at dot
  have inner := (mem_splitWhere inSplit '.' dot).2
  cases inner

theorem IsSegment.no_separator {segment : String} (isSegment : IsSegment segment) :
    ∀ character ∈ segment.toList, (character == '.') = false :=
  fun _ member => beq_eq_false_iff_ne.mpr fun same => isSegment.noDot (same ▸ member)

theorem segments_segment {segment : String} (isSegment : IsSegment segment) :
    segments segment = [segment] := by
  rw [segments, splitOn, splitWhere_eq_singleton isSegment.no_separator, List.map_singleton,
    String.ofList_toList, List.filter_cons_of_pos (by simpa using isSegment.nonempty),
    List.filter_nil]

/-- A segment before a dot is the first one of the name. -/
theorem segments_append {segment : String} (isSegment : IsSegment segment) (rest : String) :
    segments (segment ++ "." ++ rest) = segment :: segments rest := by
  have dotted : (segment ++ "." ++ rest).toList = segment.toList ++ '.' :: rest.toList := by
    simp
  rw [segments, splitOn, dotted, splitWhere_of_first isSegment.no_separator rfl, List.map_cons,
    String.ofList_toList, List.filter_cons_of_pos (by simpa using isSegment.nonempty)]
  rfl

/-- **Segments with dots between them are split apart again.** -/
theorem segments_intercalate {pieces : List String}
    (areSegments : ∀ segment ∈ pieces, IsSegment segment) :
    segments (".".intercalate pieces) = pieces := by
  induction pieces with
  | nil => rfl
  | cons first rest ih =>
      obtain ⟨isSegment, later⟩ := List.forall_mem_cons.mp areSegments
      cases rest with
      | nil => rw [String.intercalate_singleton, segments_segment isSegment]
      | cons second others =>
          rw [String.intercalate_cons_cons, segments_append isSegment, ih later]

/-- The first two segments and the last one. -/
def outline : List String → List String
  | first :: second :: third :: rest => [first, second, (third :: rest).getLast?.getD third]
  | few => few

/-- The text that a name is told by: its outline, or the whole of a name without segments. -/
def shortened (raw : String) : String :=
  if segments raw = [] then raw else ".".intercalate (outline (segments raw))

theorem outline_eq_nil {pieces : List String} : outline pieces = [] ↔ pieces = [] := by
  rcases pieces with _ | ⟨first, _ | ⟨second, _ | ⟨third, rest⟩⟩⟩ <;> simp [outline]

theorem outline_concat (first second last : String) (between : List String) :
    outline (first :: second :: (between ++ [last])) = [first, second, last] := by
  cases between with
  | nil => rfl
  | cons third rest => rw [List.cons_append, outline, ← List.cons_append, List.getLast?_concat]; rfl

theorem outline_subset (pieces : List String) : outline pieces ⊆ pieces := by
  rcases pieces with _ | ⟨first, _ | ⟨second, _ | ⟨third, rest⟩⟩⟩
  iterate 3 exact List.Subset.refl _
  have last : (third :: rest).getLast?.getD third ∈ third :: rest := by
    rw [List.getLast?_eq_some_getLast (List.cons_ne_nil _ _), Option.getD_some]
    exact List.getLast_mem _
  simp only [outline]
  exact List.cons_subset_cons _ (List.cons_subset_cons _ (by simpa using last))

theorem segments_shortened (raw : String) : segments (shortened raw) = outline (segments raw) := by
  rw [shortened]
  split
  · next none => rw [none]; rfl
  · exact segments_intercalate fun segment member => isSegment_of_mem (outline_subset _ member)

/-- Behind the kind of a reference its outline is written. -/
theorem dottedName_qualify : (qualify kind raw owners referrer).dottedName = shortened raw := by
  rw [shortened, dottedName]
  simp only [qualify, parts]
  rcases segments raw with _ | ⟨first, _ | ⟨second, _ | ⟨third, rest⟩⟩⟩
  · simp
  · simp [outline]
  · dsimp only
    split <;> simp [outline]
  · simp [outline, String.append_assoc]

/-- What a name means is told by its outline, whatever is qualified by an owner. -/
theorem parts_shortened : parts kind (shortened raw) owners = parts kind raw owners := by
  by_cases none : segments raw = []
  · rw [shortened, if_pos none]
  · rw [parts, parts, segments_shortened]
    rcases shape : segments raw with _ | ⟨first, _ | ⟨second, _ | ⟨third, rest⟩⟩⟩
    · exact absurd shape none
    iterate 3 rfl

/-- The written form of a reference, without the kind, stands for the reference. -/
theorem qualify_dottedName :
    qualify kind (qualify kind raw owners referrer).dottedName owners referrer =
      qualify kind raw owners referrer := by
  rw [dottedName_qualify, qualify, qualify, parts_shortened]

/-- **References of one kind from one referrer are told apart by their texts.** -/
theorem qualify_eq_iff :
    qualify kind raw owners referrer = qualify kind other owners referrer ↔
      shortened raw = shortened other := by
  constructor
  · intro same
    rw [← @dottedName_qualify kind raw owners referrer, same, dottedName_qualify]
  · intro same
    rw [← qualify_dottedName, dottedName_qualify, same, ← dottedName_qualify, qualify_dottedName]

/-! ## Names that mean the same -/

/-- Two names have segments, and the same ones but for those between the second and the
last. -/
inductive Resembles (raw other : String) : Prop where
  | sameSegments (some : segments raw ≠ []) (same : segments raw = segments other)
  | sameEnds (first second last : String) (between others : List String)
      (isRaw : segments raw = first :: second :: (between ++ [last]))
      (isOther : segments other = first :: second :: (others ++ [last]))

theorem outline_cases (pieces : List String) : outline pieces = pieces ∨
    ∃ first second last between, pieces = first :: second :: (between ++ [last]) := by
  rcases pieces with _ | ⟨first, _ | ⟨second, rest⟩⟩
  iterate 2 exact .inl rfl
  rcases List.eq_nil_or_concat rest with rfl | ⟨between, last, rfl⟩
  · exact .inl rfl
  · exact .inr ⟨first, second, last, between, by rw [List.concat_eq_append]⟩

theorem resembles_iff :
    Resembles raw other ↔
      segments raw ≠ [] ∧ outline (segments raw) = outline (segments other) := by
  constructor
  · rintro (⟨some, same⟩ | ⟨first, second, last, between, others, isRaw, isOther⟩)
    · exact ⟨some, congrArg outline same⟩
    · rw [isRaw, isOther, outline_concat, outline_concat]
      exact ⟨List.cons_ne_nil _ _, rfl⟩
  · rintro ⟨some, same⟩
    rcases outline_cases (segments raw) with whole | ⟨first, second, last, between, isRaw⟩
    · rcases outline_cases (segments other) with alsoWhole | ⟨first, second, last, others, isOther⟩
      · exact .sameSegments some (whole.symm.trans (same.trans alsoWhole))
      · rw [isOther, outline_concat, whole] at same
        exact .sameEnds first second last [] others same isOther
    · rw [isRaw, outline_concat] at same
      rcases outline_cases (segments other) with whole | ⟨_, _, _, others, isOther⟩
      · exact .sameEnds first second last between [] isRaw (whole.symm.trans same.symm)
      · rw [isOther, outline_concat] at same
        obtain ⟨rfl, rfl, rfl⟩ := by simpa using same
        exact .sameEnds _ _ _ between others isRaw isOther

theorem shortened_eq_iff :
    shortened raw = shortened other ↔ raw = other ∨ Resembles raw other := by
  rw [resembles_iff]
  constructor
  · intro same
    have outlines : outline (segments raw) = outline (segments other) := by
      rw [← segments_shortened, same, segments_shortened]
    by_cases none : segments raw = []
    · -- Without segments the whole names are compared.
      have alsoNone : segments other = [] := outline_eq_nil.mp (by rw [← outlines, none]; rfl)
      rw [shortened, shortened, if_pos none, if_pos alsoNone] at same
      exact .inl same
    · exact .inr ⟨none, outlines⟩
  · rintro (rfl | ⟨some, outlines⟩)
    · rfl
    · have alsoSome : segments other ≠ [] := by
        rwa [ne_eq, ← outline_eq_nil, ← outlines, outline_eq_nil]
      rw [shortened, shortened, if_neg some, if_neg alsoSome, outlines]

/-- **The text of a reference identifies it**, for one kind, one referrer and the same owners.
What is written behind the kind stands for the reference again, so two references are equal
exactly when they are written alike.  Two names stand for one reference exactly when they
are the same, or have segments and differ in nothing but dots too many and segments between
the second and the last. -/
theorem identified_by_text (kind : ReferenceKind) (raw other : String) (owners : List String)
    (referrer : ObjectRef) :
    (∃ text, (qualify kind raw owners referrer).describe = kind.name ++ " " ++ text ∧
      qualify kind text owners referrer = qualify kind raw owners referrer) ∧
    (qualify kind raw owners referrer = qualify kind other owners referrer ↔
      (qualify kind raw owners referrer).describe =
        (qualify kind other owners referrer).describe) ∧
    (qualify kind raw owners referrer = qualify kind other owners referrer ↔
      raw = other ∨ Resembles raw other) := by
  refine ⟨⟨_, rfl, qualify_dottedName⟩, ⟨congrArg describe, fun same => ?_⟩, ?_⟩
  · have texts : (qualify kind raw owners referrer).dottedName =
        (qualify kind other owners referrer).dottedName :=
      (String.append_right_inj (kind.name ++ " ")).mp same
    rw [← qualify_dottedName, texts, qualify_dottedName]
  · exact qualify_eq_iff.trans shortened_eq_iff

end

end Reference

end SchemaPlan
