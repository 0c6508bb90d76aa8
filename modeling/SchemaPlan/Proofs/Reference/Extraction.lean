import SchemaPlan.Proofs.Object
import SchemaPlan.Proofs.Outcome
import SchemaPlan.Proofs.Pattern.Reading
import SchemaPlan.Proofs.Reference.Grouping
import SchemaPlan.Proofs.Text
import SchemaPlan.Reference.Extraction

/-!
# What names in source text look like

The patterns capture names that are made of capital letters, digits, dots and a
few signs.  So every name found in source text is in stored form, and so is
each of its segments.  The names of packages do not come from the text but from
the catalog, which is asked about segments of dotted names only.
-/

set_option autoImplicit false

namespace SchemaPlan

/-! ## Patterns of names -/

namespace Pattern

variable {allowed : Char → Prop} {number : Nat}

@[simp] theorem groupsRead_sequence {bodies : List Pattern} :
    (sequence bodies).GroupsRead number allowed ↔
      ∀ body ∈ bodies, body.GroupsRead number allowed := by
  induction bodies with
  | nil => simp [sequence]
  | cons first rest ih =>
      cases rest with
      | nil => simp [sequence]
      | cons second others => simp [sequence, ih]

@[simp] theorem groupsRead_choice {bodies : List Pattern} :
    (choice bodies).GroupsRead number allowed ↔
      ∀ body ∈ bodies, body.GroupsRead number allowed := by
  induction bodies with
  | nil => simp [choice]
  | cons first rest ih =>
      cases rest with
      | nil => simp [choice]
      | cons second others => simp [choice, ih]

@[simp] theorem groupsRead_literal (text : String) : (literal text).GroupsRead number allowed := by
  refine groupsRead_sequence.mpr fun body member => ?_
  obtain ⟨expected, _, rfl⟩ := List.mem_map.mp member
  trivial

end Pattern

namespace Text

theorem isPlain_of_toNat {character : Char}
    (limits : 33 ≤ character.toNat ∧ character.toNat ≤ 96) : IsPlain character := by
  constructor
  · have ascii : character.toNat < 0x80 := by omega
    rw [isBlank, if_pos ascii]
    simp only [Bool.or_eq_false_iff, Bool.and_eq_false_imp, beq_eq_false_iff_ne,
      decide_eq_true_eq, decide_eq_false_iff_not]
    omega
  · refine toUpper_eq_self (Bool.eq_false_iff.mpr fun small => ?_)
    have := isLower_iff.mp small
    omega

end Text

namespace Clause

open Pattern Text

theorem isPlain_of_continuesIdentifier {character : Char}
    (continues : continuesIdentifier character = true) : IsPlain character := by
  refine isPlain_of_toNat ?_
  have point : character.val.toNat = character.toNat := rfl
  simp only [continuesIdentifier, opensIdentifier, Char.isDigit, Bool.or_eq_true,
    Bool.and_eq_true, decide_eq_true_eq, beq_iff_eq, Char.le_def, UInt32.le_iff_toNat_le,
    point, ge_iff_le] at continues
  rcases continues with (((letter | digit) | rfl) | rfl) | rfl
  · have low : 65 ≤ character.toNat := letter.1
    have high : character.toNat ≤ 90 := letter.2
    omega
  · have low : 48 ≤ character.toNat := digit.1
    have high : character.toNat ≤ 57 := digit.2
    omega
  · decide
  · decide
  · decide

theorem reads_identifier : identifier.Reads IsPlain :=
  ⟨fun _ opens => isPlain_of_continuesIdentifier (by simp [continuesIdentifier, opens]),
    fun _ => isPlain_of_continuesIdentifier⟩

theorem reads_dottedSegment : dottedSegment.Reads IsPlain := by
  refine ⟨fun character isDot => ?_, reads_identifier⟩
  rw [beq_iff_eq.mp isDot]
  exact isPlain_of_toNat (by decide)

/-- **A name in source text is plain.** -/
@[simp] theorem reads_name : name.Reads IsPlain :=
  ⟨reads_identifier, ⟨reads_dottedSegment, reads_dottedSegment, trivial⟩, trivial⟩

/-- A dotted name of any length is plain. -/
theorem reads_dottedChain : dottedChain.Reads IsPlain :=
  ⟨trivial, reads_identifier, reads_dottedSegment, reads_dottedSegment⟩

theorem groupsRead_identifier {number : Nat} {allowed : Char → Prop} :
    identifier.GroupsRead number allowed := ⟨trivial, trivial⟩

@[simp] theorem groupsRead_dottedSegment {number : Nat} {allowed : Char → Prop} :
    dottedSegment.GroupsRead number allowed := ⟨trivial, groupsRead_identifier⟩

@[simp] theorem groupsRead_name {number : Nat} {allowed : Char → Prop} :
    name.GroupsRead number allowed :=
  ⟨groupsRead_identifier, ⟨groupsRead_dottedSegment, groupsRead_dottedSegment, trivial⟩, trivial⟩

@[simp] theorem groupsRead_otherName {number : Nat} {allowed : Char → Prop} :
    otherName.GroupsRead number allowed :=
  ⟨⟨⟨trivial, trivial⟩, groupsRead_identifier⟩, trivial⟩

theorem groupsRead_tableClauses :
    ∀ clause ∈ Extractor.tableClauses, clause.GroupsRead 1 IsPlain := by
  simp [Extractor.tableClauses, join, insertInto, updateSet, deleteFrom, mergeInto, typeAnchor,
    rowtypeAnchor, keyword, someBlanks, blanks, Pattern.optional]

theorem groupsRead_sequenceValue : sequenceValue.GroupsRead 1 IsPlain := by
  simp [sequenceValue, character]

theorem groupsRead_assignmentCall : assignmentCall.GroupsRead 1 IsPlain := by
  simp [assignmentCall, blanks, character]

theorem groupsRead_statementCall : statementCall.GroupsRead 1 IsPlain := by
  simp [statementCall, wholeWord, blanks, character]

theorem groupsRead_declaration : declaration.GroupsRead 3 IsPlain := by
  simp [declaration, someBlanks, blanks]

/-- The list after FROM consists of plain characters and blanks. -/
theorem groupsRead_fromList :
    fromList.GroupsRead 1 fun character => isBlank character = true ∨ IsPlain character := by
  have word : identifier.Reads fun character => isBlank character = true ∨ IsPlain character :=
    reads_identifier.mono fun _ => .inr
  have names : name.Reads fun character => isBlank character = true ∨ IsPlain character :=
    reads_name.mono fun _ => .inr
  have comma : IsPlain ',' := isPlain_of_toNat (by decide)
  have item : tableItem.Reads fun character => isBlank character = true ∨ IsPlain character :=
    ⟨names, ⟨⟨fun _ => .inl, fun _ => .inl⟩, word⟩, trivial⟩
  have noGroup : tableItem.GroupsRead 1
      fun character => isBlank character = true ∨ IsPlain character :=
    ⟨groupsRead_name, groupsRead_otherName⟩
  simp +contextual [fromList, Pattern.sequence, keyword, someBlanks, blanks, character, item,
    noGroup, comma]

end Clause

/-! ## Names in source text -/

namespace Extractor

open Text

theorem isPlain_lastSegment {name : List Char} (plain : ∀ character ∈ name, IsPlain character) :
    ∀ character ∈ lastSegment name, IsPlain character := by
  rw [lastSegment]
  cases last : (segments name).getLast? with
  | none => exact plain
  | some segment =>
      have piece := List.mem_of_getLast? last
      exact fun character member => plain character (mem_splitWhere piece character member).1

theorem isPlain_fromTables {text table : List Char} (member : table ∈ fromTables text) :
    ∀ character ∈ table, IsPlain character := by
  obtain ⟨⟨place, list⟩, located, isTable⟩ := List.mem_flatMap.mp member
  obtain ⟨found, inSearch, captured⟩ := List.mem_filterMap.mp located
  obtain ⟨_, isGroup, same⟩ := Option.map_eq_some_iff.mp captured
  obtain ⟨_, rfl⟩ := Prod.mk.inj same
  have inList := Pattern.group?_reads Clause.groupsRead_fromList inSearch isGroup
  dsimp only at isTable
  split at isTable
  · exact absurd isTable List.not_mem_nil
  · obtain ⟨item, isItem, isHead⟩ := List.mem_filterMap.mp isTable
    have isWord := (List.mem_filter.mp (List.mem_of_mem_head? isHead)).1
    intro character inTable
    obtain ⟨inItem, noBlank⟩ := mem_splitWhere isWord character inTable
    obtain ⟨inText, _⟩ := mem_splitWhere isItem character inItem
    refine (inList character inText).resolve_left fun blank => ?_
    rw [noBlank] at blank
    cases blank

theorem isPlain_declaration {text : List Char} {declaration : Declaration}
    (member : declaration ∈ Declaration.all text) :
    ∀ character ∈ declaration.name, IsPlain character := by
  obtain ⟨found, inSearch, described⟩ := List.mem_filterMap.mp member
  simp only [Declaration.ofMatch?, Option.bind_eq_bind, Option.bind_eq_some_iff,
    Option.some.injEq] at described
  obtain ⟨_, _, _, _, name, isGroup, rfl⟩ := described
  exact Pattern.group?_reads Clause.groupsRead_declaration inSearch isGroup

/-- **Every name that a text mentions is plain**, and none is mentioned as a
package. -/
theorem isPlain_mentions {text : List Char} {mention : ReferenceKind × List Char}
    (member : mention ∈ mentions text) :
    mention.1 ≠ .package ∧ ∀ character ∈ mention.2, IsPlain character := by
  simp only [mentions, tables, List.map_append, List.mem_append, List.mem_map,
    List.mem_flatMap] at member
  rcases member with (((((⟨table, inFrom, rfl⟩ | ⟨table, ⟨clause, isClause, captured⟩, rfl⟩) |
    ⟨sequence, captured, rfl⟩) | ⟨function, captured, rfl⟩) | ⟨procedure, called, rfl⟩) |
    ⟨declaration, declares, rfl⟩)
  · exact ⟨nofun, isPlain_fromTables inFrom⟩
  · exact ⟨nofun, Pattern.mem_captures_reads (Clause.groupsRead_tableClauses clause isClause)
      captured⟩
  · exact ⟨nofun, Pattern.mem_captures_reads Clause.groupsRead_sequenceValue captured⟩
  · exact ⟨nofun, Pattern.mem_captures_reads Clause.groupsRead_assignmentCall captured⟩
  · obtain ⟨statement, _, captured⟩ := List.mem_flatMap.mp called
    exact ⟨nofun, Pattern.mem_captures_reads Clause.groupsRead_statementCall captured⟩
  · have plain := isPlain_declaration declares
    rw [declared]
    split
    · refine ⟨?_, isPlain_lastSegment plain⟩
      dsimp only
      split <;> decide
    · exact ⟨nofun, plain⟩

/-- A candidate for a package is a segment of a dotted name. -/
theorem mem_packageCandidates {extractor : Extractor} {text : List Char} {candidate : String}
    (member : candidate ∈ extractor.packageCandidates text) :
    ∃ chain ∈ Clause.dottedChain.search text, candidate.toList ∈ segments chain.text := by
  obtain ⟨segment, inFilter, rfl⟩ := List.mem_map.mp (OrderedSet.mem_ofList.mp member)
  obtain ⟨chain, inSearch, inChain⟩ := List.mem_flatMap.mp (List.mem_of_mem_filter inFilter)
  rw [String.toList_ofList]
  exact ⟨chain, inSearch, (List.dropLast_sublist _).subset inChain⟩

/-- A candidate for a package has no dot. -/
theorem not_mem_packageCandidates {extractor : Extractor} {text : List Char} {candidate : String}
    (member : candidate ∈ extractor.packageCandidates text) : '.' ∉ candidate.toList := by
  obtain ⟨chain, _, isSegment⟩ := mem_packageCandidates member
  intro dot
  have inner := (mem_splitWhere isSegment '.' dot).2
  cases inner

/-- **A candidate for a package is plain.** -/
theorem isPlain_packageCandidates {extractor : Extractor} {text : List Char} {candidate : String}
    (member : candidate ∈ extractor.packageCandidates text) :
    ∀ character ∈ candidate.toList, IsPlain character := by
  obtain ⟨chain, inSearch, isSegment⟩ := mem_packageCandidates member
  intro character inCandidate
  exact Pattern.text_reads Clause.reads_dottedChain inSearch character
    (mem_splitWhere isSegment character inCandidate).1

theorem mem_toList_withoutNested {nested : List String} {references : References}
    {mention : ReferenceKind × String}
    (member : mention ∈ (withoutNested nested references).toList) :
    mention ∈ references.toList := by
  induction nested generalizing references with
  | nil => exact member
  | cons first rest ih =>
      exact References.mem_toList_of_remove (References.mem_toList_of_remove (ih member))

theorem mem_toList_confirmPackages {packages : List String} {references : References}
    {mention : ReferenceKind × String}
    (member : mention ∈ (packages.foldl confirmPackage references).toList) :
    mention ∈ references.toList ∨ mention.1 = .package ∧ mention.2 ∈ packages := by
  induction packages generalizing references with
  | nil => exact .inl member
  | cons first rest ih =>
      rcases ih member with here | ⟨isPackage, later⟩
      · rcases References.mem_toList_insert.mp here with rfl | old
        · exact .inr ⟨rfl, List.mem_cons_self⟩
        · exact .inl (References.mem_toList_of_remove old)
      · exact .inr ⟨isPackage, List.mem_cons_of_mem _ later⟩

theorem isPlain_scan {extractor : Extractor} {text : List Char}
    {mention : ReferenceKind × String}
    (member : mention ∈ (extractor.scan text).references.toList) :
    mention.1 ≠ .package ∧ ∀ character ∈ mention.2.toList, IsPlain character := by
  have listed := References.mem_toList_ofList.mp (mem_toList_withoutNested member)
  obtain ⟨raw, accepted, rfl⟩ := List.mem_map.mp listed
  have plain := isPlain_mentions (List.mem_of_mem_filter accepted)
  exact ⟨plain.1, by simpa using plain.2⟩

/-- **What extraction finds**: plain names of other kinds than packages, and
packages that the catalog has confirmed when asked about names without dots. -/
theorem mem_extractLines {extractor : Extractor} {catalog : Catalog} {lines : List String}
    {references : References} (extracted : extractor.extractLines catalog lines = .ok references)
    {mention : ReferenceKind × String} (member : mention ∈ references.toList) :
    (mention.1 ≠ .package ∧ ∀ character ∈ mention.2.toList, IsPlain character) ∨
      mention.1 = .package ∧ ∃ candidates confirmed,
        catalog.existingPackages candidates = .ok confirmed ∧ mention.2 ∈ confirmed ∧
        ∀ candidate ∈ candidates, '.' ∉ candidate.toList := by
  rw [extractLines, extract] at extracted
  split at extracted
  · obtain rfl := Except.ok.inj extracted
    exact .inl (isPlain_scan member)
  · obtain ⟨confirmed, answered, rest⟩ := Outcome.bind_eq_ok.mp extracted
    obtain rfl := Outcome.pure_eq_ok.mp rest
    rcases mem_toList_confirmPackages member with found | ⟨isPackage, isConfirmed⟩
    · exact .inl (isPlain_scan found)
    · exact .inr ⟨isPackage, _, confirmed, answered, isConfirmed,
        fun candidate asked => not_mem_packageCandidates asked⟩

end Extractor

end SchemaPlan
