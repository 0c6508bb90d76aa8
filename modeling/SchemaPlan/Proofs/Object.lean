import Mathlib.Data.List.DropRight
import SchemaPlan.Object.Basic

/-!
# Names in stored form

A name in stored form has no blanks at its ends and no small letter, so putting
it into stored form again changes nothing.  A name without any blank and any
small letter is in stored form already.
-/

set_option autoImplicit false

namespace SchemaPlan

namespace Text

/-! ## Trimming -/

theorem trimWhere_eq_rdropWhile (isOuter : Char → Bool) (characters : List Char) :
    trimWhere isOuter characters = (characters.dropWhile isOuter).rdropWhile isOuter := rfl

theorem trimWhere_eq_self {isOuter : Char → Bool} {characters : List Char}
    (inner : ∀ character ∈ characters, isOuter character = false) :
    trimWhere isOuter characters = characters := by
  have front : characters.dropWhile isOuter = characters :=
    List.dropWhile_eq_self_iff.mpr fun nonempty => by simp [inner _ (List.getElem_mem nonempty)]
  rw [trimWhere_eq_rdropWhile, front]
  exact List.rdropWhile_eq_self_iff.mpr fun nonempty => by
    simp [inner _ (List.getLast_mem nonempty)]

theorem dropWhile_trimWhere (isOuter : Char → Bool) (characters : List Char) :
    (trimWhere isOuter characters).dropWhile isOuter = trimWhere isOuter characters := by
  rw [trimWhere_eq_rdropWhile]
  obtain ⟨rest, whole⟩ := List.rdropWhile_prefix isOuter (l := characters.dropWhile isOuter)
  cases left : (characters.dropWhile isOuter).rdropWhile isOuter with
  | nil => rfl
  | cons first others =>
      rw [left, List.cons_append] at whole
      have nonempty : characters.dropWhile isOuter ≠ [] := by simp [← whole]
      have fails := List.head_dropWhile_not isOuter nonempty
      simp only [← whole, List.head_cons] at fails
      exact List.dropWhile_cons_of_neg (Bool.not_eq_true _ ▸ fails)

theorem rdropWhile_trimWhere (isOuter : Char → Bool) (characters : List Char) :
    (trimWhere isOuter characters).rdropWhile isOuter = trimWhere isOuter characters :=
  List.rdropWhile_idempotent _ _

theorem trimWhere_trimWhere (isOuter : Char → Bool) (characters : List Char) :
    trimWhere isOuter (trimWhere isOuter characters) = trimWhere isOuter characters := by
  rw [trimWhere_eq_rdropWhile, dropWhile_trimWhere, rdropWhile_trimWhere]

theorem trimWhere_map {isOuter : Char → Bool} {change : Char → Char}
    (same : ∀ character, isOuter (change character) = isOuter character)
    (characters : List Char) :
    trimWhere isOuter (characters.map change) = (trimWhere isOuter characters).map change := by
  have through : isOuter ∘ change = isOuter := funext same
  rw [trimWhere, trimWhere, List.dropWhile_map, through, ← List.map_reverse, List.dropWhile_map,
    through, List.map_reverse]

theorem mem_dropWhile {isOuter : Char → Bool} {character : Char} {characters : List Char}
    (inner : isOuter character = false) :
    character ∈ characters.dropWhile isOuter ↔ character ∈ characters := by
  refine ⟨fun member => (List.dropWhile_sublist isOuter).subset member, fun member => ?_⟩
  rw [← @List.takeWhile_append_dropWhile _ isOuter characters, List.mem_append] at member
  refine member.resolve_left fun dropped => ?_
  rw [List.mem_takeWhile_imp dropped] at inner
  cases inner

/-- Trimming keeps what is not trimmed off. -/
theorem mem_trimWhere {isOuter : Char → Bool} {character : Char} {characters : List Char}
    (inner : isOuter character = false) :
    character ∈ trimWhere isOuter characters ↔ character ∈ characters := by
  rw [trimWhere, List.mem_reverse, mem_dropWhile inner, List.mem_reverse, mem_dropWhile inner]

/-! ## Capitals -/

theorem isLower_eq (character : Char) :
    character.isLower = (decide ('a'.val ≤ character.val) && decide (character.val ≤ 'z'.val)) :=
  rfl

theorem isLower_iff {character : Char} :
    character.isLower = true ↔ 97 ≤ character.toNat ∧ character.toNat ≤ 122 := by
  have point : character.val.toNat = character.toNat := rfl
  simp [isLower_eq, UInt32.le_iff_toNat_le, point]

theorem toUpper_eq_self {character : Char} (large : character.isLower = false) :
    character.toUpper = character := by
  rw [isLower_eq, Bool.and_eq_false_iff, decide_eq_false_iff_not, decide_eq_false_iff_not]
    at large
  exact dif_neg (by tauto)

theorem toNat_toUpper {character : Char} (small : character.isLower = true) :
    character.toUpper.toNat = character.toNat - 32 := by
  have limits := isLower_iff.mp small
  simp only [isLower_eq, Bool.and_eq_true, decide_eq_true_eq] at small
  have point : character.val.toNat = character.toNat := rfl
  delta Char.toUpper
  rw [dif_pos small]
  change (character.val + ('A'.val - 'a'.val)).toNat = _
  rw [UInt32.toNat_add, point, show ('A'.val - 'a'.val).toNat = 4294967264 by decide]
  omega

theorem isLower_toUpper (character : Char) : character.toUpper.isLower = false := by
  cases small : character.isLower with
  | false => rwa [toUpper_eq_self small]
  | true =>
      refine Bool.eq_false_iff.mpr fun stillSmall => ?_
      have limits := isLower_iff.mp small
      have again := isLower_iff.mp stillSmall
      rw [toNat_toUpper small] at again
      omega

theorem toUpper_toUpper (character : Char) : character.toUpper.toUpper = character.toUpper :=
  toUpper_eq_self (isLower_toUpper character)

theorem isBlank_of_letter {character : Char}
    (letter : 65 ≤ character.toNat ∧ character.toNat ≤ 122) : isBlank character = false := by
  have ascii : character.toNat < 0x80 := by omega
  rw [isBlank, if_pos ascii]
  simp only [Bool.or_eq_false_iff, Bool.and_eq_false_imp, beq_eq_false_iff_ne,
    decide_eq_true_eq, decide_eq_false_iff_not]
  omega

theorem isBlank_toUpper (character : Char) : isBlank character.toUpper = isBlank character := by
  cases small : character.isLower with
  | false => rw [toUpper_eq_self small]
  | true =>
      have limits := isLower_iff.mp small
      have upper := toNat_toUpper small
      rw [isBlank_of_letter (by omega), isBlank_of_letter (by omega)]

/-- A sign before the letters is capitalised from itself only. -/
theorem toUpper_eq_iff {character sign : Char} (beforeLetters : sign.toNat < 65) :
    character.toUpper = sign ↔ character = sign := by
  constructor
  · intro capital
    cases small : character.isLower with
    | false => rw [← toUpper_eq_self small, capital]
    | true =>
        have limits := isLower_iff.mp small
        have upper := toNat_toUpper small
        rw [capital] at upper
        omega
  · rintro rfl
    refine toUpper_eq_self (Bool.eq_false_iff.mpr fun small => ?_)
    have limits := isLower_iff.mp small
    omega

/-- Only a dot is capitalised to a dot. -/
theorem eq_dot_of_toUpper {character : Char} (capital : character.toUpper = '.') :
    character = '.' :=
  (toUpper_eq_iff (by decide)).mp capital

/-! ## The stored form -/

theorem toList_trim (text : String) : (trim text).toList = trimWhere isBlank text.toList :=
  String.toList_ofList

theorem toList_upper (text : String) : (upper text).toList = text.toList.map Char.toUpper :=
  String.toList_ofList

theorem toList_canonical (name : String) :
    (canonical name).toList = (trimWhere isBlank name.toList).map Char.toUpper :=
  (toList_upper (trim name)).trans (congrArg (List.map Char.toUpper) (toList_trim name))

theorem trim_eq_self {text : String}
    (inner : ∀ character ∈ text.toList, isBlank character = false) : trim text = text := by
  rw [← String.toList_inj, toList_trim, trimWhere_eq_self inner]

theorem canonical_eq_trim_upper (name : String) : canonical name = trim (upper name) := by
  rw [← String.toList_inj, toList_canonical, toList_trim, toList_upper,
    trimWhere_map isBlank_toUpper]

/-- Names that agree up to case have the same stored form. -/
theorem canonical_eq_of_sameIgnoringCase {first second : String}
    (same : sameIgnoringCase first second = true) : canonical first = canonical second := by
  rw [canonical_eq_trim_upper, canonical_eq_trim_upper, beq_iff_eq.mp same]

/-- The stored form of a name has a dot exactly when the name has one. -/
theorem dot_mem_canonical {name : String} :
    '.' ∈ (canonical name).toList ↔ '.' ∈ name.toList := by
  have inner : isBlank '.' = false := by decide
  rw [toList_canonical, List.mem_map]
  constructor
  · rintro ⟨character, member, capital⟩
    rw [eq_dot_of_toUpper capital] at member
    exact (mem_trimWhere inner).mp member
  · exact fun member => ⟨'.', (mem_trimWhere inner).mpr member, by decide⟩

theorem canonical_canonical (name : String) : canonical (canonical name) = canonical name := by
  rw [← String.toList_inj, toList_canonical, toList_canonical, trimWhere_map isBlank_toUpper,
    trimWhere_trimWhere, List.map_map]
  exact List.map_congr_left fun character _ => toUpper_toUpper character

/-- A character that is no blank and no small letter. -/
def IsPlain (character : Char) : Prop :=
  isBlank character = false ∧ character.toUpper = character

/-- **A plain name is its own stored form.** -/
theorem canonical_eq_self {name : String} (plain : ∀ character ∈ name.toList, IsPlain character) :
    canonical name = name := by
  rw [← String.toList_inj, toList_canonical,
    trimWhere_eq_self fun character member => (plain character member).1]
  exact (List.map_congr_left fun character member => (plain character member).2).trans
    (List.map_id' _)

end Text

/-! ## Keys -/

theorem ObjectKey.eq_of_fields {first second : ObjectKey}
    (sameType : first.objectType = second.objectType) (samePackage : first.package = second.package)
    (sameName : first.name = second.name) : first = second := by
  cases first
  cases second
  simp_all only

theorem ObjectRef.eq_of_fields {first second : ObjectRef} (owner : first.owner = second.owner)
    (key : first.key = second.key) : first = second := by
  cases first
  cases second
  exact congrArg₂ ObjectRef.mk owner key

/-! ## Packages -/

theorem normalizePackage_eq_self {package : String} (nonempty : package ≠ "")
    (plain : ∀ character ∈ package.toList, Text.IsPlain character) :
    normalizePackage package = package := by
  rw [normalizePackage, Text.trim_eq_self fun character member => (plain character member).1,
    if_neg (by simpa using nonempty), Text.canonical_eq_self plain]

theorem normalizePackage_rootPackage : normalizePackage rootPackage = rootPackage := by
  with_unfolding_all rfl

theorem normalizePackage_empty : normalizePackage "" = rootPackage := by
  with_unfolding_all rfl

/-- A package in stored form is a name in stored form. -/
theorem canonical_of_normalizePackage {package : String}
    (plain : normalizePackage package = package) : Text.canonical package = package := by
  rw [normalizePackage] at plain
  split at plain
  · rw [← plain]
    with_unfolding_all rfl
  · exact plain

theorem isEmpty_trim_canonical (name : String) :
    (Text.trim (Text.canonical name)).isEmpty = (Text.trim name).isEmpty := by
  have same : (Text.trim (Text.canonical name)).toList = (Text.trim name).toList.map Char.toUpper := by
    rw [Text.toList_trim, Text.toList_canonical, Text.trimWhere_map Text.isBlank_toUpper,
      Text.trimWhere_trimWhere, Text.toList_trim]
  rw [Bool.eq_iff_iff, String.isEmpty_iff, String.isEmpty_iff, ← String.toList_eq_nil_iff, same,
    List.map_eq_nil_iff, String.toList_eq_nil_iff]

/-- The stored form of a package is its own stored form. -/
theorem normalizePackage_normalizePackage (package : String) :
    normalizePackage (normalizePackage package) = normalizePackage package := by
  by_cases blank : (Text.trim package).isEmpty = true
  · rw [show normalizePackage package = rootPackage from if_pos blank, normalizePackage_rootPackage]
  · rw [show normalizePackage package = Text.canonical package from if_neg blank,
      normalizePackage, isEmpty_trim_canonical, if_neg blank, Text.canonical_canonical]

theorem packageNode_eq (package : String) :
    ObjectKey.packageNode package = ⟨.package, rootPackage, Text.canonical package⟩ := by
  rw [ObjectKey.packageNode, ObjectKey.rootLevel, ObjectKey.new, normalizePackage_rootPackage]

theorem isRootLevel_packageNode (package : String) :
    (ObjectKey.packageNode package).isRootLevel = true := by
  rw [packageNode_eq, ObjectKey.isRootLevel]
  exact beq_self_eq_true _

theorem packageNode_canonical (package : String) :
    ObjectKey.packageNode (Text.canonical package) = ObjectKey.packageNode package := by
  rw [packageNode_eq, packageNode_eq, Text.canonical_canonical]

theorem ObjectKey.package?_eq_none {key : ObjectKey} :
    key.package? = none ↔ key.isRootLevel = true := by
  simp [package?]

theorem ObjectKey.isRootLevel_of_package?_eq_some {key : ObjectKey} {package : String}
    (isMember : key.package? = some package) : key.isRootLevel = false ∧ key.package = package := by
  rw [ObjectKey.package?] at isMember
  split at isMember
  · cases isMember
  · next notRoot => exact ⟨by simpa using notRoot, Option.some.inj isMember⟩

/-- An object outside all packages that is no package is delivered by itself. -/
theorem deliveryPackage?_eq_none {key : ObjectKey} (rootLevel : key.isRootLevel = true)
    (notPackage : key.objectType ≠ .package) : key.deliveryPackage? = none := by
  rw [ObjectKey.deliveryPackage?, if_neg notPackage, ObjectKey.package?, if_pos rootLevel]

/-! ## Owners -/

theorem normalizeOwner_eq_some {owner : Option String} {name : String} :
    ObjectRef.normalizeOwner owner = some name ↔
      ∃ given, owner = some given ∧ Text.canonical given = name ∧ name ≠ "" := by
  rw [ObjectRef.normalizeOwner, Option.filter_eq_some_iff, Option.map_eq_some_iff,
    Bool.not_eq_true', Bool.eq_false_iff, Ne, String.isEmpty_iff]
  constructor
  · rintro ⟨⟨given, isOwner, isName⟩, nonempty⟩
    exact ⟨given, isOwner, isName, nonempty⟩
  · rintro ⟨given, isOwner, isName, nonempty⟩
    exact ⟨⟨given, isOwner, isName⟩, nonempty⟩

/-- The stored form of an owner is its own stored form. -/
theorem normalizeOwner_normalizeOwner (owner : Option String) :
    ObjectRef.normalizeOwner (ObjectRef.normalizeOwner owner) = ObjectRef.normalizeOwner owner := by
  cases stored : ObjectRef.normalizeOwner owner with
  | none => rfl
  | some name =>
      obtain ⟨given, _, rfl, nonempty⟩ := normalizeOwner_eq_some.mp stored
      exact normalizeOwner_eq_some.mpr ⟨_, rfl, Text.canonical_canonical given, nonempty⟩

/-! ## What is made of names -/

/-- A key that has been made from a type, a package and a name. -/
def ObjectKey.IsMade (key : ObjectKey) : Prop :=
  ∃ objectType package name, key = ObjectKey.new objectType package name

namespace ObjectKey

theorem isMade_new (objectType : ObjectType) (package name : String) :
    (ObjectKey.new objectType package name).IsMade :=
  ⟨objectType, package, name, rfl⟩

/-- Making a key again from its parts changes nothing. -/
theorem IsMade.new_eq {key : ObjectKey} (made : key.IsMade) :
    ObjectKey.new key.objectType key.package key.name = key := by
  obtain ⟨objectType, package, name, rfl⟩ := made
  simp only [ObjectKey.new, normalizePackage_normalizePackage, Text.canonical_canonical]

theorem IsMade.normalizePackage_eq {key : ObjectKey} (made : key.IsMade) :
    normalizePackage key.package = key.package := by
  obtain ⟨objectType, package, name, rfl⟩ := made
  rw [ObjectKey.new, normalizePackage_normalizePackage]

theorem isMade_packageNode (package : String) : (packageNode package).IsMade :=
  isMade_new .package rootPackage package

end ObjectKey

/-- A reference that has been made from an owner, a type, a package and a name. -/
def ObjectRef.IsMade (reference : ObjectRef) : Prop :=
  ∃ owner objectType package name,
    reference = ObjectRef.new owner (ObjectKey.new objectType package name)

namespace ObjectRef.IsMade

variable {reference : ObjectRef}

theorem key (made : reference.IsMade) : reference.key.IsMade := by
  obtain ⟨_, objectType, package, name, rfl⟩ := made
  exact ObjectKey.isMade_new objectType package name

/-- Making a reference again from its parts changes nothing. -/
theorem new_eq (made : reference.IsMade) : ObjectRef.new reference.owner
    (ObjectKey.new reference.key.objectType reference.key.package reference.key.name) =
      reference := by
  rw [made.key.new_eq]
  obtain ⟨owner, objectType, package, name, rfl⟩ := made
  simp only [ObjectRef.new, normalizeOwner_normalizeOwner]

/-- An owner is never blank. -/
theorem owner_ne_blank (made : reference.IsMade) : reference.owner ≠ some "" := by
  obtain ⟨owner, _, _, _, rfl⟩ := made
  intro blank
  obtain ⟨_, _, _, nonempty⟩ := normalizeOwner_eq_some.mp blank
  exact nonempty rfl

/-- An owner in stored form may take the place of the one that a reference has. -/
theorem withOwner (made : reference.IsMade) {owner : String}
    (stored : ObjectRef.normalizeOwner (some owner) = some owner) :
    ObjectRef.IsMade { reference with owner := some owner } := by
  obtain ⟨given, objectType, package, name, isNew⟩ := made
  refine ⟨some owner, objectType, package, name, ?_⟩
  rw [isNew, ObjectRef.new, ObjectRef.new, stored]

end ObjectRef.IsMade

/-! ## Types -/

namespace ObjectType

/-- The name of a type is read as that type. -/
theorem parse_name (objectType : ObjectType) : parse objectType.name = .ok objectType := by
  cases objectType <;> with_unfolding_all rfl

theorem name_injective {first second : ObjectType} (same : first.name = second.name) :
    first = second := by
  have read := parse_name first
  rw [same, parse_name] at read
  exact (Except.ok.inj read).symm

theorem name_ne_empty (objectType : ObjectType) : objectType.name ≠ "" := by
  cases objectType <;> decide

end ObjectType

end SchemaPlan
