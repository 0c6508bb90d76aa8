import SchemaPlan.Pattern.Basic

/-!
# What patterns read

A match reads a stretch of text, and each group that it closes is a stretch of
what it read.  When all characters that a pattern can read have a property
(`Reads`), so have the characters of every stretch that it matches; when this
holds of the bodies of the groups with a number (`GroupsRead`), it holds of
whatever is captured under that number.
-/

set_option autoImplicit false

namespace SchemaPlan

/-! ## Stretches -/

namespace Cursor

/-- From one place to another only characters with a property are read. -/
def Through (allowed : Char → Prop) (here there : Cursor) : Prop :=
  ∃ taken, here.after = taken ++ there.after ∧ ∀ character ∈ taken, allowed character

variable {allowed : Char → Prop}

theorem Through.refl (here : Cursor) : Through allowed here here := ⟨[], by simp⟩

theorem Through.trans {first second third : Cursor} (earlier : Through allowed first second)
    (later : Through allowed second third) : Through allowed first third := by
  obtain ⟨taken, whole, good⟩ := earlier
  obtain ⟨more, rest, alsoGood⟩ := later
  refine ⟨taken ++ more, by rw [whole, rest, List.append_assoc], fun character member => ?_⟩
  exact (List.mem_append.mp member).elim (good character) (alsoGood character)

theorem Through.textUntil {here there : Cursor} (through : Through allowed here there) :
    ∀ character ∈ here.textUntil there, allowed character := by
  obtain ⟨taken, whole, good⟩ := through
  have same : here.textUntil there = taken := by simp [Cursor.textUntil, whole]
  exact same ▸ good

theorem through_read? {accepts : Char → Bool} {here there : Cursor}
    (allows : ∀ character, accepts character = true → allowed character)
    (read : here.read? accepts = some there) : Through allowed here there := by
  rcases here with ⟨before, _ | ⟨character, rest⟩⟩
  · cases read
  · rw [read?] at read
    split at read
    · next accepted =>
      rw [← Option.some.inj read]
      exact ⟨[character], rfl, by simpa using allows character accepted⟩
    · cases read

theorem through_readMost {accepts : Char → Bool} {before after : List Char} {there : Cursor}
    (allows : ∀ character, accepts character = true → allowed character)
    (reached : there ∈ readMost accepts before after) : Through allowed ⟨before, after⟩ there := by
  induction after generalizing before with
  | nil => exact List.mem_singleton.mp reached ▸ Through.refl _
  | cons character rest ih =>
      rw [readMost] at reached
      split at reached
      · next accepted =>
        rcases List.mem_append.mp reached with further | here
        · obtain ⟨taken, whole, good⟩ := ih further
          refine ⟨character :: taken, congrArg (character :: ·) whole, ?_⟩
          exact List.forall_mem_cons.mpr ⟨allows character accepted, good⟩
        · exact List.mem_singleton.mp here ▸ Through.refl _
      · exact List.mem_singleton.mp reached ▸ Through.refl _

theorem through_readFewest {accepts : Char → Bool} {before after : List Char} {there : Cursor}
    (allows : ∀ character, accepts character = true → allowed character)
    (reached : there ∈ readFewest accepts before after) :
    Through allowed ⟨before, after⟩ there := by
  induction after generalizing before with
  | nil => exact List.mem_singleton.mp reached ▸ Through.refl _
  | cons character rest ih =>
      rw [readFewest] at reached
      rcases List.mem_cons.mp reached with rfl | further
      · exact Through.refl _
      · split at further
        · next accepted =>
          obtain ⟨taken, whole, good⟩ := ih further
          refine ⟨character :: taken, congrArg (character :: ·) whole, ?_⟩
          exact List.forall_mem_cons.mpr ⟨allows character accepted, good⟩
        · exact absurd further List.not_mem_nil

end Cursor

namespace Pattern

variable {allowed : Char → Prop}

/-! ## Patterns -/

/-- Every character that the pattern can read has a property. -/
@[simp] def Reads (allowed : Char → Prop) : Pattern → Prop
  | empty | textStart | textEnd | lineStart | boundary => True
  | one accepts | most accepts | fewest accepts =>
    ∀ character, accepts character = true → allowed character
  | both first second | either first second => first.Reads allowed ∧ second.Reads allowed
  | repeated body | group _ body => body.Reads allowed

/-- Every character that a group with the number can read has a property. -/
@[simp] def GroupsRead (number : Nat) (allowed : Char → Prop) : Pattern → Prop
  | empty | textStart | textEnd | lineStart | boundary | one _ | most _ | fewest _ => True
  | both first second | either first second =>
    first.GroupsRead number allowed ∧ second.GroupsRead number allowed
  | repeated body => body.GroupsRead number allowed
  | group other body => (other = number → body.Reads allowed) ∧ body.GroupsRead number allowed

theorem Reads.mono {wider : Char → Prop} (weaker : ∀ character, allowed character → wider character)
    {pattern : Pattern} (reads : pattern.Reads allowed) : pattern.Reads wider := by
  induction pattern with
  | empty | textStart | textEnd | lineStart | boundary => trivial
  | one accepts | most accepts | fewest accepts =>
      exact fun character accepted => weaker character (reads character accepted)
  | both first second firstIH secondIH => exact ⟨firstIH reads.1, secondIH reads.2⟩
  | either first second firstIH secondIH => exact ⟨firstIH reads.1, secondIH reads.2⟩
  | repeated body ih => exact ih reads
  | group number body ih => exact ih reads

/-- What each repetition has in common the whole repetition has. -/
theorem repeatStep_relates {relation : Progress → Progress → Prop}
    {step : Progress → List Progress} (refl : ∀ here, relation here here)
    (trans : ∀ first second third, relation first second → relation second third →
      relation first third)
    (relates : ∀ here, ∀ there ∈ step here, relation here there) {here there : Progress}
    (reached : there ∈ repeatStep step here) : relation here there := by
  induction here using repeatStep.induct with
  | case1 here ih =>
      rw [repeatStep] at reached
      rcases List.mem_append.mp reached with further | same
      · obtain ⟨middle, first, rest⟩ := List.mem_flatMap.mp further
        split at rest
        · next shorter =>
          exact trans here middle there (relates here middle first) (ih middle shorter rest)
        · exact absurd rest List.not_mem_nil
      · exact List.mem_singleton.mp same ▸ refl here

theorem mem_holding {condition : Bool} {here there : Progress}
    (reached : there ∈ holding condition here) : there = here := by
  rw [holding] at reached
  split at reached
  · exact List.mem_singleton.mp reached
  · exact absurd reached List.not_mem_nil

/-- **A match reads characters with the property only.** -/
theorem through_run {pattern : Pattern} (reads : pattern.Reads allowed) {here there : Progress}
    (reached : there ∈ pattern.run here) : here.cursor.Through allowed there.cursor := by
  induction pattern generalizing here there with
  | empty => exact List.mem_singleton.mp reached ▸ .refl _
  | one accepts =>
      obtain ⟨next, read, rfl⟩ := List.mem_map.mp reached
      exact Cursor.through_read? reads (Option.mem_toList.mp read)
  | most accepts =>
      obtain ⟨next, read, rfl⟩ := List.mem_map.mp reached
      exact Cursor.through_readMost reads read
  | fewest accepts =>
      obtain ⟨next, read, rfl⟩ := List.mem_map.mp reached
      exact Cursor.through_readFewest reads read
  | textStart => exact mem_holding reached ▸ .refl _
  | textEnd => exact mem_holding reached ▸ .refl _
  | lineStart => exact mem_holding reached ▸ .refl _
  | boundary => exact mem_holding reached ▸ .refl _
  | both first second firstIH secondIH =>
      obtain ⟨middle, one, other⟩ := List.mem_flatMap.mp reached
      exact (firstIH reads.1 one).trans (secondIH reads.2 other)
  | either first second firstIH secondIH =>
      exact (List.mem_append.mp reached).elim (firstIH reads.1) (secondIH reads.2)
  | repeated body ih =>
      exact @repeatStep_relates (fun here there => here.cursor.Through allowed there.cursor) _
        (fun _ => .refl _) (fun _ _ _ => .trans) (fun _ _ one => ih reads one) _ _ reached
  | group number body ih =>
      obtain ⟨inner, read, rfl⟩ := List.mem_map.mp reached
      have through := ih reads read
      exact through

/-- **A group captures characters with the property only.** -/
theorem groups_run {number : Nat} {pattern : Pattern} (reads : pattern.GroupsRead number allowed)
    {here there : Progress} (reached : there ∈ pattern.run here) :
    ∀ entry ∈ there.groups, entry ∈ here.groups ∨
      (entry.1 = number → entry.2.1.Through allowed entry.2.2) := by
  induction pattern generalizing here there with
  | empty => exact List.mem_singleton.mp reached ▸ fun _ => .inl
  | one accepts =>
      obtain ⟨next, _, rfl⟩ := List.mem_map.mp reached
      exact fun _ => .inl
  | most accepts =>
      obtain ⟨next, _, rfl⟩ := List.mem_map.mp reached
      exact fun _ => .inl
  | fewest accepts =>
      obtain ⟨next, _, rfl⟩ := List.mem_map.mp reached
      exact fun _ => .inl
  | textStart => exact mem_holding reached ▸ fun _ => .inl
  | textEnd => exact mem_holding reached ▸ fun _ => .inl
  | lineStart => exact mem_holding reached ▸ fun _ => .inl
  | boundary => exact mem_holding reached ▸ fun _ => .inl
  | both first second firstIH secondIH =>
      obtain ⟨middle, one, other⟩ := List.mem_flatMap.mp reached
      intro entry member
      exact (secondIH reads.2 other entry member).elim (firstIH reads.1 one entry) .inr
  | either first second firstIH secondIH =>
      exact (List.mem_append.mp reached).elim (firstIH reads.1) (secondIH reads.2)
  | repeated body ih =>
      refine @repeatStep_relates (fun here there => ∀ entry ∈ there.groups, entry ∈ here.groups ∨
        (entry.1 = number → entry.2.1.Through allowed entry.2.2)) _ (fun _ _ => .inl) ?_
        (fun _ _ one => ih reads one) _ _ reached
      intro first second third earlier later entry member
      exact (later entry member).elim (earlier entry) .inr
  | group other body ih =>
      obtain ⟨inner, read, rfl⟩ := List.mem_map.mp reached
      intro entry member
      rcases List.mem_cons.mp member with rfl | inInner
      · exact .inr fun same => through_run (reads.1 same) read
      · exact ih reads.2 read entry inInner

/-! ## Searches -/

theorem mem_matchesFrom {pattern : Pattern} {here : Cursor} {found : Match}
    (member : found ∈ pattern.matchesFrom here) :
    ∃ place, pattern.matchAt? place = some found := by
  induction here using matchesFrom.induct with
  | pattern => exact pattern
  | case1 here first isFirst shorter ih =>
      rw [matchesFrom, isFirst] at member
      simp only [shorter, dif_pos] at member
      rcases List.mem_cons.mp member with rfl | later
      · exact ⟨here, isFirst⟩
      · exact ih later
  | case2 here first isFirst long noNext =>
      rw [matchesFrom, isFirst] at member
      simp only [long, dif_neg, not_false_eq_true] at member
      split at member
      · exact ⟨here, List.mem_singleton.mp member ▸ isFirst⟩
      · next isNext =>
        rw [noNext] at isNext
        cases isNext
  | case3 here first isFirst long there isThere ih =>
      rw [matchesFrom, isFirst] at member
      simp only [long, dif_neg, not_false_eq_true] at member
      split at member
      · exact ⟨here, List.mem_singleton.mp member ▸ isFirst⟩
      · next isNext =>
        rcases List.mem_cons.mp member with rfl | later
        · exact ⟨here, isFirst⟩
        · exact ih (Option.some.inj (isThere.symm.trans isNext) ▸ later)
  | case4 here nothing noNext =>
      rw [matchesFrom, nothing] at member
      dsimp only at member
      split at member
      · exact absurd member List.not_mem_nil
      · next isNext =>
        rw [noNext] at isNext
        cases isNext
  | case5 here nothing there isThere ih =>
      rw [matchesFrom, nothing] at member
      dsimp only at member
      split at member
      · exact absurd member List.not_mem_nil
      · next isNext => exact ih (Option.some.inj (isThere.symm.trans isNext) ▸ member)

/-- **Captured text consists of characters that the group can read.** -/
theorem group?_reads {number : Nat} {pattern : Pattern}
    (reads : pattern.GroupsRead number allowed) {text captured : List Char} {found : Match}
    (member : found ∈ pattern.search text) (isGroup : found.group? number = some captured) :
    ∀ character ∈ captured, allowed character := by
  obtain ⟨place, matched⟩ := mem_matchesFrom member
  obtain ⟨reached, isHead, rfl⟩ := Option.map_eq_some_iff.mp matched
  obtain ⟨entry, isEntry, rfl⟩ := Option.map_eq_some_iff.mp isGroup
  have inGroups := List.mem_of_find?_eq_some isEntry
  have sameNumber : entry.1 = number := by simpa using List.find?_some isEntry
  rcases groups_run reads (List.mem_of_mem_head? isHead) entry inGroups with inNothing | through
  · exact absurd inNothing List.not_mem_nil
  · exact (through sameNumber).textUntil

/-- **Matched text consists of characters that the pattern can read.** -/
theorem text_reads {pattern : Pattern} (reads : pattern.Reads allowed) {text : List Char}
    {found : Match} (member : found ∈ pattern.search text) :
    ∀ character ∈ found.text, allowed character := by
  obtain ⟨place, matched⟩ := mem_matchesFrom member
  obtain ⟨reached, isHead, rfl⟩ := Option.map_eq_some_iff.mp matched
  exact (through_run reads (List.mem_of_mem_head? isHead)).textUntil

theorem mem_captures_reads {pattern : Pattern} (reads : pattern.GroupsRead 1 allowed)
    {text captured : List Char} (member : captured ∈ pattern.captures text) :
    ∀ character ∈ captured, allowed character := by
  obtain ⟨found, inSearch, isGroup⟩ := List.mem_filterMap.mp member
  exact group?_reads reads inSearch isGroup

end Pattern

end SchemaPlan
