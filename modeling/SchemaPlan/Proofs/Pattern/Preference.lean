import SchemaPlan.Proofs.Pattern.Reading

/-!
# The preferred match

Of all the ways in which a pattern matches only the first one counts (`Prefers`).  One
pattern and then another prefer what the one prefers and what the other prefers behind it,
as long as the other matches there at all; otherwise the first would have to give something
back.  A repetition ends, and an alternative falls to its second pattern, where the pattern
that comes first does not match (`Rejects`).

Most patterns go on in the same way wherever they stand, so that what they prefer is told
by the text ahead: a stretch of it is taken, and the rest is left (`Takes`).
-/

set_option autoImplicit false

namespace SchemaPlan

/-! ## Reading as far as possible -/

namespace Cursor

variable {accepts : Char → Bool} {before taken rest text : List Char}

theorem head?_readMost (before : List Char) (passes : ∀ character ∈ taken, accepts character = true)
    (stops : ∀ character ∈ rest.head?, accepts character = false) :
    (readMost accepts before (taken ++ rest)).head? = some ⟨taken.reverse ++ before, rest⟩ := by
  induction taken generalizing before with
  | nil =>
      cases rest with
      | nil => rfl
      | cons first others => simp [readMost, stops first rfl]
  | cons first others ih =>
      have further := ih (first :: before) fun character member =>
        passes character (List.mem_cons_of_mem _ member)
      simp [readMost, passes first List.mem_cons_self, List.head?_append, further]

/-- Reading gives back no more than characters that pass: it stops before one of them, or
behind the last. -/
theorem after_readMost {there : Cursor} (reached : there ∈ readMost accepts before text) :
    (∃ character rest, there.after = character :: rest ∧ accepts character = true) ∨
      there.after = text.dropWhile accepts := by
  induction text generalizing before with
  | nil => exact .inr (congrArg Cursor.after (List.mem_singleton.mp reached))
  | cons character rest ih =>
      rw [readMost] at reached
      split at reached
      · next passes =>
        rw [List.dropWhile_cons_of_pos passes]
        rcases List.mem_append.mp reached with further | here
        · exact ih further
        · exact .inl ⟨character, rest, congrArg Cursor.after (List.mem_singleton.mp here), passes⟩
      · next fails =>
        rw [List.dropWhile_cons_of_neg fails]
        exact .inr (congrArg Cursor.after (List.mem_singleton.mp reached))

end Cursor

namespace Pattern

variable {first second body : Pattern} {here middle there : Progress}

/-! ## The ways of each pattern -/

section

variable (accepts : Char → Bool) (number : Nat) (first second body : Pattern) (here : Progress)

theorem run_one : (one accepts).run here =
    (here.cursor.read? accepts).toList.map ({ here with cursor := · }) := rfl

theorem run_most : (most accepts).run here =
    (Cursor.readMost accepts here.cursor.before here.cursor.after).map
      ({ here with cursor := · }) := rfl

theorem run_boundary : boundary.run here = holding here.cursor.atBoundary here := rfl

theorem run_both : (both first second).run here = (first.run here).flatMap second.run := rfl

theorem run_either : (either first second).run here = first.run here ++ second.run here := rfl

theorem run_repeated : (repeated body).run here =
    ((body.run here).flatMap fun there =>
      if there.cursor.after.length < here.cursor.after.length then (repeated body).run there
      else []) ++ [here] := by
  change repeatStep body.run here = _
  rw [repeatStep]
  rfl

theorem run_group : (group number body).run here = (body.run here).map fun there =>
    { there with groups := (number, here.cursor, there.cursor) :: there.groups } := rfl

end

/-! ## The head of the ways -/

/-- The preferred way in which the pattern matches from one point leads to the other. -/
def Prefers (pattern : Pattern) (here there : Progress) : Prop :=
  (pattern.run here).head? = some there

theorem Prefers.both (earlier : first.Prefers here middle) (later : second.Prefers middle there) :
    (both first second).Prefers here there := by
  obtain ⟨others, ways⟩ := List.head?_eq_some_iff.mp earlier
  rw [Prefers, run_both, ways, List.flatMap_cons, List.head?_append, later, Option.some_or]

theorem Prefers.left (chosen : first.Prefers here there) :
    (either first second).Prefers here there := by
  rw [Prefers, run_either, List.head?_append, chosen, Option.some_or]

theorem Prefers.right (rejected : first.run here = []) (chosen : second.Prefers here there) :
    (either first second).Prefers here there := by
  rwa [Prefers, run_either, rejected, List.nil_append]

theorem Prefers.group {number : Nat} (inner : body.Prefers here there) :
    (group number body).Prefers here
      { there with groups := (number, here.cursor, there.cursor) :: there.groups } := by
  rw [Prefers, run_group, List.head?_map, inner, Option.map_some]

theorem prefers_boundary (atBoundary : here.cursor.atBoundary = true) :
    boundary.Prefers here here := by
  rw [Prefers, run_boundary, holding, if_pos atBoundary, List.head?_cons]

/-- A repetition goes on as long as its body reads something. -/
theorem Prefers.repeated (once : body.Prefers here middle)
    (shorter : middle.cursor.after.length < here.cursor.after.length)
    (again : (repeated body).Prefers middle there) : (repeated body).Prefers here there := by
  obtain ⟨others, ways⟩ := List.head?_eq_some_iff.mp once
  rw [Prefers, run_repeated, ways, List.flatMap_cons, if_pos shorter, List.append_assoc,
    List.head?_append, again, Option.some_or]

theorem prefers_repeated_self (rejected : body.run here = []) :
    (repeated body).Prefers here here := by
  rw [Prefers, run_repeated, rejected, List.flatMap_nil, List.nil_append, List.head?_cons]

/-! ## Stretches of text -/

/-- With a text ahead that begins with this stretch and goes on like this, the pattern
prefers to match the stretch and closes no group. -/
def Takes (pattern : Pattern) (taken rest : List Char) : Prop :=
  ∀ before groups, pattern.Prefers ⟨⟨before, taken ++ rest⟩, groups⟩
    ⟨⟨taken.reverse ++ before, rest⟩, groups⟩

/-- With this text ahead the pattern does not match. -/
def Rejects (pattern : Pattern) (text : List Char) : Prop :=
  ∀ here : Progress, here.cursor.after = text → pattern.run here = []

variable {accepts : Char → Bool} {taken more rest text : List Char}

theorem takes_one {character : Char} (passes : accepts character = true) :
    (one accepts).Takes [character] rest := by
  intro before groups
  simp [Prefers, run_one, Cursor.read?, passes]

theorem takes_character (expected : Char) : (character expected).Takes [expected] rest :=
  takes_one (beq_self_eq_true expected)

theorem takes_most (passes : ∀ character ∈ taken, accepts character = true)
    (stops : ∀ character ∈ rest.head?, accepts character = false) :
    (most accepts).Takes taken rest := by
  intro before groups
  rw [Prefers, run_most, List.head?_map, Cursor.head?_readMost before passes stops, Option.map_some]

theorem Takes.both (earlier : first.Takes taken (more ++ rest)) (later : second.Takes more rest) :
    (both first second).Takes (taken ++ more) rest := by
  intro before groups
  have reached := (earlier before groups).both (later _ groups)
  rwa [← List.append_assoc, ← List.append_assoc, ← List.reverse_append] at reached

theorem takes_someBlanks (nonempty : taken ≠ [])
    (blank : ∀ character ∈ taken, Text.isBlank character = true)
    (stops : ∀ character ∈ rest.head?, Text.isBlank character = false) :
    someBlanks.Takes taken rest := by
  obtain ⟨first, others, rfl⟩ := List.exists_cons_of_ne_nil nonempty
  obtain ⟨isFirst, isOther⟩ := List.forall_mem_cons.mp blank
  exact (takes_one isFirst).both (takes_most isOther stops)

theorem Takes.optional (chosen : body.Takes taken rest) : (optional body).Takes taken rest :=
  fun before groups => (chosen before groups).left

theorem takes_optional_nil (rejected : body.Rejects rest) : (optional body).Takes [] rest :=
  fun _ _ => .right (rejected _ rfl) rfl

theorem takes_literal (word : String) : (literal word).Takes word.toList rest := by
  rw [literal]
  induction word.toList with
  | nil => exact fun _ _ => rfl
  | cons first others ih =>
      cases others with
      | nil => exact takes_character first
      | cons second more => exact (takes_character first).both ih

theorem Takes.repeated (once : body.Takes taken (more ++ rest)) (nonempty : taken ≠ [])
    (again : (repeated body).Takes more rest) : (repeated body).Takes (taken ++ more) rest := by
  intro before groups
  have positive := List.length_pos_iff.mpr nonempty
  have reached := (once before groups).repeated (by simpa using positive) (again _ groups)
  rwa [← List.append_assoc, ← List.append_assoc, ← List.reverse_append] at reached

theorem takes_repeated_nil (rejected : body.Rejects rest) : (repeated body).Takes [] rest :=
  fun _ _ => prefers_repeated_self (rejected _ rfl)

/-! ## Texts without a match -/

theorem rejects_one (fails : ∀ character ∈ text.head?, accepts character = false) :
    (one accepts).Rejects text := by
  rintro ⟨⟨before, after⟩, groups⟩ rfl
  cases after with
  | nil => rfl
  | cons first others => simp [run_one, Cursor.read?, fails first rfl]

theorem rejects_both (rejected : first.Rejects text) : (both first second).Rejects text :=
  fun here ahead => by rw [run_both, rejected here ahead, List.flatMap_nil]

theorem rejects_boundary_both (rejected : second.Rejects text) :
    (both boundary second).Rejects text := by
  intro here ahead
  rw [run_both, List.flatMap_eq_nil_iff]
  exact fun there reached => mem_holding reached ▸ rejected here ahead

/-- What comes behind a run of characters is to be found neither behind the whole run nor
within it, where the run may give characters back. -/
theorem rejects_most_both (within : ∀ character rest, accepts character = true →
      second.Rejects (character :: rest))
    (behind : second.Rejects (text.dropWhile accepts)) :
    (both (most accepts) second).Rejects text := by
  intro here ahead
  rw [run_both, List.flatMap_eq_nil_iff]
  intro there reached
  obtain ⟨cursor, read, rfl⟩ := List.mem_map.mp reached
  rcases Cursor.after_readMost read with ⟨character, rest, stopped, passes⟩ | stopped
  · exact within character rest passes _ stopped
  · exact behind _ (by rw [← ahead]; exact stopped)

theorem rejects_someBlanks_both (within : ∀ blank rest, Text.isBlank blank = true →
      second.Rejects (blank :: rest))
    (behind : second.Rejects (text.dropWhile Text.isBlank)) :
    (both someBlanks second).Rejects text := by
  rintro ⟨⟨before, after⟩, groups⟩ rfl
  rw [someBlanks, run_both, run_both, List.flatMap_assoc]
  cases after with
  | nil => rfl
  | cons first others =>
      cases isBlank : Text.isBlank first with
      | false => simp [run_one, Cursor.read?, isBlank]
      | true =>
          rw [List.dropWhile_cons_of_pos isBlank] at behind
          have later := rejects_most_both within behind ⟨⟨first :: before, others⟩, groups⟩ rfl
          simp only [run_one, Cursor.read?, isBlank, if_true, Option.toList_some,
            List.map_singleton, List.flatMap_singleton]
          exact later

/-! ## Searches -/

/-- A search passes over characters with which no match begins. -/
theorem matchesFrom_append {pattern : Pattern} (skipped : List Char) (before rest : List Char)
    (rejected : ∀ character ∈ skipped, ∀ others, pattern.Rejects (character :: others)) :
    pattern.matchesFrom ⟨before, skipped ++ rest⟩ =
      pattern.matchesFrom ⟨skipped.reverse ++ before, rest⟩ := by
  induction skipped generalizing before with
  | nil => rfl
  | cons first others ih =>
      have nothing : pattern.matchAt? ⟨before, first :: (others ++ rest)⟩ = none := by
        rw [matchAt?, rejected first List.mem_cons_self _ _ rfl]
        rfl
      rw [List.cons_append, matchesFrom, nothing]
      have further := ih (first :: before) fun character member =>
        rejected character (List.mem_cons_of_mem _ member)
      simpa [Cursor.next?] using further

/-- The preferred match is taken, and the search goes on behind it. -/
theorem Prefers.matchesFrom {pattern : Pattern} {place : Cursor}
    (preferred : pattern.Prefers ⟨place, []⟩ there)
    (shorter : there.cursor.after.length < place.after.length) :
    pattern.matchesFrom place =
      ⟨place, there.cursor, there.groups⟩ :: pattern.matchesFrom there.cursor := by
  have isFirst : pattern.matchAt? place = some ⟨place, there.cursor, there.groups⟩ := by
    rw [matchAt?, preferred, Option.map_some]
  rw [Pattern.matchesFrom, isFirst]
  exact dif_pos shorter

theorem matchesFrom_nil {pattern : Pattern} (before : List Char) (rejected : pattern.Rejects []) :
    pattern.matchesFrom ⟨before, []⟩ = [] := by
  have nothing : pattern.matchAt? ⟨before, []⟩ = none := by
    rw [matchAt?, rejected _ rfl]
    rfl
  rw [matchesFrom, nothing]
  rfl

end Pattern

end SchemaPlan
