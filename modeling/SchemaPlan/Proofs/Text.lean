import SchemaPlan.Proofs.Object

/-!
# Ends, pieces, lines and lengths of texts

Trimming takes away the blanks at both ends and nothing else, so that a trimmed
text begins and ends with something else (`Unpadded`).  A text whose lines are
each closed by a line feed is taken apart into these lines again.

A text is split at its separators.  The pieces of two texts with a separator between them
are the pieces of the one and then those of the other, so the pieces are the maximal
stretches without separators (`mem_splitWhere_iff`), and the words of a text are read off
from the left.
-/

set_option autoImplicit false

namespace SchemaPlan.Text

/-! ## Ends -/

/-- There is no blank at either end. -/
structure Unpadded (characters : List Char) : Prop where
  first : ∀ character ∈ characters.head?, isBlank character = false
  last : ∀ character ∈ characters.getLast?, isBlank character = false

theorem Unpadded.reverse {characters : List Char} (unpadded : Unpadded characters) :
    Unpadded characters.reverse where
  first := by
    rw [List.head?_reverse]
    exact unpadded.last
  last := by
    rw [List.getLast?_reverse]
    exact unpadded.first

theorem dropWhile_of_head? {characters : List Char}
    (first : ∀ character ∈ characters.head?, isBlank character = false) :
    characters.dropWhile isBlank = characters := by
  cases characters with
  | nil => rfl
  | cons character rest =>
      exact List.dropWhile_cons_of_neg (by rw [first character rfl]; decide)

/-- Blanks behind a text that begins and ends with something else are all that is
trimmed off. -/
theorem trimChars_append {characters blanks : List Char} (unpadded : Unpadded characters)
    (nonempty : characters ≠ []) (blank : ∀ character ∈ blanks, isBlank character = true) :
    trimChars (characters ++ blanks) = characters := by
  have front : (characters ++ blanks).dropWhile isBlank = characters ++ blanks := by
    refine dropWhile_of_head? fun character first => unpadded.first character ?_
    rwa [List.head?_append_of_ne_nil _ nonempty] at first
  have back : characters.reverse.dropWhile isBlank = characters.reverse :=
    dropWhile_of_head? unpadded.reverse.first
  have skipped : ∀ character ∈ blanks.reverse, isBlank character = true :=
    fun character member => blank character (List.mem_reverse.mp member)
  rw [trimChars, trimWhere, front, List.reverse_append, List.dropWhile_append_of_pos skipped,
    back, List.reverse_reverse]

/-- What is left by trimming has no blank at either end. -/
theorem unpadded_trimChars (characters : List Char) : Unpadded (trimChars characters) where
  first := by
    have front := List.head?_dropWhile_not isBlank (trimChars characters)
    rw [trimChars, dropWhile_trimWhere] at front
    intro character first
    rw [trimChars, Option.mem_def] at first
    rwa [first] at front
  last := by
    intro character last
    have back := List.rdropWhile_eq_self_iff.mp (rdropWhile_trimWhere isBlank characters)
    have nonempty : trimChars characters ≠ [] := by
      rintro none
      rw [none] at last
      cases last
    rw [List.getLast?_eq_getLast_of_ne_nil nonempty, Option.mem_some_iff] at last
    rw [← last]
    exact Bool.eq_false_iff.mpr (back nonempty)

theorem sublist_trimChars (characters : List Char) :
    (trimChars characters).Sublist characters := by
  have back :=
    (List.dropWhile_sublist isBlank (l := (characters.dropWhile isBlank).reverse)).reverse
  rw [List.reverse_reverse] at back
  exact back.trans (List.dropWhile_sublist isBlank)

/-! ## Lines -/

theorem linesFrom_append {line : List Char} (noLineFeed : '\n' ∉ line)
    (current rest : List Char) : linesFrom current (line ++ '\n' :: rest) =
      endedLine (line.reverse ++ current) :: linesFrom [] rest := by
  induction line generalizing current with
  | nil => rw [List.nil_append, linesFrom]; rfl
  | cons character later ih =>
      obtain ⟨notLineFeed, noLater⟩ := List.ne_and_not_mem_of_not_mem_cons noLineFeed
      rw [List.cons_append, linesFrom.eq_4 _ _ _ notLineFeed.symm, ih noLater, List.reverse_cons,
        List.append_assoc]
      rfl

theorem endedLine_reverse {line : List Char} (noReturn : line.getLast? ≠ some '\r') :
    endedLine line.reverse = line := by
  rw [endedLine.eq_2, List.reverse_reverse]
  intro reversed isReturn
  rw [← List.head?_reverse, isReturn] at noReturn
  exact noReturn rfl

/-- **Lines that are closed one by one are the lines of the text.** -/
theorem lines_ofList_flatMap {lines : List (List Char)}
    (closed : ∀ line ∈ lines, '\n' ∉ line ∧ line.getLast? ≠ some '\r') :
    Text.lines (String.ofList (lines.flatMap (· ++ ['\n']))) = lines.map String.ofList := by
  rw [Text.lines, String.toList_ofList]
  refine congrArg (List.map String.ofList) ?_
  induction lines with
  | nil => rfl
  | cons line rest ih =>
      obtain ⟨⟨noLineFeed, noReturn⟩, closedRest⟩ := List.forall_mem_cons.mp closed
      rw [List.flatMap_cons, List.append_assoc, List.singleton_append,
        linesFrom_append noLineFeed, List.append_nil, endedLine_reverse noReturn, ih closedRest]

variable {isSeparator : Char → Bool} {characters piece rest : List Char} {separator : Char}

/-! ## Splitting -/

theorem splitWhere_ne_nil (characters : List Char) : splitWhere isSeparator characters ≠ [] := by
  cases characters with
  | nil => exact List.cons_ne_nil _ _
  | cons first rest =>
      rw [splitWhere]
      split
      · exact List.cons_ne_nil _ _
      · split <;> exact List.cons_ne_nil _ _

theorem splitWhere_eq_singleton
    (whole : ∀ character ∈ characters, isSeparator character = false) :
    splitWhere isSeparator characters = [characters] := by
  induction characters with
  | nil => rfl
  | cons first rest ih =>
      have later := ih fun character member => whole character (List.mem_cons_of_mem _ member)
      simp [splitWhere, whole first List.mem_cons_self, later]

/-- What stands before a separator and what stands behind it are split apart from each other. -/
theorem splitWhere_append (separates : isSeparator separator = true) :
    splitWhere isSeparator (characters ++ separator :: rest) =
      splitWhere isSeparator characters ++ splitWhere isSeparator rest := by
  induction characters with
  | nil => simp [splitWhere, separates]
  | cons first others ih =>
      rw [List.cons_append, splitWhere, splitWhere, ih]
      split
      · rfl
      · cases pieces : splitWhere isSeparator others with
        | nil => exact absurd pieces (splitWhere_ne_nil others)
        | cons opening more => rfl

/-- A text without separators up to the first one has what stands there as its first piece. -/
theorem splitWhere_of_first (whole : ∀ character ∈ piece, isSeparator character = false)
    (separates : isSeparator separator = true) :
    splitWhere isSeparator (piece ++ separator :: rest) =
      piece :: splitWhere isSeparator rest := by
  rw [splitWhere_append separates, splitWhere_eq_singleton whole]
  rfl

/-- A text has no separators, or it has a first one. -/
theorem whole_or_first (isSeparator : Char → Bool) (characters : List Char) :
    (∀ character ∈ characters, isSeparator character = false) ∨
      ∃ opening separator rest, characters = opening ++ separator :: rest ∧
        (∀ character ∈ opening, isSeparator character = false) ∧
        isSeparator separator = true := by
  induction characters with
  | nil => exact .inl fun _ nothing => absurd nothing List.not_mem_nil
  | cons first rest ih =>
      cases isFirst : isSeparator first with
      | true => exact .inr ⟨[], first, rest, rfl, fun _ nothing => absurd nothing List.not_mem_nil,
          isFirst⟩
      | false =>
          rcases ih with whole | ⟨opening, separator, others, rfl, whole, separates⟩
          · exact .inl (List.forall_mem_cons.mpr ⟨isFirst, whole⟩)
          · exact .inr ⟨first :: opening, separator, others, rfl,
              List.forall_mem_cons.mpr ⟨isFirst, whole⟩, separates⟩

/-! ## Maximal stretches -/

/-- A piece of a text between ends that are separators or ends of the text. -/
structure IsStretch (isSeparator : Char → Bool) (before piece after : List Char) : Prop where
  whole : ∀ character ∈ piece, isSeparator character = false
  first : ∀ character ∈ before.getLast?, isSeparator character = true
  last : ∀ character ∈ after.head?, isSeparator character = true

theorem exists_stretch (characters : List Char)
    (member : piece ∈ splitWhere isSeparator characters) :
    ∃ before after, characters = before ++ piece ++ after ∧
      IsStretch isSeparator before piece after := by
  rcases whole_or_first isSeparator characters with
    whole | ⟨opening, separator, rest, rfl, whole, separates⟩
  · rw [splitWhere_eq_singleton whole, List.mem_singleton] at member
    subst member
    exact ⟨[], [], by simp, whole, by simp, by simp⟩
  · rw [splitWhere_of_first whole separates] at member
    rcases List.mem_cons.mp member with rfl | later
    · exact ⟨[], separator :: rest, rfl, whole, by simp, by simpa using separates⟩
    · obtain ⟨before, after, rfl, stretch⟩ := exists_stretch rest later
      refine ⟨opening ++ separator :: before, after, by simp, stretch.whole, ?_, stretch.last⟩
      intro character last
      rw [List.getLast?_append, List.getLast?_cons, Option.some_or] at last
      cases previous : before.getLast? with
      | none =>
          rw [previous] at last
          exact Option.some.inj last ▸ separates
      | some other =>
          rw [previous] at last
          exact stretch.first character (previous.trans last)
termination_by characters.length
decreasing_by
  subst_vars
  simp only [List.length_append, List.length_cons]
  omega

/-- **The pieces of a text are its maximal stretches without separators.** -/
theorem mem_splitWhere_iff : piece ∈ splitWhere isSeparator characters ↔
    ∃ before after, characters = before ++ piece ++ after ∧
      IsStretch isSeparator before piece after := by
  refine ⟨exists_stretch characters, ?_⟩
  rintro ⟨before, after, rfl, stretch⟩
  have front : piece ∈ splitWhere isSeparator (before ++ piece) := by
    rcases List.eq_nil_or_concat before with rfl | ⟨others, separator, rfl⟩
    · rw [List.nil_append, splitWhere_eq_singleton stretch.whole]
      exact List.mem_singleton_self piece
    · have separates := stretch.first separator (by simp)
      rw [List.concat_eq_append, List.append_assoc, List.singleton_append,
        splitWhere_append separates, splitWhere_eq_singleton stretch.whole]
      exact List.mem_append_right _ (List.mem_singleton_self piece)
  cases after with
  | nil => rwa [List.append_nil]
  | cons separator others =>
      rw [splitWhere_append (stretch.last separator rfl)]
      exact List.mem_append_left _ front

/-- A piece between separators consists of characters of the text that are no
separators. -/
theorem mem_splitWhere (member : piece ∈ splitWhere isSeparator characters) :
    ∀ character ∈ piece, character ∈ characters ∧ isSeparator character = false := by
  obtain ⟨before, after, rfl, stretch⟩ := mem_splitWhere_iff.mp member
  exact fun character inPiece => ⟨by simp [inPiece], stretch.whole character inPiece⟩

/-! ## Words -/

theorem words_append {gap : List Char} (blank : ∀ character ∈ gap, isBlank character = true)
    (rest : List Char) : words (gap ++ rest) = words rest := by
  induction gap with
  | nil => rfl
  | cons first others ih =>
      rw [List.cons_append, words, splitWhere, if_pos (blank first List.mem_cons_self)]
      exact ih fun character member => blank character (List.mem_cons_of_mem _ member)

/-- A text that begins with a word has it as its first word. -/
theorem head?_words {word : List Char} (nonempty : word ≠ [])
    (whole : ∀ character ∈ word, isBlank character = false)
    (ends : ∀ character ∈ rest.head?, isBlank character = true) :
    (words (word ++ rest)).head? = some word := by
  have counts : (!word.isEmpty) = true := by simpa using nonempty
  cases rest with
  | nil =>
      rw [List.append_nil, words, splitWhere_eq_singleton whole, List.filter_cons, if_pos counts,
        List.head?_cons]
  | cons blank others =>
      rw [words, splitWhere_of_first whole (ends blank rfl), List.filter_cons, if_pos counts,
        List.head?_cons]

/-! ## Bytes -/

theorem byteLength_append (first second : List Char) :
    byteLength (first ++ second) = byteLength first + byteLength second := by
  induction first with
  | nil => exact (Nat.zero_add _).symm
  | cons character rest ih => rw [List.cons_append, byteLength, byteLength, ih, Nat.add_assoc]

theorem byteLength_reverse (text : List Char) : byteLength text.reverse = byteLength text := by
  induction text with
  | nil => rfl
  | cons character rest ih =>
      rw [List.reverse_cons, byteLength_append, ih, Nat.add_comm, byteLength]
      rfl

end SchemaPlan.Text
