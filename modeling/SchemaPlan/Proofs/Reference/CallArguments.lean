import Mathlib.Data.List.DropRight
import SchemaPlan.Proofs.Text
import SchemaPlan.Reference.Clause

/-!
# Places within the arguments of a call

Whether a place lies within the arguments of a call is told by the statement that it
stands in.  Read forwards, each opening parenthesis is put on a stack and each closing one
takes the innermost off, and the place lies within a call when a parenthesis is left on
the stack and the text behind the innermost one does not hold the word SELECT.

The text before the place is searched backwards with a count of the parentheses closed.
The count says how deep in the stack of the text still to be read the parenthesis lies
that the search is after, so both readings agree on every text (`insideCallFrom_reverse`),
balanced or not.
-/

set_option autoImplicit false

namespace SchemaPlan.Clause

/-! ## Reading forwards -/

/-- Reads a text with the stack of the parentheses that are open, innermost first.  What is
kept of a parenthesis is the text behind it.  A closing parenthesis for which none is open
has no effect. -/
def openFrom (stack : List (List Char)) : List Char → List (List Char)
  | [] => stack
  | character :: rest =>
    if character = '(' then openFrom (rest :: stack) rest
    else if character = ')' then openFrom stack.tail rest
    else openFrom stack rest

/-- The part of a text behind its last semicolon. -/
def statement (text : List Char) : List Char := text.rtakeWhile (· != ';')

/-- A word is a maximal run of letters, digits and underscores of a text. -/
def HoldsWord (word text : List Char) : Prop :=
  ∃ before after, text = before ++ word ++ after ∧
    Text.IsStretch (fun character => !isPlainWord character) before word after

/-- The end of a text lies within the arguments of a call: a parenthesis of the last
statement is open, and the innermost open one is not that of a subquery. -/
def WithinCall (text : List Char) : Prop :=
  ∃ inner, (openFrom [] (statement text)).head? = some inner ∧
    ¬ HoldsWord "SELECT".toList inner

theorem holdsSelect_iff {inner : List Char} :
    holdsSelect inner = true ↔ HoldsWord "SELECT".toList inner := by
  rw [HoldsWord, ← Text.mem_splitWhere_iff, holdsSelect, List.any_beq', List.contains_iff_mem]

/-- A text that goes on with one more character. -/
theorem openFrom_concat (stack : List (List Char)) (text : List Char) (character : Char) :
    openFrom (stack.map (· ++ [character])) (text ++ [character]) =
      if character = '(' then [] :: (openFrom stack text).map (· ++ [character])
      else if character = ')' then ((openFrom stack text).map (· ++ [character])).tail
      else (openFrom stack text).map (· ++ [character]) := by
  induction text generalizing stack with
  | nil => rfl
  | cons first rest ih =>
      rw [List.cons_append, openFrom, openFrom]
      split
      · exact ih (rest :: stack)
      · split
        · rw [← List.map_tail]
          exact ih stack.tail
        · exact ih stack

/-! ## Searching backwards -/

/-- The statement of a text that goes on is over, or goes on as well. -/
theorem openFrom_statement_concat (text : List Char) (character : Char) :
    openFrom [] (statement (text ++ [character])) =
      if character = ';' then []
      else if character = '(' then
        [] :: (openFrom [] (statement text)).map (· ++ [character])
      else if character = ')' then
        ((openFrom [] (statement text)).map (· ++ [character])).tail
      else (openFrom [] (statement text)).map (· ++ [character]) := by
  rw [statement, List.rtakeWhile_concat]
  split
  · next ends =>
    rw [if_neg (by simpa using ends)]
    exact openFrom_concat [] _ character
  · next ends =>
    rw [if_pos (by simpa using ends)]
    rfl

/-- **The backward search finds the parenthesis that the forward reading leaves open**, as
deep in the stack as parentheses have been closed behind it. -/
theorem insideCallFrom_reverse (text inner : List Char) (depth : Nat) :
    insideCallFrom depth inner text.reverse =
      (openFrom [] (statement text))[depth]?.any fun behind => !holdsSelect (behind ++ inner) := by
  induction text using List.reverseRecOn generalizing depth inner with
  | nil => rfl
  | append_singleton text character ih =>
      rw [List.reverse_append, List.reverse_singleton, List.singleton_append, insideCallFrom.eq_def,
        openFrom_statement_concat]
      -- A character read backwards stands at the end of what is behind each open parenthesis.
      have further : ∀ depth, insideCallFrom depth (character :: inner) text.reverse =
          ((openFrom [] (statement text)).map (· ++ [character]))[depth]?.any fun behind =>
            !holdsSelect (behind ++ inner) := by
        intro depth
        rw [ih, List.getElem?_map, Option.any_map]
        simp
      by_cases ends : character = ';'
      · simp [ends]
      by_cases closes : character = ')'
      · subst closes
        simpa [List.getElem?_tail] using further (depth + 1)
      by_cases opens : character = '('
      · subst opens
        cases depth with
        | zero => simp
        | succ depth => simpa using further depth
      · simpa [ends, closes, opens] using further depth

theorem insideCall_reverse (text : List Char) :
    insideCall text.reverse = true ↔ WithinCall text := by
  rw [insideCall, insideCallFrom_reverse, ← List.head?_eq_getElem?, Option.any_eq_true]
  refine exists_congr fun inner => and_congr_right fun _ => ?_
  rw [List.append_nil, Bool.not_eq_true', ← Bool.not_eq_true, holdsSelect_iff]

/-! ## Byte offsets -/

/-- Bytes that are more than none begin with the first character, if it fits into them. -/
theorem exists_front_cons {character : Char} {rest read found : List Char} {bytes : Nat} :
    (∃ before after, character :: rest = before ++ after ∧
        Text.byteLength before = bytes + 1 ∧ before.reverse ++ read = found) ↔
      character.utf8Size ≤ bytes + 1 ∧ ∃ before after, rest = before ++ after ∧
        Text.byteLength before = bytes + 1 - character.utf8Size ∧
        before.reverse ++ character :: read = found := by
  constructor
  · rintro ⟨_ | ⟨first, others⟩, after, whole, length, same⟩
    · cases length
    · obtain ⟨rfl, rest⟩ := List.cons.inj whole
      rw [Text.byteLength] at length
      exact ⟨by omega, others, after, rest, by omega, by simpa using same⟩
  · rintro ⟨fits, before, after, rfl, length, same⟩
    refine ⟨character :: before, after, rfl, ?_, by simpa using same⟩
    rw [Text.byteLength]
    omega

/-- The characters that take up the first bytes of a text are there exactly when the bytes
end between two characters. -/
theorem charactersBefore?_eq_some_iff {read text found : List Char} {offset : Nat} :
    charactersBefore? read offset text = some found ↔
      ∃ before after, text = before ++ after ∧ Text.byteLength before = offset ∧
        before.reverse ++ read = found := by
  induction text generalizing read offset with
  | nil =>
      cases offset with
      | zero => simp [charactersBefore?, Text.byteLength]
      | succ offset => simp [charactersBefore?, Text.byteLength]
  | cons character rest ih =>
      cases offset with
      | zero =>
          rw [charactersBefore?, Option.some.injEq]
          constructor
          · rintro rfl
            exact ⟨[], character :: rest, rfl, rfl, rfl⟩
          · rintro ⟨_ | ⟨first, others⟩, after, whole, length, same⟩
            · exact same
            · have size := first.utf8Size_pos
              rw [Text.byteLength] at length
              omega
      | succ bytes =>
          rw [charactersBefore?, exists_front_cons]
          split
          · next fits => rw [ih, and_iff_right fits]
          · next tooLong =>
            exact iff_of_false (Option.some_ne_none found).symm fun front => tooLong front.1

/-- A place of a text is told by its offset, so it may be asked for either way. -/
theorem insideCallAt_offset (place : Cursor) :
    insideCallAt (place.before.reverse ++ place.after) place.offset = insideCall place.before := by
  have found : charactersBefore? [] place.offset (place.before.reverse ++ place.after) =
      some place.before :=
    charactersBefore?_eq_some_iff.mpr
      ⟨_, _, rfl, Text.byteLength_reverse place.before, by simp⟩
  rw [insideCallAt, found, Option.any_some]

/-- **A byte offset lies within the arguments of a call** exactly when it lies between two
characters and the text up to there ends within a call. -/
theorem insideCallAt_iff (text : List Char) (offset : Nat) :
    insideCallAt text offset = true ↔
      ∃ before after, text = before ++ after ∧ Text.byteLength before = offset ∧
        WithinCall before := by
  rw [insideCallAt, Option.any_eq_true]
  simp only [charactersBefore?_eq_some_iff, List.append_nil]
  constructor
  · rintro ⟨_, ⟨before, after, whole, length, rfl⟩, within⟩
    exact ⟨before, after, whole, length, (insideCall_reverse before).mp within⟩
  · rintro ⟨before, after, whole, length, within⟩
    exact ⟨_, ⟨before, after, whole, length, rfl⟩, (insideCall_reverse before).mpr within⟩

/-- FROM in a call of EXTRACT is within its arguments, and FROM in a subquery is not. -/
example : insideCallAt "EXTRACT(YEAR FROM D)".toList 13 = true ∧
    insideCallAt "F((SELECT C FROM T))".toList 12 = false := by decide

end SchemaPlan.Clause
