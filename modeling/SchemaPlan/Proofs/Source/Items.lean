import SchemaPlan.Source.Clean

/-!
# What source text consists of

Source text is a sequence of items (`Item`): characters of code, literals,
comments and ends of lines.  What is spelled by a sequence of items need not be
read as these items again: of two hyphens the first is no character of code, and
a literal that another one follows at once goes on with it.  A sequence in which
each item can stand before the text of the others is well-formed
(`WellFormed`), and every text consists of some well-formed sequence
(`exists_consists`).

Cleaning shows each item in its own way, whatever the contents of literals and
comments are (`shownFrom`).  It reads a well-formed sequence item by item
(`cleanFrom_spell`).
-/

set_option autoImplicit false

namespace SchemaPlan.Source

/-! ## Items -/

/-- What source text consists of.  Contents are given without what delimits
them. -/
inductive Item where
  /-- A character of code. -/
  | mark (character : Char)
  /-- A literal that is closed on its line. -/
  | literal (contents : List Char)
  /-- A literal that is open when its line ends. -/
  | openLiteral (contents : List Char)
  /-- A block comment that ends on the line where it began. -/
  | comment (contents : List Char)
  /-- A block comment that ends on a later line. -/
  | longComment (first : List Char) (between : List (List Char)) (last : List Char)
  /-- A block comment that is open when the text ends. -/
  | openComment (first : List Char) (further : List (List Char))
  /-- What follows two hyphens on their line. -/
  | remark (contents : List Char)
  /-- The end of a line in code. -/
  | lineEnd
deriving DecidableEq, Repr

/-- Lines with a text before the first of them. -/
def opened (text : List Char) : List (List Char) → List (List Char)
  | [] => [text]
  | line :: rest => (text ++ line) :: rest

/-- The lines that begin with an item and go on with the given ones. -/
def Item.spell : Item → List (List Char) → List (List Char)
  | mark character, lines => opened [character] lines
  | literal contents, lines => opened ('\x27' :: contents ++ ['\x27']) lines
  | openLiteral contents, lines => ('\x27' :: contents) :: lines
  | comment contents, lines => opened ('/' :: '*' :: contents ++ ['*', '/']) lines
  | longComment first between last, lines =>
    ('/' :: '*' :: first) :: (between ++ opened (last ++ ['*', '/']) lines)
  | openComment first further, lines => ('/' :: '*' :: first) :: (further ++ lines)
  | remark contents, lines => ('-' :: '-' :: contents) :: lines
  | lineEnd, lines => [] :: lines

/-- The lines that items spell. -/
def spell (items : List Item) : List (List Char) := items.foldr Item.spell []

theorem spell_cons (item : Item) (rest : List Item) :
    spell (item :: rest) = item.spell (spell rest) := rfl

/-- Every quote is followed by a second one, as it has to be within a literal. -/
inductive Doubled : List Char → Prop
  | nil : Doubled []
  | quotes {rest : List Char} (doubled : Doubled rest) : Doubled ('\x27' :: '\x27' :: rest)
  | other {character : Char} {rest : List Char} (notQuote : character ≠ '\x27')
      (doubled : Doubled rest) : Doubled (character :: rest)

/-- The text does not end a block comment. -/
def Unended (text : List Char) : Prop := ¬ ['*', '/'] <:+: text

instance (text : List Char) : Decidable (Unended text) :=
  inferInstanceAs (Decidable ¬ ['*', '/'] <:+: text)

/-- An item is read as such before the given lines. -/
def Item.Fits : Item → List (List Char) → Prop
  | mark character, line :: _ => character ≠ '\x27' ∧
    ¬ (character = '-' ∧ line.head? = some '-') ∧ ¬ (character = '/' ∧ line.head? = some '*')
  | literal contents, line :: _ => Doubled contents ∧ line.head? ≠ some '\x27'
  | comment contents, _ :: _ => Unended contents
  | longComment first between last, _ :: _ =>
    Unended first ∧ (∀ line ∈ between, Unended line) ∧ Unended last
  | mark _, [] | literal _, [] | comment _, [] | longComment _ _ _, [] => False
  | openLiteral contents, _ => Doubled contents
  | openComment first further, lines =>
    lines = [] ∧ Unended first ∧ ∀ line ∈ further, Unended line
  | remark _, _ | lineEnd, _ => True

/-- Each item is read as such before the text of those that follow. -/
def WellFormed : List Item → Prop
  | [] => True
  | item :: rest => item.Fits (spell rest) ∧ WellFormed rest

/-- A source text consists of items: it is what they spell, and it is read as these
items. -/
structure Consists (lines : List String) (items : List Item) : Prop where
  wellFormed : WellFormed items
  spelled : spell items = lines.map String.toList

/-! ## Every text consists of items -/

theorem pair_infix_cons_iff {first second character : Char} {text : List Char} :
    [first, second] <:+: character :: text ↔
      (character = first ∧ text.head? = some second) ∨ [first, second] <:+: text := by
  rw [List.infix_cons_iff, List.cons_prefix_cons]
  refine or_congr_left ?_
  cases text <;> simp [eq_comm]

theorem unended_cons_iff {character : Char} {text : List Char} : Unended (character :: text) ↔
    ¬ (character = '*' ∧ text.head? = some '/') ∧ Unended text := by
  rw [Unended, Unended, pair_infix_cons_iff, not_or]

/-- A text has no end of a block comment, or it has a first one. -/
theorem unended_or_ended (text : List Char) : Unended text ∨
    ∃ contents line, Unended contents ∧ text = contents ++ '*' :: '/' :: line := by
  induction text with
  | nil => exact .inl (by decide)
  | cons character rest ih =>
      by_cases ends : character = '*' ∧ rest.head? = some '/'
      · obtain ⟨rfl, slash⟩ := ends
        obtain ⟨line, rfl⟩ := List.head?_eq_some_iff.mp slash
        exact .inr ⟨[], line, by decide, rfl⟩
      · rcases ih with unended | ⟨contents, line, unended, rfl⟩
        · exact .inl (unended_cons_iff.mpr ⟨ends, unended⟩)
        · refine .inr ⟨character :: contents, line, unended_cons_iff.mpr ⟨?_, unended⟩, rfl⟩
          rintro ⟨isStar, slash⟩
          refine ends ⟨isStar, ?_⟩
          rw [List.head?_append, slash, Option.some_or]

/-- Lines have no end of a block comment, or a first one has. -/
theorem unended_or_ended_lines (lines : List (List Char)) : (∀ line ∈ lines, Unended line) ∨
    ∃ between last line rest, (∀ line ∈ between, Unended line) ∧ Unended last ∧
      lines = between ++ (last ++ '*' :: '/' :: line) :: rest := by
  induction lines with
  | nil => exact .inl nofun
  | cons first others ih =>
      rcases unended_or_ended first with unended | ⟨last, line, unended, rfl⟩
      · rcases ih with unendedOthers | ⟨between, last, line, rest, unendedBetween, other, rfl⟩
        · exact .inl (List.forall_mem_cons.mpr ⟨unended, unendedOthers⟩)
        · exact .inr ⟨first :: between, last, line, rest,
            List.forall_mem_cons.mpr ⟨unended, unendedBetween⟩, other, rfl⟩
      · exact .inr ⟨[], last, line, others, nofun, unended, rfl⟩

/-- What follows the quote that opens a literal is the rest of an open one, or has a
first quote that closes it. -/
theorem doubled_or_closed (text : List Char) : Doubled text ∨
    ∃ contents line, Doubled contents ∧ line.head? ≠ some '\x27' ∧
      text = contents ++ '\x27' :: line := by
  match text with
  | [] => exact .inl .nil
  | character :: rest =>
      by_cases isQuote : character = '\x27'
      · subst isQuote
        by_cases another : rest.head? = some '\x27'
        · obtain ⟨later, rfl⟩ := List.head?_eq_some_iff.mp another
          rcases doubled_or_closed later with doubled | ⟨contents, line, doubled, closed, rfl⟩
          · exact .inl doubled.quotes
          · exact .inr ⟨'\x27' :: '\x27' :: contents, line, doubled.quotes, closed, rfl⟩
        · exact .inr ⟨[], rest, .nil, another, rfl⟩
      · rcases doubled_or_closed rest with doubled | ⟨contents, line, doubled, closed, rfl⟩
        · exact .inl (doubled.other isQuote)
        · exact .inr ⟨character :: contents, line, doubled.other isQuote, closed, rfl⟩
termination_by text.length

/-- All lines are spelled by items that are read as such. -/
theorem exists_wellFormed (lines : List (List Char)) :
    ∃ items, WellFormed items ∧ spell items = lines := by
  match lines with
  | [] => exact ⟨[], trivial, rfl⟩
  | [] :: rest =>
      obtain ⟨items, wellFormed, rfl⟩ := exists_wellFormed rest
      exact ⟨.lineEnd :: items, ⟨trivial, wellFormed⟩, rfl⟩
  | (character :: text) :: rest =>
      by_cases isRemark : character = '-' ∧ text.head? = some '-'
      · obtain ⟨rfl, hyphen⟩ := isRemark
        obtain ⟨contents, rfl⟩ := List.head?_eq_some_iff.mp hyphen
        obtain ⟨items, wellFormed, rfl⟩ := exists_wellFormed rest
        exact ⟨.remark contents :: items, ⟨trivial, wellFormed⟩, rfl⟩
      by_cases isComment : character = '/' ∧ text.head? = some '*'
      · obtain ⟨rfl, star⟩ := isComment
        obtain ⟨inside, rfl⟩ := List.head?_eq_some_iff.mp star
        rcases unended_or_ended inside with unended | ⟨contents, line, unended, rfl⟩
        · rcases unended_or_ended_lines rest with
            unendedRest | ⟨between, last, line, later, unendedBetween, unendedLast, rfl⟩
          · exact ⟨[.openComment inside rest], ⟨⟨rfl, unended, unendedRest⟩, trivial⟩,
              by simp [spell, Item.spell]⟩
          · obtain ⟨items, wellFormed, spelled⟩ := exists_wellFormed (line :: later)
            refine ⟨.longComment inside between last :: items, ⟨?_, wellFormed⟩, ?_⟩
            · rw [spelled]
              exact ⟨unended, unendedBetween, unendedLast⟩
            · simp [spell_cons, spelled, Item.spell, opened]
        · obtain ⟨items, wellFormed, spelled⟩ := exists_wellFormed (line :: rest)
          refine ⟨.comment contents :: items, ⟨?_, wellFormed⟩, ?_⟩
          · rw [spelled]
            exact unended
          · simp [spell_cons, spelled, Item.spell, opened]
      by_cases isQuote : character = '\x27'
      · subst isQuote
        rcases doubled_or_closed text with doubled | ⟨contents, line, doubled, closed, rfl⟩
        · obtain ⟨items, wellFormed, rfl⟩ := exists_wellFormed rest
          exact ⟨.openLiteral text :: items, ⟨doubled, wellFormed⟩, rfl⟩
        · obtain ⟨items, wellFormed, spelled⟩ := exists_wellFormed (line :: rest)
          refine ⟨.literal contents :: items, ⟨?_, wellFormed⟩, ?_⟩
          · rw [spelled]
            exact ⟨doubled, closed⟩
          · simp [spell_cons, spelled, Item.spell, opened]
      obtain ⟨items, wellFormed, spelled⟩ := exists_wellFormed (text :: rest)
      refine ⟨.mark character :: items, ⟨?_, wellFormed⟩, ?_⟩
      · rw [spelled]
        exact ⟨isQuote, isRemark, isComment⟩
      · simp [spell_cons, spelled, Item.spell, opened]
termination_by (lines.map fun line => line.length + 1).sum

/-- **Every source text consists of items.** -/
theorem exists_consists (lines : List String) : ∃ items, Consists lines items := by
  obtain ⟨items, wellFormed, spelled⟩ := exists_wellFormed (lines.map String.toList)
  exact ⟨items, wellFormed, spelled⟩

/-! ## What cleaning shows -/

namespace Item

/-- The cleaned text of a line, in reverse, after an item that begins on it. -/
def showOn : Item → List Char → List Char
  | mark character, read =>
    if character = '\x22' then read
    else if Text.isBlank character then addBlank read else character.toUpper :: read
  | literal _, read | openLiteral _, read => '\x27' :: '\x27' :: read
  | comment _, read => ' ' :: read
  | longComment _ _ _, read | openComment _ _, read | remark _, read | lineEnd, read => read

/-- The cleaned text with which the next line in code begins, if the item ends its
line. -/
def start? : Item → Option (List Char)
  | mark _ | literal _ | comment _ => none
  | openLiteral _ | remark _ | lineEnd | openComment _ _ => some []
  | longComment _ _ _ => some [' ']

end Item

/-- The cleaned text of a line that has been read to its end. -/
def finished (read : List Char) : List Char := Text.trimChars read.reverse

/-- The cleaned lines of items, from a line on of which some text has been read.
Lines that lie within comments are left out. -/
def shownFrom (read : List Char) : List Item → List (List Char)
  | [] => []
  | item :: rest =>
    match item.start? with
    | none => shownFrom (item.showOn read) rest
    | some start => finished (item.showOn read) :: shownFrom start rest

/-- The lines that hold something. -/
def filled (lines : List (List Char)) : List (List Char) := lines.filter fun line => !line.isEmpty

/-- The cleaned lines of a text from a place in code on. -/
def cleanFrom (read : List Char) : List (List Char) → List (List Char)
  | [] => []
  | line :: rest =>
    let (after, stillOpen) := readLine .code read line
    finished after :: cleanLines stillOpen (rest.map String.ofList)

/-! ### Reading within a line -/

/-- What is read of a line is held in reverse and in capitals, and a remark is not read. -/
example : readLine .code [] ['a', ' ', 'b', '-', '-', 'c'] = (['B', ' ', 'A'], false) := by cbv

theorem readLine_comment {contents : List Char} (unended : Unended contents)
    (read line : List Char) :
    readLine .comment read (contents ++ '*' :: '/' :: line) =
      readLine .code (' ' :: read) line := by
  induction contents with
  | nil => rw [List.nil_append, readLine]
  | cons character rest ih =>
      obtain ⟨noEnd, unendedRest⟩ := unended_cons_iff.mp unended
      rw [List.cons_append, readLine.eq_2 _ _ _ fun later isStar slash => ?_]
      · exact ih unendedRest
      · cases rest with
        | nil => cases slash
        | cons next more => exact noEnd ⟨isStar, congrArg List.head? slash⟩

theorem readLine_comment_open {contents : List Char} (unended : Unended contents)
    (read : List Char) : readLine .comment read contents = (read, true) := by
  induction contents with
  | nil => rw [readLine]
  | cons character rest ih =>
      obtain ⟨noEnd, unendedRest⟩ := unended_cons_iff.mp unended
      rw [readLine.eq_2 _ _ _ fun later isStar slash => noEnd ⟨isStar, congrArg List.head? slash⟩]
      exact ih unendedRest

theorem readLine_literal {contents : List Char} (doubled : Doubled contents)
    {line : List Char} (closed : line.head? ≠ some '\x27') (read : List Char) :
    readLine .literal read (contents ++ '\x27' :: line) = readLine .code ('\x27' :: read) line := by
  induction doubled with
  | nil => exact readLine.eq_5 _ _ fun _ another => closed (congrArg List.head? another)
  | quotes _ ih => exact (readLine.eq_4 _ _).trans ih
  | other notQuote _ ih =>
      exact (readLine.eq_6 _ _ _ (fun _ isQuote _ => notQuote isQuote) notQuote).trans ih

theorem readLine_literal_open {contents : List Char} (doubled : Doubled contents)
    (read : List Char) : readLine .literal read contents = ('\x27' :: read, false) := by
  induction doubled with
  | nil => rw [readLine]
  | quotes _ ih => exact (readLine.eq_4 _ _).trans ih
  | other notQuote _ ih =>
      exact (readLine.eq_6 _ _ _ (fun _ isQuote _ => notQuote isQuote) notQuote).trans ih

theorem readLine_mark {character : Char} {line : List Char} {lines : List (List Char)}
    (fits : (Item.mark character).Fits (line :: lines)) (read : List Char) :
    readLine .code read (character :: line) =
      readLine .code ((Item.mark character).showOn read) line := by
  obtain ⟨notQuote, noRemark, noComment⟩ := fits
  rw [Item.showOn]
  split
  · next isDouble =>
    subst isDouble
    rw [readLine]
  · next notDouble =>
    rw [readLine.eq_12 _ _ _
      (fun _ isHyphen another => noRemark ⟨isHyphen, congrArg List.head? another⟩)
      (fun _ isSlash star => noComment ⟨isSlash, congrArg List.head? star⟩) notQuote notDouble]
    split <;> rfl

/-! ### Reading a text -/

theorem cleanFrom_cons (read line : List Char) (rest : List (List Char)) :
    cleanFrom read (line :: rest) = finished (readLine .code read line).1 ::
      cleanLines (readLine .code read line).2 (rest.map String.ofList) := rfl

theorem cleanLines_cons (inComment : Bool) (line : List Char) (rest : List (List Char)) :
    cleanLines inComment ((line :: rest).map String.ofList) =
      finished (readLine (if inComment then .comment else .code) [] line).1 ::
        cleanLines (readLine (if inComment then .comment else .code) [] line).2
          (rest.map String.ofList) := by
  rw [List.map_cons, cleanLines, cleanLine, String.toList_ofList]
  rfl

/-- Outside comments a new line is read from its beginning. -/
theorem cleanLines_false (lines : List (List Char)) :
    cleanLines false (lines.map String.ofList) = cleanFrom [] lines := by
  cases lines with
  | nil => rfl
  | cons line rest => exact cleanLines_cons false line rest

/-- Lines within a comment show nothing. -/
theorem cleanLines_between {between : List (List Char)}
    (unended : ∀ line ∈ between, Unended line) (lines : List (List Char)) :
    cleanLines true ((between ++ lines).map String.ofList) =
      List.replicate between.length [] ++ cleanLines true (lines.map String.ofList) := by
  induction between with
  | nil => rfl
  | cons first rest ih =>
      obtain ⟨unendedFirst, unendedRest⟩ := List.forall_mem_cons.mp unended
      rw [List.cons_append, cleanLines_cons, if_pos rfl, readLine_comment_open unendedFirst]
      exact congrArg ([] :: ·) (ih unendedRest)

/-- Cleaning goes on from what was read of a line as from another line of which the
same was read. -/
theorem cleanFrom_congr {read line read' line' : List Char} (same : readLine .code read line =
    readLine .code read' line') (rest : List (List Char)) :
    cleanFrom read (line :: rest) = cleanFrom read' (line' :: rest) := by
  rw [cleanFrom_cons, cleanFrom_cons, same]

/-- An item within its line is followed by the rest of the line, which may be empty. -/
theorem Item.Fits.ne_nil {item : Item} {lines : List (List Char)} (fits : item.Fits lines)
    (within : item.start? = none) : lines ≠ [] := by
  rintro rfl
  cases item with
  | mark | literal | comment => exact fits
  | openLiteral | longComment | openComment | remark | lineEnd => cases within

/-- An item within a line is shown, and cleaning goes on behind it. -/
theorem cleanFrom_inline {item : Item} (inline : item.start? = none) {line : List Char}
    {lines : List (List Char)} (fits : item.Fits (line :: lines)) (read : List Char) :
    cleanFrom read (item.spell (line :: lines)) = cleanFrom (item.showOn read) (line :: lines) := by
  cases item with
  | mark character => exact cleanFrom_congr (readLine_mark fits read) lines
  | literal contents =>
      refine cleanFrom_congr ?_ lines
      rw [List.cons_append, List.cons_append, List.append_assoc, readLine.eq_10]
      exact readLine_literal fits.1 fits.2 _
  | comment contents =>
      refine cleanFrom_congr ?_ lines
      rw [List.cons_append, List.cons_append, List.cons_append, List.cons_append,
        List.append_assoc, readLine.eq_9]
      exact readLine_comment fits read line
  | openLiteral | remark | lineEnd | longComment | openComment => cases inline

/-- An item that ends its line is shown, and cleaning goes on where code goes on. -/
theorem cleanFrom_ending {item : Item} {start : List Char} (ending : item.start? = some start)
    {lines : List (List Char)} (fits : item.Fits lines) (read : List Char) :
    ∃ count, cleanFrom read (item.spell lines) =
      finished (item.showOn read) :: (List.replicate count [] ++ cleanFrom start lines) := by
  cases item with
  | openLiteral contents =>
      cases ending
      refine ⟨0, ?_⟩
      rw [Item.spell, cleanFrom_cons, readLine.eq_10, readLine_literal_open fits, cleanLines_false]
      rfl
  | remark contents =>
      cases ending
      refine ⟨0, ?_⟩
      rw [Item.spell, cleanFrom_cons, readLine.eq_8, cleanLines_false]
      rfl
  | lineEnd =>
      cases ending
      refine ⟨0, ?_⟩
      rw [Item.spell, cleanFrom_cons, readLine.eq_13, cleanLines_false]
      rfl
  | longComment first between last =>
      cases ending
      cases lines with
      | nil => cases fits
      | cons line lines =>
          obtain ⟨unended, unendedBetween, unendedLast⟩ := fits
          refine ⟨between.length, ?_⟩
          rw [Item.spell, cleanFrom_cons, readLine.eq_9, readLine_comment_open unended,
            cleanLines_between unendedBetween, opened, List.append_assoc, cleanLines_cons,
            if_pos rfl, List.cons_append, List.cons_append, List.nil_append,
            readLine_comment unendedLast]
          rfl
  | openComment first further =>
      cases ending
      obtain ⟨rfl, unended, unendedFurther⟩ := fits
      refine ⟨further.length, ?_⟩
      rw [Item.spell, cleanFrom_cons, readLine.eq_9, readLine_comment_open unended,
        cleanLines_between unendedFurther]
      rfl
  | mark | literal | comment => cases ending

/-- **Cleaning shows a text item by item**, up to lines that show nothing. -/
theorem cleanFrom_spell {items : List Item} (wellFormed : WellFormed items) (read : List Char) :
    filled (cleanFrom read (spell items)) = filled (shownFrom read items) := by
  induction items generalizing read with
  | nil => rfl
  | cons item rest ih =>
      obtain ⟨fits, wellFormedRest⟩ := wellFormed
      rw [spell_cons, shownFrom]
      cases ending : item.start? with
      | none =>
          obtain ⟨line, lines, spelled⟩ := List.exists_cons_of_ne_nil (fits.ne_nil ending)
          rw [spelled] at fits
          rw [spelled, cleanFrom_inline ending fits, ← spelled, ih wellFormedRest]
      | some start =>
          obtain ⟨count, shown⟩ := cleanFrom_ending ending fits read
          have sameRest := ih wellFormedRest start
          simp only [filled] at sameRest ⊢
          simp [shown, List.filter_cons, sameRest]

/-- What cleaning shows of a text that consists of items. -/
theorem filled_cleanLines {lines : List String} {items : List Item}
    (consists : Consists lines items) :
    filled (cleanLines false lines) = filled (shownFrom [] items) := by
  have sameLines : (lines.map String.toList).map String.ofList = lines := by
    simp [List.map_map, Function.comp_def]
  rw [← cleanFrom_spell consists.wellFormed, consists.spelled, ← cleanLines_false, sameLines]

theorem cleanChars_eq (lines : List String) :
    cleanChars lines = (filled (cleanLines false lines)).flatMap (· ++ ['\n']) := rfl

end SchemaPlan.Source
