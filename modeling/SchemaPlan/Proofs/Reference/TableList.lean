import SchemaPlan.Proofs.Pattern.Preference
import SchemaPlan.Proofs.Reference.Exclusion

/-!
# Tables of a list after FROM

A list of tables is made of dotted names, each with a second name or without, and of
commas with blanks around them.  The pattern for such lists goes through the whole list,
part by part: every part takes its stretch of the text and cannot go on, because the
character behind it does not belong to it.  In particular the blanks before a comma do not
begin a second name, and the repetition does not end before the semicolon.

The list is then cut at its commas again, and what is cut out between two commas begins,
apart from blanks, with the name of a table.  So the tables found are those of the list,
in their order (`fromTables_query`).
-/

set_option autoImplicit false

namespace SchemaPlan

/-! ## Lists of tables -/

namespace TableList

/-- An identifier, its letters small or capital. -/
structure Identifier where
  first : Char
  others : List Char
  opens : first.isAlpha = true
  continues : ∀ character ∈ others,
    character.isAlphanum = true ∨ character = '_' ∨ character = '$' ∨ character = '#'

/-- A second name of a table, and the blanks before it. -/
structure OtherName where
  gap : List Char
  identifier : Identifier
  separate : gap ≠ []
  blank : ∀ character ∈ gap, Text.isBlank character = true

/-- A table of a list: the first segment of its name, up to two further ones, and its
second name. -/
structure Item where
  first : Identifier
  further : List Identifier
  other : Option OtherName
  short : further.length ≤ 2

/-- A comma between two tables, and the blanks around it. -/
structure Comma where
  before : List Char
  after : List Char
  blankBefore : ∀ character ∈ before, Text.isBlank character = true
  blankAfter : ∀ character ∈ after, Text.isBlank character = true

def Identifier.text (identifier : Identifier) : List Char := identifier.first :: identifier.others

def OtherName.text (other : OtherName) : List Char := other.gap ++ other.identifier.text

/-- Further segments of a name, each behind a dot. -/
def dotted (segments : List Identifier) : List Char :=
  segments.flatMap fun segment => '.' :: segment.text

def Item.name (item : Item) : List Char := item.first.text ++ dotted item.further

def Item.text (item : Item) : List Char := item.name ++ item.other.elim [] OtherName.text

/-- The name of a table as it is stored. -/
def Item.storedName (item : Item) : String := Text.upper (String.ofList item.name)

/-- Further tables of a list, each behind its comma. -/
def enumerated (further : List (Comma × Item)) : List Char :=
  further.flatMap fun (comma, item) => comma.before ++ ',' :: (comma.after ++ item.text)

end TableList

/-- A list of one table or more. -/
structure TableList where
  first : TableList.Item
  further : List (TableList.Comma × TableList.Item)

namespace TableList

open Clause Pattern Text

def items (list : TableList) : List Item := list.first :: list.further.map Prod.snd

def text (list : TableList) : List Char := list.first.text ++ enumerated list.further

/-- A query of the tables of the list. -/
def query (list : TableList) : List Char := "SELECT C FROM ".toList ++ list.text ++ [';']

/-! ## Capital letters -/

theorem opensIdentifier_iff {character : Char} : opensIdentifier character = true ↔
    65 ≤ character.toNat ∧ character.toNat ≤ 90 := by
  have point (other : Char) : other.val.toNat = other.toNat := rfl
  simp only [opensIdentifier, Bool.and_eq_true, decide_eq_true_eq, Char.le_def,
    UInt32.le_iff_toNat_le, point]
  rfl

theorem opensIdentifier_toUpper {character : Char} (letter : character.isAlpha = true) :
    opensIdentifier character.toUpper = true := by
  cases small : character.isLower with
  | true =>
      have limits := isLower_iff.mp small
      rw [opensIdentifier_iff, toNat_toUpper small]
      omega
  | false =>
      have large : 'A'.val ≤ character.val ∧ character.val ≤ 'Z'.val :=
        of_decide_eq_true (((Bool.or_eq_true _ _).mp letter).resolve_right (by simp [small]))
      rw [toUpper_eq_self small, opensIdentifier_iff]
      exact large

theorem continuesIdentifier_toUpper {character : Char}
    (continues : character.isAlphanum = true ∨ character = '_' ∨ character = '$' ∨
      character = '#') : continuesIdentifier character.toUpper = true := by
  rcases continues with alphanumeric | rfl | rfl | rfl
  · rcases (Bool.or_eq_true _ _).mp alphanumeric with letter | digit
    · simp [continuesIdentifier, opensIdentifier_toUpper letter]
    · have large : character.isLower = false := Bool.eq_false_iff.mpr fun small => by
        have limits := isLower_iff.mp small
        simp only [Char.isDigit, Bool.and_eq_true, decide_eq_true_eq, ge_iff_le,
          UInt32.le_iff_toNat_le] at digit
        have point : character.val.toNat = character.toNat := rfl
        have : '9'.val.toNat = 57 := rfl
        omega
      simp [continuesIdentifier, toUpper_eq_self large, digit]
  · decide
  · decide
  · decide

theorem continuesIdentifier_of_blank {character : Char} (blank : isBlank character = true) :
    continuesIdentifier character = false := by
  refine Bool.eq_false_iff.mpr fun continues => ?_
  rw [(isPlain_of_continuesIdentifier continues).1] at blank
  cases blank

theorem blank_capitals {gap : List Char} (blank : ∀ character ∈ gap, isBlank character = true) :
    ∀ character ∈ gap.map Char.toUpper, isBlank character = true := by
  simpa [isBlank_toUpper] using blank

theorem continues_capitals (identifier : Identifier) :
    ∀ character ∈ identifier.text.map Char.toUpper, continuesIdentifier character = true := by
  rw [Identifier.text, List.map_cons, List.forall_mem_cons, List.forall_mem_map]
  exact ⟨by simp [continuesIdentifier, opensIdentifier_toUpper identifier.opens],
    fun character member => continuesIdentifier_toUpper (identifier.continues character member)⟩

/-! ## The parts of a list -/

variable {rest : List Char}

/-- The text goes on with something that cannot go on with a name. -/
def EndsName (rest : List Char) : Prop :=
  ∀ character ∈ rest.head?, continuesIdentifier character = false ∧ character ≠ '.'

/-- The text goes on with a comma or a semicolon, after blanks. -/
def EndsItem (rest : List Char) : Prop :=
  ∃ gap sign others, rest = gap ++ sign :: others ∧
    (∀ character ∈ gap, isBlank character = true) ∧ (sign = ',' ∨ sign = ';')

theorem EndsName.stops (ends : EndsName rest) :
    ∀ character ∈ rest.head?, continuesIdentifier character = false :=
  fun character member => (ends character member).1

theorem endsName_of_blank {gap : List Char} (separate : gap ≠ [])
    (blank : ∀ character ∈ gap, isBlank character = true) : EndsName (gap ++ rest) := by
  obtain ⟨first, others, rfl⟩ := List.exists_cons_of_ne_nil separate
  have isFirst := blank first List.mem_cons_self
  rw [EndsName, List.cons_append, List.head?_cons]
  rintro _ ⟨⟩
  refine ⟨continuesIdentifier_of_blank isFirst, ?_⟩
  rintro rfl
  cases isFirst

theorem EndsItem.endsName (ends : EndsItem rest) : EndsName rest := by
  obtain ⟨gap, sign, others, rfl, blank, isSign⟩ := ends
  cases gap with
  | nil =>
      rintro _ ⟨⟩
      rcases isSign with rfl | rfl <;> decide
  | cons first more => exact endsName_of_blank (List.cons_ne_nil _ _) blank

theorem takes_identifier (name : Identifier)
    (stops : ∀ character ∈ rest.head?, continuesIdentifier character = false) :
    identifier.Takes (name.text.map Char.toUpper) rest :=
  (takes_one (opensIdentifier_toUpper name.opens)).both <|
    takes_most (fun character member => continues_capitals name character
      (List.mem_cons_of_mem _ member)) stops

theorem rejects_identifier {text : List Char}
    (stops : ∀ character ∈ text.head?, continuesIdentifier character = false) :
    identifier.Rejects text := by
  refine rejects_both (rejects_one fun character member => ?_)
  have fails := stops character member
  simp only [continuesIdentifier, Bool.or_eq_false_iff] at fails
  exact fails.1.1.1.1

theorem takes_dottedSegment (segment : Identifier)
    (stops : ∀ character ∈ rest.head?, continuesIdentifier character = false) :
    dottedSegment.Takes ('.' :: segment.text.map Char.toUpper) rest :=
  (takes_character '.').both (takes_identifier segment stops)

theorem rejects_dottedSegment (ends : EndsName rest) : dottedSegment.Rejects rest :=
  rejects_both (rejects_one fun character member => by simpa using (ends character member).2)

/-- Between two segments stands a dot, which goes on with no identifier. -/
theorem stops_dotted (segments : List Identifier) (ends : EndsName rest) :
    ∀ character ∈ ((dotted segments).map Char.toUpper ++ rest).head?,
      continuesIdentifier character = false := by
  cases segments with
  | nil => exact ends.stops
  | cons segment others =>
      rintro _ ⟨⟩
      decide

theorem takes_dotted (segments : List Identifier) (short : segments.length ≤ 2)
    (ends : EndsName rest) :
    (optional (both dottedSegment (optional dottedSegment))).Takes
      ((dotted segments).map Char.toUpper) rest := by
  match segments, short with
  | [], _ => exact takes_optional_nil (rejects_both (rejects_dottedSegment ends))
  | [second], _ =>
      have segment := takes_dottedSegment second ends.stops
      have whole := segment.both (takes_optional_nil (rejects_dottedSegment ends))
      simpa [dotted] using whole.optional
  | [second, third], _ =>
      have last := takes_dottedSegment third ends.stops
      have whole := (takes_dottedSegment second (stops_dotted [third] ends)).both
        (by simpa [dotted] using last.optional)
      simpa [dotted] using whole.optional

theorem takes_name (item : Item) (ends : EndsName rest) :
    name.Takes (item.name.map Char.toUpper) rest := by
  rw [Item.name, List.map_append]
  exact (takes_identifier item.first (stops_dotted item.further ends)).both
    (takes_dotted item.further item.short ends)

/-- An identifier does not begin with a blank. -/
theorem stops_identifier (name : Identifier) (rest : List Char) :
    ∀ character ∈ (name.text.map Char.toUpper ++ rest).head?, isBlank character = false := by
  rintro _ ⟨⟩
  exact (isPlain_of_continuesIdentifier (continues_capitals name _ List.mem_cons_self)).1

/-- A second name is taken, and in its absence nothing that follows is taken for one. -/
theorem takes_otherName (other : Option OtherName) (ends : EndsItem rest) :
    otherName.Takes ((other.elim [] OtherName.text).map Char.toUpper) rest := by
  cases other with
  | some other =>
      have gap := takes_someBlanks (by simpa using other.separate) (blank_capitals other.blank)
        (stops_identifier other.identifier rest)
      have name := takes_identifier other.identifier ends.endsName.stops
      simpa [OtherName.text, otherName] using (gap.both name).optional
  | none =>
      obtain ⟨gap, sign, others, rfl, blank, isSign⟩ := ends
      -- Blanks can be given back, but neither a blank nor the sign begins an identifier.
      refine takes_optional_nil (rejects_someBlanks_both ?_ ?_)
      · rintro character rest isBlank
        refine rejects_identifier ?_
        rintro _ ⟨⟩
        exact continuesIdentifier_of_blank isBlank
      · have solid : isBlank sign = false := by rcases isSign with rfl | rfl <;> decide
        rw [List.dropWhile_append_of_pos blank, List.dropWhile_cons_of_neg (by simp [solid])]
        refine rejects_identifier ?_
        rintro _ ⟨⟩
        rcases isSign with rfl | rfl <;> decide

theorem endsName_otherName (other : Option OtherName) (ends : EndsItem rest) :
    EndsName ((other.elim [] OtherName.text).map Char.toUpper ++ rest) := by
  cases other with
  | none => exact ends.endsName
  | some other =>
      rw [Option.elim_some, OtherName.text, List.map_append, List.append_assoc]
      exact endsName_of_blank (by simpa using other.separate) (blank_capitals other.blank)

theorem takes_tableItem (item : Item) (ends : EndsItem rest) :
    tableItem.Takes (item.text.map Char.toUpper) rest := by
  rw [Item.text, List.map_append]
  exact (takes_name item (endsName_otherName item.other ends)).both
    (takes_otherName item.other ends)

theorem stops_item (item : Item) :
    ∀ character ∈ (item.text.map Char.toUpper ++ rest).head?, isBlank character = false := by
  rw [Item.text, Item.name, List.map_append, List.map_append, List.append_assoc, List.append_assoc]
  exact stops_identifier item.first _

/-! ## The list as a whole -/

theorem endsItem_enumerated (further : List (Comma × Item)) (rest : List Char) :
    EndsItem ((enumerated further).map Char.toUpper ++ ';' :: rest) := by
  cases further with
  | nil => exact ⟨[], ';', rest, rfl, nofun, .inr rfl⟩
  | cons pair others =>
      refine ⟨pair.1.before.map Char.toUpper, ',',
        (pair.1.after ++ pair.2.text ++ enumerated others).map Char.toUpper ++ ';' :: rest, ?_,
        blank_capitals pair.1.blankBefore, .inl rfl⟩
      simp [enumerated, show ','.toUpper = ',' by decide]

/-- What the pattern for lists repeats: a comma and the table behind it. -/
def furtherItem : Pattern := Pattern.sequence [blanks, character ',', blanks, tableItem]

theorem takes_furtherItem (comma : Comma) (item : Item) (ends : EndsItem rest) :
    furtherItem.Takes
      ((comma.before ++ ',' :: (comma.after ++ item.text)).map Char.toUpper) rest := by
  have later := (takes_most (blank_capitals comma.blankAfter) (stops_item item)).both
    (takes_tableItem item ends)
  have whole := (takes_most (blank_capitals comma.blankBefore) (by
    rintro _ ⟨⟩
    decide)).both ((takes_character ',').both later)
  simpa [furtherItem, Pattern.sequence, blanks, show ','.toUpper = ',' by decide] using whole

theorem rejects_furtherItem : furtherItem.Rejects (';' :: rest) := by
  refine rejects_most_both (fun character others isBlank => ?_) ?_
  · refine rejects_both (rejects_one ?_)
    rintro _ ⟨⟩
    refine beq_eq_false_iff_ne.mpr ?_
    rintro rfl
    cases isBlank
  · exact rejects_both (rejects_one (by
      rintro _ ⟨⟩
      decide))

/-- **The repetition goes on up to the semicolon.** -/
theorem takes_enumerated (further : List (Comma × Item)) :
    (repeated furtherItem).Takes ((enumerated further).map Char.toUpper) (';' :: rest) := by
  induction further with
  | nil => exact takes_repeated_nil rejects_furtherItem
  | cons pair others ih =>
      have once := takes_furtherItem pair.1 pair.2 (endsItem_enumerated others rest)
      rw [enumerated, List.flatMap_cons, List.map_append]
      exact once.repeated (by simp) ih

theorem takes_text (list : TableList) :
    (both tableItem (repeated furtherItem)).Takes (list.text.map Char.toUpper) (';' :: rest) := by
  rw [text, List.map_append]
  exact (takes_tableItem list.first (endsItem_enumerated list.further rest)).both
    (takes_enumerated list.further)

/-! ## The query -/

/-- Nothing is matched that does not begin with the first letter of FROM. -/
theorem rejects_fromList {text : List Char} (other : ∀ character ∈ text.head?, character ≠ 'F') :
    fromList.Rejects text :=
  rejects_both <| rejects_boundary_both <| rejects_both <| rejects_one fun character member =>
    beq_eq_false_iff_ne.mpr (other character member)

/-- The place of FROM in the query once it has been put into capitals. -/
def place (list : TableList) : Cursor :=
  ⟨"SELECT C ".toList.reverse, "FROM".toList ++ ([' '] ++ (list.text.map Char.toUpper ++ [';']))⟩

theorem capitals_query (list : TableList) :
    list.query.map Char.toUpper = "SELECT C ".toList ++ list.place.after := by
  unfold query place
  simp

/-- At FROM the whole list is matched. -/
theorem prefers_place (list : TableList) :
    ∃ behind, fromList.Prefers ⟨list.place, []⟩
      ⟨⟨(list.text.map Char.toUpper).reverse ++ behind, [';']⟩,
        [(1, ⟨behind, list.text.map Char.toUpper ++ [';']⟩,
          ⟨(list.text.map Char.toUpper).reverse ++ behind, [';']⟩)]⟩ := by
  have atBoundary : list.place.atBoundary = true := by
    unfold place
    simp [Cursor.atBoundary, isWord]
  have stops : ∀ character ∈ (list.text.map Char.toUpper ++ [';']).head?,
      isBlank character = false := by
    rw [text, List.map_append, List.append_assoc]
    exact stops_item list.first
  have gap : someBlanks.Takes [' '] _ :=
    takes_someBlanks (List.cons_ne_nil _ _) (by simp [isBlank]) stops
  have word : (keyword "FROM").Prefers ⟨list.place, []⟩ _ :=
    (prefers_boundary atBoundary).both (takes_literal "FROM" _ [])
  exact ⟨_, word.both ((gap _ []).both (takes_text list _ []).group)⟩

/-- A stretch without the first letter of FROM is passed over. -/
theorem matchesFrom_skip (skipped before rest : List Char)
    (other : ∀ character ∈ skipped, character ≠ 'F') :
    fromList.matchesFrom ⟨before, skipped ++ rest⟩ =
      fromList.matchesFrom ⟨skipped.reverse ++ before, rest⟩ :=
  matchesFrom_append skipped before rest fun character member others => rejects_fromList (by
    rintro _ ⟨⟩
    exact other character member)

/-- The only match in the query is the one at FROM. -/
theorem locatedCaptures_query (list : TableList) :
    fromList.locatedCaptures (list.query.map Char.toUpper) =
      [(list.place, list.text.map Char.toUpper)] := by
  obtain ⟨behind, preferred⟩ := list.prefers_place
  have opening : fromList.search (list.query.map Char.toUpper) =
      fromList.matchesFrom list.place := by
    rw [search, Cursor.start, capitals_query, matchesFrom_skip _ _ _ (by simp), List.append_nil]
    rfl
  have closing (before : List Char) : fromList.matchesFrom ⟨before, [';']⟩ = [] := by
    have atEnd : fromList.Rejects [] := rejects_fromList nofun
    exact (matchesFrom_skip [';'] before [] (by simp)).trans (matchesFrom_nil _ atEnd)
  rw [locatedCaptures, opening, preferred.matchesFrom (by simp [place]), closing]
  simp [Match.group?, Cursor.textUntil]

/-! ## Cutting the list -/

theorem name_capitals (item : Item) : ∀ character ∈ item.name.map Char.toUpper,
    continuesIdentifier character = true ∨ character = '.' := by
  rw [Item.name, List.map_append, List.forall_mem_append]
  refine ⟨fun character member => .inl (continues_capitals item.first character member), ?_⟩
  simp only [dotted, List.map_flatMap, List.map_cons, List.mem_flatMap, List.mem_cons]
  rintro character ⟨segment, _, rfl | member⟩
  · exact .inr (by decide)
  · exact .inl (continues_capitals segment character member)

theorem text_capitals (item : Item) : ∀ character ∈ item.text.map Char.toUpper,
    isBlank character = true ∨ continuesIdentifier character = true ∨ character = '.' := by
  rw [Item.text, List.map_append, List.forall_mem_append]
  refine ⟨fun character member => .inr (name_capitals item character member), ?_⟩
  cases item.other with
  | none => exact nofun
  | some other =>
      rw [Option.elim_some, OtherName.text, List.map_append, List.forall_mem_append]
      exact ⟨fun character member => .inl (blank_capitals other.blank character member),
        fun character member => .inr (.inl (continues_capitals _ character member))⟩

theorem isBlank_name (item : Item) :
    ∀ character ∈ item.name.map Char.toUpper, isBlank character = false := by
  intro character member
  rcases name_capitals item character member with continues | rfl
  · exact (isPlain_of_continuesIdentifier continues).1
  · decide

theorem isComma_piece {gap trail : List Char} (item : Item)
    (blank : ∀ character ∈ gap, isBlank character = true)
    (alsoBlank : ∀ character ∈ trail, isBlank character = true) :
    ∀ character ∈ gap ++ (item.text.map Char.toUpper ++ trail), (character == ',') = false := by
  simp only [List.forall_mem_append, beq_eq_false_iff_ne]
  refine ⟨?_, ?_, ?_⟩
  · rintro _ member rfl
    cases blank ',' member
  · rintro _ member rfl
    rcases text_capitals item ',' member with isBlank | continues | isDot
    · cases isBlank
    · cases continues
    · cases isDot
  · rintro _ member rfl
    cases alsoBlank ',' member

/-- A table between blanks has its name as its first word. -/
theorem head?_words_item {gap trail : List Char} (item : Item)
    (blank : ∀ character ∈ gap, isBlank character = true)
    (alsoBlank : ∀ character ∈ trail, isBlank character = true) :
    (words (gap ++ (item.text.map Char.toUpper ++ trail))).head? =
      some (item.name.map Char.toUpper) := by
  rw [words_append blank, Item.text, List.map_append, List.append_assoc]
  refine head?_words (List.cons_ne_nil _ _) (isBlank_name item) ?_
  cases item.other with
  | none => exact fun character member => alsoBlank character (List.mem_of_mem_head? member)
  | some other =>
      obtain ⟨first, others, isGap⟩ := List.exists_cons_of_ne_nil other.separate
      have isFirst := other.blank first (isGap ▸ List.mem_cons_self)
      rw [Option.elim_some, OtherName.text, isGap]
      rintro _ ⟨⟩
      rwa [isBlank_toUpper]

/-- What is cut out of a list between two commas begins with a table. -/
theorem first_words (gap : List Char) (blank : ∀ character ∈ gap, isBlank character = true)
    (first : Item) (further : List (Comma × Item)) :
    ((splitWhere (· == ',') (gap ++ (first.text ++ enumerated further).map Char.toUpper)).filterMap
        fun piece => (words piece).head?) =
      (first :: further.map Prod.snd).map fun item => item.name.map Char.toUpper := by
  induction further generalizing gap first with
  | nil =>
      have noTrail : ∀ character ∈ [], isBlank character = true := by simp
      rw [enumerated, List.flatMap_nil, List.map_append, List.map_nil,
        splitWhere_eq_singleton (isComma_piece first blank noTrail), List.filterMap_cons,
        head?_words_item first blank noTrail]
      rfl
  | cons pair others ih =>
      obtain ⟨comma, next⟩ := pair
      have whole : gap ++ (first.text ++ enumerated ((comma, next) :: others)).map Char.toUpper =
          gap ++ (first.text.map Char.toUpper ++ comma.before.map Char.toUpper) ++
            ',' :: (comma.after.map Char.toUpper ++
              (next.text ++ enumerated others).map Char.toUpper) := by
        simp [enumerated, show ','.toUpper = ',' by decide]
      have before := blank_capitals comma.blankBefore
      rw [whole, splitWhere_of_first (isComma_piece first blank before) (by decide),
        List.filterMap_cons, head?_words_item first blank before,
        ih _ (blank_capitals comma.blankAfter) next]
      rfl

/-- **The tables of the list are found in their order**, and nothing else is. -/
theorem fromTables_query (list : TableList) :
    Extractor.fromTables (list.query.map Char.toUpper) =
      list.items.map fun item => item.name.map Char.toUpper := by
  have outside : insideCall list.place.before = false :=
    (by decide : insideCall "SELECT C ".toList.reverse = false)
  rw [Extractor.fromTables, locatedCaptures_query, List.flatMap_singleton]
  dsimp only
  rw [outside, if_neg (by decide)]
  exact first_words [] nofun list.first list.further

/-- **No table of a list after FROM is overlooked.**  Whatever the list, each of its tables
is found in the query under its stored name, unless the configuration leaves the name
out. -/
theorem mem_namesOf_table_scan (config : ClosureConfig) (list : TableList) (item : Item)
    (listed : item ∈ list.items) (admitted : config.Admits item.storedName) :
    item.storedName ∈ (config.extractor.scan list.query).references.namesOf .table := by
  have stored : item.storedName = String.ofList (item.name.map Char.toUpper) := by
    rw [Item.storedName, upper, String.toList_ofList]
  rw [stored] at admitted ⊢
  have found : item.name.map Char.toUpper ∈ Extractor.fromTables (list.query.map Char.toUpper) :=
    list.fromTables_query ▸ List.mem_map_of_mem listed
  rw [(Extractor.ordered_scan _ _).mem_namesOf, Extractor.mem_toList_scan_iff]
  refine ⟨⟨(.table, item.name.map Char.toUpper), ?_, ClosureConfig.accepts_iff.mpr admitted, rfl⟩,
    fun _ _ => ⟨nofun, nofun⟩⟩
  simp [Extractor.mentions, Extractor.tables, found]

/-- A table with an owner, a package and a second name. -/
def bonusItem : Item where
  first := ⟨'s', ['c', 'o', 't', 't'], by decide, by simp⟩
  further := [⟨'A', ['p', 'p'], by decide, by simp⟩,
    ⟨'B', ['o', 'n', 'u', 's', '_', '2'], by decide, by simp⟩]
  other := some ⟨[' ', '\t'], ⟨'b', [], by decide, by simp⟩, by simp, by simp [isBlank]⟩
  short := by decide

/-- A list whose first table has no second name; there are blanks on both sides of its
comma. -/
def mixedList : TableList where
  first := ⟨⟨'d', ['e', 'p', 't', '$'], by decide, by simp⟩, [], none, by decide⟩
  further := [(⟨[' '], ['\n'], by simp [isBlank], by simp [isBlank]⟩, bonusItem)]

/-- The second table is found, in capitals and without its second name. -/
theorem mem_namesOf_table_scan_mixedList :
    mixedList.query = "SELECT C FROM dept$ ,\nscott.App.Bonus_2 \tb;".toList ∧
    bonusItem ∈ mixedList.items ∧ Extractor.strictConfig.Admits "SCOTT.APP.BONUS_2" ∧
    "SCOTT.APP.BONUS_2" ∈
      (Extractor.strictConfig.extractor.scan mixedList.query).references.namesOf .table := by
  have listed : bonusItem ∈ mixedList.items := List.mem_cons_of_mem _ (List.mem_singleton_self _)
  have stored : bonusItem.storedName = "SCOTT.APP.BONUS_2" := by with_unfolding_all rfl
  have admitted : Extractor.strictConfig.Admits bonusItem.storedName :=
    ClosureConfig.accepts_iff.mp (by with_unfolding_all rfl)
  exact ⟨by with_unfolding_all rfl, listed, stored ▸ admitted,
    stored ▸ mem_namesOf_table_scan Extractor.strictConfig mixedList bonusItem listed admitted⟩

end TableList

end SchemaPlan
