import SchemaPlan.Proofs.Source.Items
import SchemaPlan.Proofs.Text

/-!
# Gaps in cleaned lines

Within a line, items either show as something or make up gaps: blanks, comments
and double quotes.  A gap behind something visible shows as a number of blanks
(`width`): a blank makes it one wide unless it is wider already, a comment makes
it wider by one, and a double quote leaves it as it is.

What is asked of the text of a line is often a matter of neighbours (`Local`),
visible items of the line with only a gap between them.  Every cleaned line is
then as asked when the neighbours in the source text are
(`Local.forall_shownFrom`).
-/

set_option autoImplicit false

namespace SchemaPlan.Source

open List (replicate)

namespace Item

/-- An item within its line that shows as blanks or not at all. -/
def isGap : Item → Bool
  | mark character => character == '\x22' || Text.isBlank character
  | comment _ => true
  | literal _ | openLiteral _ | longComment _ _ _ | openComment _ _ | remark _ | lineEnd => false

/-- An item that shows as something else than blanks. -/
def isVisible : Item → Bool
  | mark character => !(character == '\x22' || Text.isBlank character)
  | literal _ | openLiteral _ => true
  | comment _ | longComment _ _ _ | openComment _ _ | remark _ | lineEnd => false

/-- What a visible item shows as. -/
def face : Item → List Char
  | mark character => [character.toUpper]
  | literal _ | openLiteral _ => ['\x27', '\x27']
  | comment _ | longComment _ _ _ | openComment _ _ | remark _ | lineEnd => []

/-- The width of a gap that goes on with the item. -/
def widen (blanks : Nat) : Item → Nat
  | mark character => if character = '\x22' then blanks else max blanks 1
  | comment _ => blanks + 1
  | literal _ | openLiteral _ | longComment _ _ _ | openComment _ _ | remark _ | lineEnd => blanks

end Item

/-- How many blanks a gap shows as behind something visible. -/
def width (gap : List Item) : Nat := gap.foldl Item.widen 0

/-- The items begin with a gap and a visible item behind it. -/
inductive Follows (right : Item) : List Item → List Item → Prop
  | here (rest : List Item) (visible : right.isVisible = true) : Follows right [] (right :: rest)
  | behind {item : Item} {gap rest : List Item} (isGap : item.isGap = true)
      (follows : Follows right gap rest) : Follows right (item :: gap) (item :: rest)

/-- Among the items two visible ones stand on one line with only a gap between them. -/
inductive Neighbours (left : Item) (gap : List Item) (right : Item) : List Item → Prop
  | here {rest : List Item} (visible : left.isVisible = true) (within : left.start? = none)
      (follows : Follows right gap rest) : Neighbours left gap right (left :: rest)
  | later (item : Item) {rest : List Item} (neighbours : Neighbours left gap right rest) :
      Neighbours left gap right (item :: rest)

/-! ## What is read of a line -/

/-- What an item outside gaps shows as stands behind what has been read. -/
theorem Item.showOn_of_not_gap {item : Item} (noGap : item.isGap = false) (read : List Char) :
    item.showOn read = item.face ++ read := by
  cases item with
  | mark character =>
      obtain ⟨notDouble, notBlank⟩ : character ≠ '\x22' ∧ Text.isBlank character = false := by
        simpa [Item.isGap] using noGap
      rw [Item.showOn, if_neg notDouble, if_neg (by rw [notBlank]; decide)]
      rfl
  | literal | openLiteral | longComment | openComment | remark | lineEnd => rfl
  | comment => cases noGap

theorem Item.isGap_of_within {item : Item} (within : item.start? = none) :
    item.isGap = !item.isVisible := by
  cases item with
  | mark => exact (Bool.not_not _).symm
  | literal | comment => rfl
  | openLiteral | longComment | openComment | remark | lineEnd => cases within

theorem Item.not_isGap_of_ending {item : Item} {start : List Char}
    (ending : item.start? = some start) : item.isGap = false := by
  cases item with
  | mark | literal | comment => cases ending
  | openLiteral | longComment | openComment | remark | lineEnd => rfl

theorem Item.not_isGap_of_visible {item : Item} (visible : item.isVisible = true) :
    item.isGap = false := by
  cases item with
  | mark => simpa [Item.isGap, Item.isVisible] using visible
  | literal | openLiteral => rfl
  | comment | longComment | openComment | remark | lineEnd => cases visible

theorem Item.face_of_hidden {item : Item} {start : List Char} (ending : item.start? = some start)
    (hidden : item.isVisible = false) : item.face = [] := by
  cases item with
  | mark | literal | comment => cases ending
  | openLiteral => cases hidden
  | longComment | openComment | remark | lineEnd => rfl

theorem Item.face_ne_nil {item : Item} (visible : item.isVisible = true) : item.face ≠ [] := by
  cases item with
  | mark | literal | openLiteral => exact List.cons_ne_nil _ _
  | comment | longComment | openComment | remark | lineEnd => cases visible

theorem Item.not_isBlank_of_mem_face {item : Item} (visible : item.isVisible = true)
    {character : Char} (member : character ∈ item.face) : Text.isBlank character = false := by
  cases item with
  | mark mark =>
      rw [List.mem_singleton.mp member, Text.isBlank_toUpper]
      exact (Bool.or_eq_false_iff.mp (Item.not_isGap_of_visible visible)).2
  | literal | openLiteral =>
      have isQuote : character = '\x27' := by simpa [Item.face] using member
      rw [isQuote]
      decide
  | comment | longComment | openComment | remark | lineEnd => cases visible

/-- Something visible makes a line that begins with no blank one without blanks at its
ends. -/
theorem Item.unpadded_face {item : Item} (visible : item.isVisible = true) {read : List Char}
    (begun : ∀ character ∈ read.getLast?, Text.isBlank character = false) :
    Text.Unpadded (item.face ++ read) where
  first character first := by
    rw [List.head?_append_of_ne_nil _ (Item.face_ne_nil visible)] at first
    exact Item.not_isBlank_of_mem_face visible (List.mem_of_mem_head? first)
  last character last := by
    cases read with
    | nil =>
        rw [List.append_nil] at last
        exact Item.not_isBlank_of_mem_face visible (List.mem_of_mem_getLast? last)
    | cons next rest =>
        rw [List.getLast?_append_of_ne_nil _ (List.cons_ne_nil _ _)] at last
        exact begun character last

/-- Blanks at the end of a line do not show. -/
theorem finished_replicate {read : List Char} (unpadded : Text.Unpadded read)
    (nonempty : read ≠ []) (blanks : Nat) : finished (replicate blanks ' ' ++ read) = read.reverse := by
  rw [finished, List.reverse_append]
  refine Text.trimChars_append unpadded.reverse (List.reverse_ne_nil_iff.mpr nonempty) ?_
  intro character member
  rw [List.reverse_replicate] at member
  rw [List.eq_of_mem_replicate member]
  decide

theorem addBlank_cons {character : Char} (notBlank : character ≠ ' ') (read : List Char) :
    addBlank (character :: read) = ' ' :: character :: read :=
  addBlank.eq_3 _ nofun fun _ same => notBlank (List.cons.inj same).1

/-- An item of a gap makes it wider. -/
theorem Item.showOn_gap {item : Item} (isGap : item.isGap = true) (blanks : Nat)
    {read : List Char} (unpadded : Text.Unpadded read) (nonempty : read ≠ []) :
    item.showOn (replicate blanks ' ' ++ read) = replicate (item.widen blanks) ' ' ++ read := by
  cases item with
  | mark mark =>
      rw [Item.showOn, Item.widen]
      split
      · rfl
      · next notDouble =>
        have blank : Text.isBlank mark = true := by
          simpa [Item.isGap, notDouble] using isGap
        rw [if_pos blank]
        cases blanks with
        | zero =>
            obtain ⟨character, rest, rfl⟩ := List.exists_cons_of_ne_nil nonempty
            refine addBlank_cons (fun blank => ?_) rest
            have inner := unpadded.first character rfl
            rw [blank] at inner
            cases inner
        | succ more =>
            rw [Nat.max_eq_left (Nat.succ_pos more)]
            rfl
  | comment => rfl
  | literal | openLiteral | longComment | openComment | remark | lineEnd => cases isGap

theorem addBlank_concat (read : List Char) : addBlank (read ++ [' ']) = addBlank read ++ [' '] := by
  cases read with
  | nil => rfl
  | cons character rest =>
      by_cases blank : character = ' '
      · subst blank
        rfl
      · rw [List.cons_append, addBlank_cons blank, addBlank_cons blank]
        rfl

/-- A blank at the beginning of a line makes no difference to what is read behind it. -/
theorem Item.showOn_concat (item : Item) (read : List Char) :
    item.showOn (read ++ [' ']) = item.showOn read ++ [' '] := by
  cases item with
  | mark character =>
      rw [Item.showOn, Item.showOn]
      split
      · rfl
      · split
        · exact addBlank_concat read
        · rfl
  | literal | openLiteral | comment | longComment | openComment | remark | lineEnd => rfl

theorem finished_concat (read : List Char) : finished (read ++ [' ']) = finished read := by
  rw [finished, List.reverse_append]
  rfl

/-- A blank at the beginning of a line does not show. -/
theorem shownFrom_concat (read : List Char) (items : List Item) :
    shownFrom (read ++ [' ']) items = shownFrom read items := by
  induction items generalizing read with
  | nil => rfl
  | cons item rest ih =>
      rw [shownFrom, shownFrom, item.showOn_concat, finished_concat, ih]

/-- A gap at the beginning of a line shows as a blank there or not at all. -/
theorem Item.shownFrom_gap {item : Item} (isGap : item.isGap = true) (items : List Item) :
    shownFrom (item.showOn []) items = shownFrom [] items := by
  cases item with
  | mark mark =>
      rw [Item.showOn]
      split
      · rfl
      · next notDouble =>
        have blank : Text.isBlank mark = true := by
          simpa [Item.isGap, notDouble] using isGap
        rw [if_pos blank]
        rfl
  | comment => exact shownFrom_concat [] items
  | literal | openLiteral | longComment | openComment | remark | lineEnd => cases isGap

/-- Behind the end of a line cleaning goes on as at the beginning of one. -/
theorem shownFrom_start {item : Item} {start : List Char} (ending : item.start? = some start)
    (items : List Item) : shownFrom start items = shownFrom [] items := by
  cases item with
  | openLiteral | openComment | remark | lineEnd =>
      cases ending
      rfl
  | longComment =>
      cases ending
      exact shownFrom_concat [] items
  | mark | literal | comment => cases ending

/-- What has been read of a line with something visible does not begin with a blank. -/
theorem begun_append {left : Item} (visible : left.isVisible = true) {read : List Char}
    (begun : ∀ character ∈ read.getLast?, Text.isBlank character = false) (blanks : Nat) :
    ∀ character ∈ (replicate blanks ' ' ++ (left.face ++ read)).getLast?,
      Text.isBlank character = false := by
  rw [List.getLast?_append_of_ne_nil _
    (List.append_ne_nil_of_left_ne_nil (Item.face_ne_nil visible) read)]
  exact (Item.unpadded_face visible begun).last

theorem reverse_finished {left : Item} (visible : left.isVisible = true) {read : List Char}
    (begun : ∀ character ∈ read.getLast?, Text.isBlank character = false) (blanks : Nat) :
    (finished (replicate blanks ' ' ++ (left.face ++ read))).reverse = left.face ++ read := by
  rw [finished_replicate (Item.unpadded_face visible begun)
    (List.append_ne_nil_of_left_ne_nil (Item.face_ne_nil visible) read), List.reverse_reverse]

/-- An item that is visible where it stands in source text: no quote is read as a
character of code. -/
structure Item.Shows (item : Item) : Prop where
  visible : item.isVisible = true
  notQuote : item ≠ .mark '\x27'

theorem Item.Fits.shows {item : Item} {lines : List (List Char)} (fits : item.Fits lines)
    (visible : item.isVisible = true) : item.Shows := by
  refine ⟨visible, ?_⟩
  rintro rfl
  cases lines with
  | nil => exact fits
  | cons => exact fits.1 rfl

/-! ## Neighbours -/

section Apart

variable (Apart : Item → Nat → Item → Prop)

/-- A visible item is apart from the one that follows it in the line, where it has
been read up to some blanks behind it. -/
def ApartAhead (left : Item) (blanks : Nat) (items : List Item) : Prop :=
  ∀ gap right, Follows right gap items → Apart left (gap.foldl Item.widen blanks) right

/-- Neighbours are apart. -/
def AllApart (items : List Item) : Prop :=
  ∀ left gap right, Neighbours left gap right items → Apart left (width gap) right

variable {Apart}

theorem apartAhead_gap {left item : Item} (isGap : item.isGap = true) (blanks : Nat)
    (rest : List Item) : ApartAhead Apart left blanks (item :: rest) ↔
      ApartAhead Apart left (item.widen blanks) rest := by
  constructor
  · exact fun apart gap right follows => apart (item :: gap) right (.behind isGap follows)
  · intro apart gap right follows
    cases follows with
    | here _ visible =>
        rw [Item.not_isGap_of_visible visible] at isGap
        cases isGap
    | behind _ followsRest => exact apart _ right followsRest

theorem apartAhead_visible {left item : Item} (visible : item.isVisible = true) (blanks : Nat)
    (rest : List Item) :
    ApartAhead Apart left blanks (item :: rest) ↔ Apart left blanks item := by
  constructor
  · exact fun apart => apart [] item (.here rest visible)
  · intro apart gap right follows
    cases follows with
    | here => exact apart
    | behind isGap _ =>
        rw [Item.not_isGap_of_visible visible] at isGap
        cases isGap

theorem apartAhead_hidden {left item : Item} (noGap : item.isGap = false)
    (hidden : item.isVisible = false) (blanks : Nat) (rest : List Item) :
    ApartAhead Apart left blanks (item :: rest) := by
  intro gap right follows
  cases follows with
  | here _ visible => exact absurd visible (Bool.eq_false_iff.mp hidden)
  | behind isGap _ => exact absurd isGap (Bool.eq_false_iff.mp noGap)

theorem allApart_cons {item : Item} {rest : List Item} : AllApart Apart (item :: rest) ↔
    (item.isVisible = true → item.start? = none → ApartAhead Apart item 0 rest) ∧
      AllApart Apart rest := by
  constructor
  · exact fun apart => ⟨fun visible within gap right follows =>
      apart item gap right (.here visible within follows),
      fun left gap right neighbours => apart left gap right (.later item neighbours)⟩
  · rintro ⟨ahead, apart⟩ left gap right neighbours
    cases neighbours with
    | here visible within follows => exact ahead visible within gap right follows
    | later _ neighbours => exact apart left gap right neighbours

/-- A test of lines that is a matter of neighbours.  Lines are tested as they are read,
in reverse. -/
structure Local (Good : List Char → Prop) (Apart : Item → Nat → Item → Prop) : Prop where
  empty : Good []
  single : ∀ item : Item, item.Shows → Good item.face
  joined : ∀ (left right : Item) (blanks : Nat) (read : List Char), left.Shows → right.Shows →
    (Good (right.face ++ (replicate blanks ' ' ++ (left.face ++ read))) ↔
      Good (left.face ++ read) ∧ Apart left blanks right)

namespace Local

variable {Good : List Char → Prop} (localTest : Local Good Apart)
include localTest

/-- A line passes on which an item stands that ends it, and nothing before. -/
theorem good_fresh {item : Item} {start : List Char} (ending : item.start? = some start)
    {lines : List (List Char)} (fits : item.Fits lines) :
    Good (finished (item.showOn [])).reverse := by
  rw [Item.showOn_of_not_gap (Item.not_isGap_of_ending ending)]
  cases visible : item.isVisible with
  | true =>
      have begun : ∀ character ∈ ([] : List Char).getLast?, Text.isBlank character = false :=
        fun _ none => nomatch none
      have whole : (finished (item.face ++ [])).reverse = item.face ++ [] :=
        reverse_finished visible begun 0
      rw [whole, List.append_nil]
      exact localTest.single item (fits.shows visible)
  | false =>
      rw [Item.face_of_hidden ending visible]
      exact localTest.empty

end Local

/-- The lines that end with the items pass exactly when neighbours are apart: where
nothing of the first line has been read before, and where something visible and blanks
behind it have. -/
structure Passing (Good : List Char → Prop) (Apart : Item → Nat → Item → Prop)
    (items : List Item) : Prop where
  fresh : (∀ line ∈ shownFrom [] items, Good line.reverse) ↔ AllApart Apart items
  behind : items ≠ [] → ∀ left : Item, left.Shows → ∀ read : List Char,
    (∀ character ∈ read.getLast?, Text.isBlank character = false) → ∀ blanks,
    ((∀ line ∈ shownFrom (replicate blanks ' ' ++ (left.face ++ read)) items,
        Good line.reverse) ↔
      Good (left.face ++ read) ∧ ApartAhead Apart left blanks items ∧ AllApart Apart items)

namespace Passing

variable {Good : List Char → Prop} {item : Item} {rest : List Item}

theorem nil : Passing Good Apart [] where
  fresh := by
    constructor
    · intro _ left gap right neighbours
      cases neighbours
    · exact fun _ line shown => absurd shown List.not_mem_nil
  behind nonempty := absurd rfl nonempty

/-- A gap only adds to the blanks. -/
theorem gap (passing : Passing Good Apart rest) (more : rest ≠ []) (within : item.start? = none)
    (hidden : item.isVisible = false) : Passing Good Apart (item :: rest) := by
  have isGap : item.isGap = true := by rw [Item.isGap_of_within within, hidden]; rfl
  have apart : AllApart Apart (item :: rest) ↔ AllApart Apart rest := by
    simp [allApart_cons, hidden]
  refine ⟨?_, ?_⟩
  · simp only [shownFrom, within, apart]
    rw [Item.shownFrom_gap isGap, passing.fresh]
  · intro _ left leftShows read begun blanks
    simp only [shownFrom, within, apart]
    rw [Item.showOn_gap isGap blanks (Item.unpadded_face leftShows.visible begun)
        (List.append_ne_nil_of_left_ne_nil (Item.face_ne_nil leftShows.visible) read),
      passing.behind more left leftShows read begun, apartAhead_gap isGap]

variable (localTest : Local Good Apart)
include localTest

/-- A visible item is what the rest of the line stands behind. -/
theorem visible (passing : Passing Good Apart rest) (more : rest ≠ [])
    (within : item.start? = none) (shows : item.Shows) : Passing Good Apart (item :: rest) := by
  have apart : AllApart Apart (item :: rest) ↔ ApartAhead Apart item 0 rest ∧
      AllApart Apart rest := by
    simp [allApart_cons, shows.visible, within]
  have noGap := Item.not_isGap_of_visible shows.visible
  refine ⟨?_, ?_⟩
  · simp only [shownFrom, within, apart, Item.showOn_of_not_gap noGap]
    have single : Good (item.face ++ []) := by
      rw [List.append_nil]
      exact localTest.single item shows
    have unread : ∀ character ∈ ([] : List Char).getLast?, Text.isBlank character = false := by
      simp
    exact (passing.behind more item shows [] unread 0).trans (and_iff_right single)
  · intro _ left leftShows read begun blanks
    simp only [shownFrom, within, apart, Item.showOn_of_not_gap noGap]
    have stillBegun := begun_append leftShows.visible begun blanks
    refine (passing.behind more item shows _ stillBegun 0).trans ?_
    rw [localTest.joined left item blanks read leftShows shows, apartAhead_visible shows.visible,
      and_assoc]

/-- An item that ends the line is tested with it, and nothing is read of the next one. -/
theorem ending (passing : Passing Good Apart rest) {start : List Char}
    (ends : item.start? = some start) {lines : List (List Char)} (fits : item.Fits lines) :
    Passing Good Apart (item :: rest) := by
  have apart : AllApart Apart (item :: rest) ↔ AllApart Apart rest := by
    simp [allApart_cons, ends]
  have noGap := Item.not_isGap_of_ending ends
  refine ⟨?_, ?_⟩
  · simp only [shownFrom, ends, apart, shownFrom_start ends, List.forall_mem_cons, passing.fresh]
    exact and_iff_right (localTest.good_fresh ends fits)
  · intro _ left leftShows read begun blanks
    simp only [shownFrom, ends, apart, shownFrom_start ends, List.forall_mem_cons, passing.fresh]
    rw [← and_assoc, Item.showOn_of_not_gap noGap]
    refine and_congr_left fun _ => ?_
    cases isVisible : item.isVisible with
    | true =>
        have whole := reverse_finished isVisible (begun_append leftShows.visible begun blanks) 0
        rw [List.replicate_zero, List.nil_append] at whole
        rw [whole, apartAhead_visible isVisible,
          localTest.joined left item blanks read leftShows (fits.shows isVisible)]
    | false =>
        rw [Item.face_of_hidden ends isVisible, List.nil_append,
          reverse_finished leftShows.visible begun]
        exact (and_iff_left (apartAhead_hidden noGap isVisible blanks rest)).symm

theorem of_wellFormed {items : List Item} (wellFormed : WellFormed items) :
    Passing Good Apart items := by
  induction items with
  | nil => exact nil
  | cons item rest ih =>
      obtain ⟨fits, wellFormedRest⟩ := wellFormed
      have passing := ih wellFormedRest
      cases start : item.start? with
      | some _ => exact passing.ending localTest start fits
      | none =>
          have more : rest ≠ [] := by
            rintro rfl
            exact fits.ne_nil start rfl
          cases isVisible : item.isVisible with
          | true => exact passing.visible localTest more start (fits.shows isVisible)
          | false => exact passing.gap more start isVisible

end Passing

/-- **Lines pass when neighbours are apart.** -/
theorem Local.forall_shownFrom {Good : List Char → Prop} (localTest : Local Good Apart)
    {items : List Item} (wellFormed : WellFormed items) :
    (∀ line ∈ shownFrom [] items, Good line.reverse) ↔ AllApart Apart items :=
  (Passing.of_wellFormed localTest wellFormed).fresh

end Apart

end SchemaPlan.Source
