import Mathlib.Data.List.Forall2
import SchemaPlan.Proofs.Source.Items
import SchemaPlan.Reference.Extraction

/-!
# Contents that are hidden

The contents of literals and comments do not show in cleaned text, and so they
have no part in what is extracted from it.  Two texts are compared item by item:
an item is reworded (`Item.Reworded`) when its contents are others that leave it
an item of its kind.  A block comment that ends on a later line may take up
another number of lines, but it stays one that ends on a later line.

Rewording changes neither how an item is shown nor with which character the text
begins, which is all that an item before it depends on (`beginning`).  Reworded
items are therefore well-formed again.
-/

set_option autoImplicit false

namespace SchemaPlan.Source

/-- The text that items spell. -/
def text (items : List Item) : List String := (spell items).map String.ofList

/-- The second item is the first one, or the first one with other contents. -/
inductive Item.Reworded : Item → Item → Prop
  | same (item : Item) : Reworded item item
  | literal (contents : List Char) {others : List Char} (unquoted : '\x27' ∉ others) :
      Reworded (.literal contents) (.literal others)
  | comment (contents : List Char) {others : List Char} (unended : Unended others) :
      Reworded (.comment contents) (.comment others)
  | longComment (first : List Char) (between : List (List Char)) (last : List Char)
      {otherFirst : List Char} {otherBetween : List (List Char)} {otherLast : List Char}
      (unended : ∀ line ∈ otherFirst :: otherLast :: otherBetween, Unended line) :
      Reworded (.longComment first between last) (.longComment otherFirst otherBetween otherLast)
  | openComment (first : List Char) (further : List (List Char))
      {otherFirst : List Char} {otherFurther : List (List Char)}
      (unended : ∀ line ∈ otherFirst :: otherFurther, Unended line) :
      Reworded (.openComment first further) (.openComment otherFirst otherFurther)
  | remark (contents others : List Char) : Reworded (.remark contents) (.remark others)

/-- Items one by one, each of them reworded or the same. -/
abbrev Reworded : List Item → List Item → Prop := List.Forall₂ Item.Reworded

/-! ## Reworded items are read as such -/

/-- With which character lines begin, if there is a line and it is not empty. -/
def beginning (lines : List (List Char)) : Option (Option Char) := lines.head?.map List.head?

theorem doubled_of_unquoted {contents : List Char} (unquoted : '\x27' ∉ contents) :
    Doubled contents := by
  induction contents with
  | nil => exact .nil
  | cons character rest ih =>
      obtain ⟨notQuote, unquotedRest⟩ := List.ne_and_not_mem_of_not_mem_cons unquoted
      exact (ih unquotedRest).other (Ne.symm notQuote)

/-- Which lines an item can stand before depends on how they begin only. -/
theorem Item.Fits.of_beginning {item : Item} {lines others : List (List Char)}
    (fits : item.Fits lines) (alike : beginning lines = beginning others) : item.Fits others := by
  cases lines with
  | nil =>
      cases others with
      | nil => exact fits
      | cons => cases alike
  | cons line rest =>
      cases others with
      | nil => cases alike
      | cons other more =>
          have sameHead : line.head? = other.head? := Option.some.inj alike
          cases item with
          | mark | literal =>
              rw [Item.Fits, ← sameHead]
              exact fits
          | openComment => cases fits.1
          | comment | longComment | openLiteral | remark | lineEnd => exact fits

/-- A reworded item can stand where the item can. -/
theorem Item.Reworded.fits {item other : Item} (reworded : item.Reworded other)
    {lines : List (List Char)} (fits : item.Fits lines) : other.Fits lines := by
  cases reworded with
  | same => exact fits
  | literal _ unquoted =>
      cases lines with
      | nil => cases fits
      | cons line rest => exact ⟨doubled_of_unquoted unquoted, fits.2⟩
  | comment _ unended =>
      cases lines with
      | nil => cases fits
      | cons line rest => exact unended
  | longComment _ _ _ unended =>
      obtain ⟨unendedFirst, unendedOthers⟩ := List.forall_mem_cons.mp unended
      obtain ⟨unendedLast, unendedBetween⟩ := List.forall_mem_cons.mp unendedOthers
      cases lines with
      | nil => cases fits
      | cons line rest => exact ⟨unendedFirst, unendedBetween, unendedLast⟩
  | openComment _ _ unended => exact ⟨fits.1, List.forall_mem_cons.mp unended⟩
  | remark => trivial

/-- A reworded item begins as the item does. -/
theorem Item.Reworded.beginning_spell {item other : Item} (reworded : item.Reworded other)
    {lines others : List (List Char)} (alike : beginning lines = beginning others) :
    beginning (item.spell lines) = beginning (other.spell others) := by
  cases lines with
  | nil =>
      cases others with
      | nil => cases reworded <;> rfl
      | cons => cases alike
  | cons line rest =>
      cases others with
      | nil => cases alike
      | cons other more => cases reworded with
        | same item => cases item <;> rfl
        | _ => rfl

theorem Reworded.beginning_spell {items changed : List Item} (reworded : Reworded items changed) :
    beginning (spell items) = beginning (spell changed) := by
  induction reworded with
  | nil => rfl
  | cons itemReworded _ ih => exact itemReworded.beginning_spell ih

theorem Reworded.wellFormed {items changed : List Item} (reworded : Reworded items changed)
    (wellFormed : WellFormed items) : WellFormed changed := by
  induction reworded with
  | nil => trivial
  | cons itemReworded restReworded ih =>
      have alike := Reworded.beginning_spell restReworded
      exact ⟨(itemReworded.fits wellFormed.1).of_beginning alike, ih wellFormed.2⟩

/-- The text of reworded items consists of them. -/
theorem Reworded.consists {items changed : List Item} (reworded : Reworded items changed)
    (wellFormed : WellFormed items) : Consists (text changed) changed where
  wellFormed := reworded.wellFormed wellFormed
  spelled := by
    rw [text, List.map_map]
    simp [Function.comp_def]

/-! ## Reworded items are shown alike -/

theorem Item.Reworded.showOn_eq {item other : Item} (reworded : item.Reworded other)
    (read : List Char) : item.showOn read = other.showOn read := by
  cases reworded <;> rfl

theorem Item.Reworded.start?_eq {item other : Item} (reworded : item.Reworded other) :
    item.start? = other.start? := by
  cases reworded <;> rfl

theorem Reworded.shownFrom_eq {items changed : List Item} (reworded : Reworded items changed)
    (read : List Char) : shownFrom read items = shownFrom read changed := by
  induction reworded generalizing read with
  | nil => rfl
  | cons itemReworded _ ih =>
      simp only [shownFrom, itemReworded.showOn_eq, itemReworded.start?_eq, ih]

/-- **The contents of literals and comments are hidden.**  Every text consists of
items, and when items of it are reworded, the text that they spell has the same
cleaned text, and with every extractor and every catalog the same references. -/
theorem rewording_hidden (lines : List String) :
    (∃ items, Consists lines items) ∧ ∀ items changed, Consists lines items →
      Reworded items changed →
        clean (text changed) = clean lines ∧ ∀ (extractor : Extractor) (catalog : Catalog),
          extractor.extractLines catalog (text changed) = extractor.extractLines catalog lines := by
  refine ⟨exists_consists lines, fun items changed consists reworded => ?_⟩
  have changedConsists := reworded.consists consists.wellFormed
  have same : cleanChars (text changed) = cleanChars lines := by
    rw [cleanChars_eq, cleanChars_eq, filled_cleanLines changedConsists,
      filled_cleanLines consists, reworded.shownFrom_eq]
  refine ⟨congrArg String.ofList same, fun extractor catalog => ?_⟩
  rw [Extractor.extractLines, same, Extractor.extractLines]

/-- A call with a literal, a comment on one line and one over two lines, and a remark. -/
def call : List Item :=
  [.mark 'f', .literal ['a'], .comment ['b'], .longComment ['c'] [] ['d'], .remark ['e']]

/-- The call with other contents, which look like other items. -/
def rewordedCall : List Item :=
  [.mark 'f', .literal ['-', '-'], .comment ['\x27'], .longComment ['/', '*'] [['\x27']] ['*'],
    .remark ['*', '/']]

theorem rewordedCall_hidden :
    Consists ["f\x27a\x27/*b*//*c", "d*/--e"] call ∧ Reworded call rewordedCall ∧
      clean (text rewordedCall) = clean ["f\x27a\x27/*b*//*c", "d*/--e"] := by
  have consists : Consists ["f\x27a\x27/*b*//*c", "d*/--e"] call := by
    have unended : Unended ['b'] := by decide
    exact ⟨⟨⟨by decide, by decide, by decide⟩, ⟨.other (by decide) .nil, by decide⟩, unended,
      ⟨by decide, nofun, by decide⟩, trivial, trivial⟩, by with_unfolding_all rfl⟩
  have reworded : Reworded call rewordedCall :=
    .cons (.same _) <| .cons (.literal _ (by decide)) <| .cons (.comment _ (by decide)) <|
      .cons (.longComment _ _ _ (by decide)) <| .cons (.remark _ _) .nil
  exact ⟨consists, reworded, ((rewording_hidden _).2 call rewordedCall consists reworded).1⟩

end SchemaPlan.Source
