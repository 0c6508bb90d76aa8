import SchemaPlan.Proofs.Source.Gaps

/-!
# The form of cleaned text

Cleaned lines are never empty, they have no blank at either end and hold neither
double quotes nor small ASCII letters (`Neat`).  Blanks stand side by side in
them where a comment ends behind another comment or a blank (`Crowded`), since
the end of a comment adds a blank in any case.

Cleaning a cleaned text again changes it when blanks stand side by side, and when
a line holds what opens a comment or goes on with a literal (`Joined`).  This
comes from double quotes, which are dropped from between characters of code
(`Fused`).  Every cleaned line that holds nothing of the kind is read as it is,
and every other one becomes shorter.
-/

set_option autoImplicit false

namespace SchemaPlan.Source

open List (replicate)

/-! ## What cleaned lines hold -/

/-- A character that cleaning keeps as it is. -/
structure Clear (character : Char) : Prop where
  unquoted : character ≠ '\x22'
  capital : character.isLower = false
  blank : Text.isBlank character = true → character = ' '

theorem clear_quote : Clear '\x27' := ⟨by decide, by decide, by decide⟩

theorem clear_blank : Clear ' ' := ⟨by decide, by decide, by decide⟩

theorem clear_toUpper {character : Char} (unquoted : character ≠ '\x22')
    (notBlank : Text.isBlank character = false) : Clear character.toUpper where
  unquoted capital := unquoted ((Text.toUpper_eq_iff (by decide)).mp capital)
  capital := Text.isLower_toUpper character
  blank blank := by
    rw [Text.isBlank_toUpper, notBlank] at blank
    cases blank

/-- There is room for a blank behind something else on the line. -/
def Room (read : List Char) : Prop := read ≠ [] ∧ read.head? ≠ some ' '

theorem addBlank_of_room {read : List Char} (room : Room read) : addBlank read = ' ' :: read := by
  obtain ⟨character, rest, rfl⟩ := List.exists_cons_of_ne_nil room.1
  exact addBlank_cons (fun blank => room.2 (congrArg some blank)) rest

theorem addBlank_of_no_room {read : List Char} (noRoom : ¬ Room read) : addBlank read = read := by
  cases read with
  | nil => rfl
  | cons character rest =>
      have blank : character = ' ' := by
        by_contra other
        exact noRoom ⟨List.cons_ne_nil _ _, fun same => other (Option.some.inj same)⟩
      rw [blank]
      rfl

theorem length_addBlank_le (read : List Char) : (addBlank read).length ≤ read.length + 1 := by
  by_cases room : Room read
  · rw [addBlank_of_room room]
    exact Nat.le_refl _
  · rw [addBlank_of_no_room room]
    exact Nat.le_succ _

theorem clear_readLine {region : Region} {read line : List Char}
    (clear : ∀ character ∈ read, Clear character) :
    ∀ character ∈ (readLine region read line).1, Clear character := by
  fun_induction readLine region read line with
  | case3 | case8 | case14 => exact clear
  | case7 => exact List.forall_mem_cons.mpr ⟨clear_quote, clear⟩
  | case4 _ _ ih | case9 _ _ ih | case11 _ _ ih => exact ih clear
  | case2 _ _ _ _ ih => exact ih clear
  | case6 _ _ _ _ _ ih => exact ih clear
  | case1 _ _ ih => exact ih (List.forall_mem_cons.mpr ⟨clear_blank, clear⟩)
  | case10 _ _ ih => exact ih (List.forall_mem_cons.mpr ⟨clear_quote, clear⟩)
  | case5 _ _ _ ih => exact ih (List.forall_mem_cons.mpr ⟨clear_quote, clear⟩)
  | case12 read _ _ _ _ _ _ _ ih =>
      refine ih ?_
      by_cases room : Room read
      · rw [addBlank_of_room room]
        exact List.forall_mem_cons.mpr ⟨clear_blank, clear⟩
      · rwa [addBlank_of_no_room room]
  | case13 _ _ _ _ _ _ notDouble notBlank ih =>
      have capital := clear_toUpper notDouble (Bool.eq_false_iff.mpr notBlank)
      exact ih (List.forall_mem_cons.mpr ⟨capital, clear⟩)

/-- Quotes stand in pairs in what is read: those of a literal that is being read
become a pair when it ends. -/
theorem doubled_readLine {region : Region} {read line : List Char}
    (doubled : Doubled (if region = .literal then '\x27' :: read else read)) :
    Doubled (readLine region read line).1 := by
  fun_induction readLine region read line with
  | case3 | case8 | case14 => exact doubled
  | case7 => exact doubled
  | case4 _ _ ih | case9 _ _ ih | case11 _ _ ih => exact ih doubled
  | case2 _ _ _ _ ih => exact ih doubled
  | case6 _ _ _ _ _ ih => exact ih doubled
  | case1 _ _ ih => exact ih (.other (by decide) doubled)
  | case10 _ _ ih => exact ih doubled.quotes
  | case5 _ _ _ ih => exact ih doubled
  | case12 read _ _ _ _ _ _ _ ih =>
      refine ih ?_
      by_cases room : Room read
      · rw [addBlank_of_room room]
        exact .other (by decide) doubled
      · rwa [addBlank_of_no_room room]
  | case13 _ _ _ _ _ notQuote notDouble notBlank ih =>
      refine ih (.other (fun capital => notQuote ?_) doubled)
      exact (Text.toUpper_eq_iff (by decide)).mp capital

/-! ### Quotes in pairs -/

theorem Doubled.of_cons {character : Char} {rest : List Char} (notQuote : character ≠ '\x27')
    (doubled : Doubled (character :: rest)) : Doubled rest := by
  cases doubled with
  | quotes _ => exact absurd rfl notQuote
  | other _ doubled => exact doubled

theorem Doubled.exists_of_quote {rest : List Char} (doubled : Doubled ('\x27' :: rest)) :
    ∃ later, rest = '\x27' :: later ∧ Doubled later := by
  cases doubled with
  | quotes doubled => exact ⟨_, rfl, doubled⟩
  | other notQuote _ => exact absurd rfl notQuote

theorem Doubled.of_quotes {rest : List Char} (doubled : Doubled ('\x27' :: '\x27' :: rest)) :
    Doubled rest := by
  obtain ⟨_, same, doubledRest⟩ := doubled.exists_of_quote
  rwa [(List.cons.inj same).2]

theorem Doubled.append {first second : List Char} (doubled : Doubled first)
    (doubledSecond : Doubled second) : Doubled (first ++ second) := by
  induction doubled with
  | nil => exact doubledSecond
  | quotes _ ih => exact ih.quotes
  | other notQuote _ ih => exact ih.other notQuote

theorem Doubled.reverse {text : List Char} (doubled : Doubled text) : Doubled text.reverse := by
  induction doubled with
  | nil => exact .nil
  | quotes _ ih =>
      rw [List.reverse_cons, List.reverse_cons, List.append_assoc]
      exact ih.append Doubled.nil.quotes
  | other notQuote _ ih =>
      rw [List.reverse_cons]
      exact ih.append (.other notQuote .nil)

theorem Doubled.dropWhile_isBlank {text : List Char} (doubled : Doubled text) :
    Doubled (text.dropWhile Text.isBlank) := by
  induction text with
  | nil => exact doubled
  | cons character rest ih =>
      rw [List.dropWhile_cons]
      split
      · next blank =>
        refine ih (doubled.of_cons ?_)
        rintro rfl
        cases blank
      · exact doubled

theorem Doubled.trimChars {text : List Char} (doubled : Doubled text) :
    Doubled (Text.trimChars text) :=
  doubled.dropWhile_isBlank.reverse.dropWhile_isBlank.reverse

/-- A cleaned line that holds something. -/
structure Neat (line : List Char) : Prop where
  nonempty : line ≠ []
  unpadded : Text.Unpadded line
  clear : ∀ character ∈ line, Clear character

/-- Every cleaned line is what was read of some text from its beginning. -/
theorem exists_of_mem_cleanLines {inComment : Bool} {lines : List String} {line : List Char}
    (member : line ∈ cleanLines inComment lines) :
    ∃ region text, region ≠ Region.literal ∧ line = finished (readLine region [] text).1 := by
  induction lines generalizing inComment with
  | nil => cases member
  | cons first rest ih =>
      rcases List.mem_cons.mp member with rfl | later
      · exact ⟨if inComment then .comment else .code, first.toList, by split <;> nofun, rfl⟩
      · exact ih later

/-- **Every cleaned line that holds something is neat.** -/
theorem neat_of_mem_filled {inComment : Bool} {lines : List String} {line : List Char}
    (member : line ∈ filled (cleanLines inComment lines)) : Neat line where
  nonempty none := by simp [filled, none] at member
  unpadded := by
    obtain ⟨_, _, _, rfl⟩ := exists_of_mem_cleanLines (List.mem_of_mem_filter member)
    exact Text.unpadded_trimChars _
  clear := by
    obtain ⟨region, text, _, rfl⟩ := exists_of_mem_cleanLines (List.mem_of_mem_filter member)
    intro character inLine
    have inRead := List.mem_reverse.mp ((Text.sublist_trimChars _).subset inLine)
    exact clear_readLine (List.forall_mem_nil _) character inRead

theorem doubled_of_mem_filled {inComment : Bool} {lines : List String} {line : List Char}
    (member : line ∈ filled (cleanLines inComment lines)) : Doubled line := by
  obtain ⟨region, text, noLiteral, rfl⟩ := exists_of_mem_cleanLines (List.mem_of_mem_filter member)
  refine (doubled_readLine ?_).reverse.trimChars
  rw [if_neg noLiteral]
  exact .nil

/-- The lines of a cleaned text are the cleaned lines that hold something. -/
theorem lines_clean (lines : List String) :
    Text.lines (clean lines) = (filled (cleanLines false lines)).map String.ofList := by
  rw [clean, cleanChars_eq]
  refine Text.lines_ofList_flatMap fun line member => ?_
  have neat := neat_of_mem_filled member
  constructor
  · intro lineFeed
    have blank := (neat.clear '\n' lineFeed).blank (by decide)
    exact absurd blank (by decide)
  · intro isReturn
    have inner := neat.unpadded.last '\r' isReturn
    exact absurd inner (by decide)

/-! ## Cleaning again -/

/-- No two blanks stand side by side. -/
def Spaced (line : List Char) : Prop := ¬ [' ', ' '] <:+: line

/-- The line holds what opens a comment, or quotes that go on with a literal. -/
def Joined (line : List Char) : Prop :=
  ['-', '-'] <:+: line ∨ ['/', '*'] <:+: line ∨ ['\x27', '\x27', '\x27'] <:+: line

/-- The line is read as it is. -/
structure Legible (line : List Char) : Prop where
  spaced : Spaced line
  unjoined : ¬ Joined line

theorem legible_cons_iff {character : Char} (notQuote : character ≠ '\x27') {rest : List Char} :
    Legible (character :: rest) ↔ ¬ (character = ' ' ∧ rest.head? = some ' ') ∧
      ¬ (character = '-' ∧ rest.head? = some '-') ∧
      ¬ (character = '/' ∧ rest.head? = some '*') ∧ Legible rest := by
  have quotes : ['\x27', '\x27', '\x27'] <:+: character :: rest ↔
      ['\x27', '\x27', '\x27'] <:+: rest := by
    rw [List.infix_cons_iff, List.cons_prefix_cons]
    exact or_iff_right fun same => notQuote same.1.symm
  constructor
  · rintro ⟨spaced, unjoined⟩
    simp only [Spaced, Joined, pair_infix_cons_iff, quotes, not_or] at spaced unjoined
    exact ⟨spaced.1, unjoined.1.1, unjoined.2.1.1, spaced.2,
      not_or.mpr ⟨unjoined.1.2, not_or.mpr ⟨unjoined.2.1.2, unjoined.2.2⟩⟩⟩
  · rintro ⟨noBlanks, noHyphens, noComment, spaced, unjoined⟩
    simp only [Joined, not_or] at unjoined
    constructor
    · simp only [Spaced, pair_infix_cons_iff, not_or]
      exact ⟨noBlanks, spaced⟩
    · simp only [Joined, pair_infix_cons_iff, quotes, not_or]
      exact ⟨⟨noHyphens, unjoined.1⟩, ⟨noComment, unjoined.2.1⟩, unjoined.2.2⟩

theorem quotes_infix_iff {rest : List Char} :
    ['\x27', '\x27', '\x27'] <:+: '\x27' :: '\x27' :: rest ↔
      rest.head? = some '\x27' ∨ ['\x27', '\x27', '\x27'] <:+: rest := by
  simp only [List.infix_cons_iff, List.cons_prefix_cons, true_and]
  cases rest with
  | nil => simp
  | cons character later =>
      simp only [List.cons_prefix_cons, List.nil_prefix, and_true, List.head?_cons,
        Option.some.injEq]
      constructor
      · rintro (same | same | inside)
        · exact .inl same.symm
        · exact .inl same.1.symm
        · exact .inr inside
      · rintro (same | inside)
        · exact .inl same.symm
        · exact .inr (.inr inside)

theorem legible_quotes_iff {rest : List Char} :
    Legible ('\x27' :: '\x27' :: rest) ↔ rest.head? ≠ some '\x27' ∧ Legible rest := by
  have pairs {first second : Char} (notQuote : '\x27' ≠ first) :
      [first, second] <:+: '\x27' :: '\x27' :: rest ↔ [first, second] <:+: rest := by
    simp [pair_infix_cons_iff, notQuote]
  have joined : Joined ('\x27' :: '\x27' :: rest) ↔ rest.head? = some '\x27' ∨ Joined rest := by
    rw [Joined, Joined, pairs (by decide), pairs (by decide), quotes_infix_iff]
    tauto
  constructor
  · rintro ⟨spaced, unjoined⟩
    rw [joined, not_or] at unjoined
    exact ⟨unjoined.1, mt (pairs (by decide)).mpr spaced, unjoined.2⟩
  · rintro ⟨single, spaced, unjoined⟩
    refine ⟨mt (pairs (by decide)).mp spaced, ?_⟩
    rw [joined, not_or]
    exact ⟨single, unjoined⟩

/-- What is left in a region of a line in which quotes stand in pairs. -/
def Paired : Region → List Char → Prop
  | .code, line => Doubled line
  | .literal, line => Doubled ('\x27' :: line)
  | .comment, line => Doubled line ∨ Doubled ('\x27' :: line)

theorem Paired.of_comment {character : Char} {rest : List Char}
    (paired : Paired .comment (character :: rest)) : Paired .comment rest := by
  rcases paired with doubled | doubled
  · by_cases isQuote : character = '\x27'
    · subst isQuote
      exact .inr doubled
    · exact .inl (doubled.of_cons isQuote)
  · obtain ⟨later, same, doubledLater⟩ := doubled.exists_of_quote
    obtain ⟨-, rfl⟩ := List.cons.inj same
    exact .inl doubledLater

/-- Cleaning a line in which quotes stand in pairs does not make it longer. -/
theorem length_readLine_le (region : Region) (read : List Char) {line : List Char}
    (paired : Paired region line) :
    (readLine region read line).1.length ≤ read.length + line.length := by
  fun_induction readLine region read line with
  | case3 | case8 | case14 => exact Nat.le_add_right _ _
  | case1 read rest ih =>
      have left : Doubled rest := by
        rcases paired with doubled | doubled
        · exact (doubled.of_cons (by decide)).of_cons (by decide)
        · obtain ⟨_, same, _⟩ := doubled.exists_of_quote
          cases same
      have shorter := ih left
      simp only [List.length_cons] at shorter ⊢
      omega
  | case2 read character rest _ ih =>
      have shorter := ih paired.of_comment
      rw [List.length_cons]
      omega
  | case4 read rest ih =>
      have left : Paired .literal rest := paired.of_quotes
      have shorter := ih left
      simp only [List.length_cons]
      omega
  | case5 read rest _ ih =>
      have shorter := ih paired.of_quotes
      simp only [List.length_cons] at shorter ⊢
      omega
  | case6 read character rest _ notQuote =>
      obtain ⟨_, same, _⟩ := paired.exists_of_quote
      exact (notQuote (List.cons.inj same).1).elim
  | case7 =>
      obtain ⟨_, same, _⟩ := paired.exists_of_quote
      cases same
  | case9 read rest ih =>
      have left : Doubled rest := (paired.of_cons (by decide)).of_cons (by decide)
      have shorter := ih (.inl left)
      simp only [List.length_cons]
      omega
  | case10 read rest ih =>
      have shorter := ih paired
      simp only [List.length_cons] at shorter ⊢
      omega
  | case11 read rest ih =>
      have shorter := ih (paired.of_cons (by decide))
      rw [List.length_cons]
      omega
  | case12 read character rest _ _ notQuote _ _ ih =>
      have shorter := ih (paired.of_cons notQuote)
      have blank := length_addBlank_le read
      simp only [List.length_cons] at shorter ⊢
      omega
  | case13 read character rest _ _ notQuote _ _ ih =>
      have shorter := ih (paired.of_cons notQuote)
      simp only [List.length_cons] at shorter ⊢
      omega

/-- The rest of a line is read as it is behind what has been read. -/
structure Readable (read line : List Char) : Prop where
  legible : Legible line
  room : line.head? = some ' ' → Room read

/-- The rest of a line is read as it is, or it becomes shorter. -/
structure KeptOrShorter (read line : List Char) : Prop where
  kept : Readable read line → readLine .code read line = (line.reverse ++ read, false)
  shorter : ¬ Readable read line →
    (readLine .code read line).1.length < read.length + line.length

theorem KeptOrShorter.of_shorter {read line : List Char} (unreadable : ¬ Readable read line)
    (shorter : (readLine .code read line).1.length < read.length + line.length) :
    KeptOrShorter read line :=
  ⟨fun readable => absurd readable unreadable, fun _ => shorter⟩

/-- Characters that are read as they are make no difference. -/
theorem KeptOrShorter.step {read rest : List Char} (front : List Char)
    (later : KeptOrShorter (front.reverse ++ read) rest)
    (same : Readable read (front ++ rest) ↔ Readable (front.reverse ++ read) rest)
    (reading : readLine .code read (front ++ rest) =
      readLine .code (front.reverse ++ read) rest) : KeptOrShorter read (front ++ rest) where
  kept readable := by
    rw [reading, later.kept (same.mp readable), List.reverse_append, List.append_assoc]
  shorter unreadable := by
    have less := later.shorter (mt same.mpr unreadable)
    rw [reading]
    simp only [List.length_append, List.length_reverse] at less ⊢
    omega

/-- A pair of quotes is read as it is unless a literal goes on behind it. -/
theorem keptOrShorter_quotes {rest : List Char} (doubled : Doubled rest) (read : List Char)
    (later : KeptOrShorter ('\x27' :: '\x27' :: read) rest) :
    KeptOrShorter read ('\x27' :: '\x27' :: rest) := by
  by_cases another : rest.head? = some '\x27'
  · obtain ⟨further, rfl⟩ := List.head?_eq_some_iff.mp another
    refine .of_shorter (fun readable => (legible_quotes_iff.mp readable.legible).1 another) ?_
    have shorter := length_readLine_le .literal ('\x27' :: read) doubled
    rw [readLine.eq_10, readLine.eq_4]
    simp only [List.length_cons] at shorter ⊢
    omega
  · refine later.step ['\x27', '\x27'] ?_ ?_
    · constructor
      · exact fun readable => ⟨(legible_quotes_iff.mp readable.legible).2,
          fun _ => ⟨List.cons_ne_nil _ _, by simp⟩⟩
      · exact fun readable => ⟨legible_quotes_iff.mpr ⟨another, readable.legible⟩, by simp⟩
    · exact (readLine.eq_10 _ _).trans
        (readLine.eq_5 _ _ fun _ isQuote => another (congrArg List.head? isQuote))

/-- A blank is read as it is if there is room for it. -/
theorem keptOrShorter_blank {rest : List Char} (doubled : Doubled rest) (read : List Char)
    (later : KeptOrShorter (' ' :: read) rest) : KeptOrShorter read (' ' :: rest) := by
  have reading : readLine .code read (' ' :: rest) = readLine .code (addBlank read) rest := by
    rw [readLine.eq_12 _ _ _ (fun _ isHyphen _ => absurd isHyphen (by decide))
      (fun _ isSlash _ => absurd isSlash (by decide)) (by decide) (by decide), if_pos (by decide)]
  by_cases room : Room read
  · rw [addBlank_of_room room] at reading
    refine later.step [' '] ?_ reading
    constructor
    · intro readable
      obtain ⟨noBlanks, -, -, legible⟩ := (legible_cons_iff (by decide)).mp readable.legible
      exact ⟨legible, fun blank => absurd ⟨rfl, blank⟩ noBlanks⟩
    · intro readable
      refine ⟨(legible_cons_iff (by decide)).mpr ⟨?_, by simp, by simp, readable.legible⟩,
        fun _ => room⟩
      exact fun blanks => (readable.room blanks.2).2 rfl
  · refine .of_shorter (fun readable => room (readable.room rfl)) ?_
    have shorter := length_readLine_le .code read doubled
    rw [reading, addBlank_of_no_room room, List.length_cons]
    omega

/-- A character of code is read as it is if it opens no comment. -/
theorem keptOrShorter_mark {character : Char} (notQuote : character ≠ '\x27')
    (notBlank : character ≠ ' ') (clear : Clear character) {rest : List Char}
    (doubled : Doubled rest) (read : List Char) (later : KeptOrShorter (character :: read) rest) :
    KeptOrShorter read (character :: rest) := by
  by_cases hyphens : character = '-' ∧ rest.head? = some '-'
  · refine .of_shorter (fun readable => ?_) ?_
    · exact ((legible_cons_iff notQuote).mp readable.legible).2.1 hyphens
    · obtain ⟨rfl, hyphen⟩ := hyphens
      obtain ⟨further, rfl⟩ := List.head?_eq_some_iff.mp hyphen
      rw [readLine]
      simp
  by_cases comment : character = '/' ∧ rest.head? = some '*'
  · refine .of_shorter (fun readable => ?_) ?_
    · exact ((legible_cons_iff notQuote).mp readable.legible).2.2.1 comment
    · obtain ⟨rfl, star⟩ := comment
      obtain ⟨further, rfl⟩ := List.head?_eq_some_iff.mp star
      have paired : Paired .comment further := .inl (doubled.of_cons (by decide))
      have shorter := length_readLine_le .comment read paired
      rw [readLine]
      simp only [List.length_cons]
      omega
  · have visible : Text.isBlank character = false :=
      Bool.eq_false_iff.mpr (mt clear.blank notBlank)
    refine later.step [character] ?_ ?_
    · constructor
      · intro readable
        obtain ⟨-, -, -, legible⟩ := (legible_cons_iff notQuote).mp readable.legible
        exact ⟨legible, fun _ => ⟨List.cons_ne_nil _ _, by simpa using notBlank⟩⟩
      · exact fun readable => ⟨(legible_cons_iff notQuote).mpr
          ⟨fun blanks => notBlank blanks.1, hyphens, comment, readable.legible⟩,
          fun blank => absurd (Option.some.inj blank) notBlank⟩
    · rw [List.singleton_append, readLine.eq_12 _ _ _
        (fun _ isHyphen another => hyphens ⟨isHyphen, congrArg List.head? another⟩)
        (fun _ isSlash star => comment ⟨isSlash, congrArg List.head? star⟩) notQuote
        clear.unquoted, if_neg (by rw [visible]; decide), Text.toUpper_eq_self clear.capital]
      rfl

/-- **A clear line is read as it is, or it becomes shorter.** -/
theorem keptOrShorter {line : List Char} (doubled : Doubled line)
    (clear : ∀ character ∈ line, Clear character) (read : List Char) :
    KeptOrShorter read line := by
  induction doubled generalizing read with
  | nil =>
      have readable : Readable read [] := ⟨⟨by simp [Spaced], by simp [Joined]⟩, nofun⟩
      exact ⟨fun _ => by rw [readLine]; rfl, fun unreadable => absurd readable unreadable⟩
  | quotes doubled ih =>
      have clearRest :=
        List.forall_mem_of_forall_mem_cons (List.forall_mem_of_forall_mem_cons clear)
      exact keptOrShorter_quotes doubled read (ih clearRest _)
  | @other character rest notQuote doubled ih =>
      have clearRest := List.forall_mem_of_forall_mem_cons clear
      by_cases blank : character = ' '
      · subst blank
        exact keptOrShorter_blank doubled read (ih clearRest _)
      · exact keptOrShorter_mark notQuote blank (clear _ List.mem_cons_self) doubled read
          (ih clearRest _)

/-! ### All lines again -/

theorem flatten_filled (lines : List (List Char)) : (filled lines).flatten = lines.flatten := by
  induction lines with
  | nil => rfl
  | cons line rest ih =>
      cases line with
      | nil => exact ih
      | cons character later => exact congrArg ((character :: later) ++ ·) ih

theorem length_finished_le (read : List Char) : (finished read).length ≤ read.length := by
  have shorter := (Text.sublist_trimChars read.reverse).length_le
  rwa [List.length_reverse] at shorter

/-- Cleaning lines in which quotes stand in pairs does not make them longer. -/
theorem length_cleanLines_le {lines : List (List Char)} (doubled : ∀ line ∈ lines, Doubled line)
    (inComment : Bool) :
    (cleanLines inComment (lines.map String.ofList)).flatten.length ≤ lines.flatten.length := by
  induction lines generalizing inComment with
  | nil => exact Nat.le_refl _
  | cons line rest ih =>
      obtain ⟨doubledLine, doubledRest⟩ := List.forall_mem_cons.mp doubled
      have paired : Paired (if inComment then .comment else .code) line := by
        cases inComment with
        | true => exact .inl doubledLine
        | false => exact doubledLine
      rw [cleanLines_cons, List.flatten_cons, List.flatten_cons, List.length_append,
        List.length_append]
      refine Nat.add_le_add ((length_finished_le _).trans ?_) (ih doubledRest _)
      exact (length_readLine_le _ _ paired).trans (by simp)

theorem Neat.readable {line : List Char} (neat : Neat line) :
    Readable [] line ↔ Legible line := by
  refine ⟨fun readable => readable.legible, fun legible => ⟨legible, fun blank => ?_⟩⟩
  have inner := neat.unpadded.first ' ' blank
  exact absurd inner (by decide)

/-- **Cleaning changes lines unless they are all legible.** -/
theorem filled_cleanLines_eq_iff {lines : List (List Char)} (neat : ∀ line ∈ lines, Neat line)
    (doubled : ∀ line ∈ lines, Doubled line) :
    filled (cleanLines false (lines.map String.ofList)) = lines ↔
      ∀ line ∈ lines, Legible line := by
  induction lines with
  | nil => exact iff_of_true rfl nofun
  | cons line rest ih =>
      obtain ⟨neatLine, neatRest⟩ := List.forall_mem_cons.mp neat
      obtain ⟨doubledLine, doubledRest⟩ := List.forall_mem_cons.mp doubled
      obtain ⟨kept, shorter⟩ := keptOrShorter doubledLine neatLine.clear []
      rw [neatLine.readable] at kept shorter
      rw [List.forall_mem_cons, ← ih neatRest doubledRest]
      by_cases legible : Legible line
      · have same : finished (line.reverse ++ []) = line := by
          rw [finished, List.append_nil, List.reverse_reverse]
          simpa using Text.trimChars_append neatLine.unpadded neatLine.nonempty
            (List.forall_mem_nil _)
        have whole : filled (cleanLines false ((line :: rest).map String.ofList)) =
            line :: filled (cleanLines false (rest.map String.ofList)) := by
          rw [cleanLines_cons, if_neg (by decide), kept legible, same]
          exact List.filter_cons_of_pos (by simpa using neatLine.nonempty)
        rw [whole, List.cons.injEq, and_iff_right rfl, and_iff_right legible]
      · refine iff_of_false (fun same => ?_) (fun both => legible both.1)
        have length := congrArg (fun lines => lines.flatten.length) same
        have lessRest := length_cleanLines_le doubledRest (readLine .code [] line).2
        have lessLine := (length_finished_le _).trans_lt (shorter legible)
        rw [flatten_filled, cleanLines_cons, if_neg (by decide)] at length
        simp only [List.flatten_cons, List.length_append, List.length_nil] at length lessLine
        omega

/-- Cleaning a cleaned text again changes it unless its lines are all legible. -/
theorem clean_again_iff (lines : List String) :
    clean (Text.lines (clean lines)) = clean lines ↔
      ∀ line ∈ filled (cleanLines false lines), Legible line := by
  rw [← filled_cleanLines_eq_iff (fun _ => neat_of_mem_filled) (fun _ => doubled_of_mem_filled)]
  constructor
  · intro same
    have sameLines := congrArg Text.lines same
    rw [lines_clean, lines_clean] at sameLines
    exact (List.map_inj_right fun _ _ => String.ofList_inj.mp).mp sameLines
  · intro same
    rw [lines_clean, clean, cleanChars_eq, same]
    rfl

/-! ## In terms of the source text -/

/-- Two visible items of a line with more than one blank shown between them. -/
def Crowded (items : List Item) : Prop :=
  ∃ left gap right, Neighbours left gap right items ∧ 2 ≤ width gap

/-- The first item and the second one directly behind it show as something that is
read in another way. -/
def Item.joins : Item → Item → Bool
  | mark first, mark second => (first == '-' && second == '-') || (first == '/' && second == '*')
  | literal _, literal _ | literal _, openLiteral _ => true
  | openLiteral _, literal _ | openLiteral _, openLiteral _ => true
  | _, _ => false

/-- Two visible items of a line with nothing shown between them, which together are
read in another way. -/
def Fused (items : List Item) : Prop :=
  ∃ left gap right, Neighbours left gap right items ∧ width gap = 0 ∧ left.joins right = true

/-! ### Blanks -/

theorem spaced_reverse_iff {line : List Char} : Spaced line.reverse ↔ Spaced line := by
  rw [Spaced, Spaced, ← List.reverse_infix, List.reverse_reverse]
  rfl

theorem spaced_append_iff {front read : List Char} (visible : ∀ character ∈ front,
    Text.isBlank character = false) : Spaced (front ++ read) ↔ Spaced read := by
  induction front with
  | nil => exact Iff.rfl
  | cons character rest ih =>
      obtain ⟨notBlank, visibleRest⟩ := List.forall_mem_cons.mp visible
      have other : character ≠ ' ' := by
        rintro rfl
        cases notBlank
      rw [← ih visibleRest, List.cons_append, Spaced, pair_infix_cons_iff, Spaced]
      simp [other]

theorem spaced_replicate_iff {read : List Char} (room : Room read) (blanks : Nat) :
    Spaced (replicate blanks ' ' ++ read) ↔ Spaced read ∧ blanks ≤ 1 := by
  match blanks with
  | 0 => simp
  | 1 =>
      rw [and_iff_left (Nat.le_refl 1), Spaced, Spaced]
      exact not_congr (pair_infix_cons_iff.trans (or_iff_right fun blanks => room.2 blanks.2))
  | more + 2 =>
      refine iff_of_false (fun spaced => spaced ?_) (fun both => by omega)
      exact pair_infix_cons_iff.mpr (.inl ⟨rfl, rfl⟩)

theorem room_face {item : Item} (visible : item.isVisible = true) (read : List Char) :
    Room (item.face ++ read) := by
  refine ⟨List.append_ne_nil_of_left_ne_nil (Item.face_ne_nil visible) read, fun blank => ?_⟩
  rw [List.head?_append_of_ne_nil _ (Item.face_ne_nil visible)] at blank
  have inner := Item.not_isBlank_of_mem_face visible (List.mem_of_mem_head? blank)
  cases inner

/-- Blanks stand side by side in a gap between neighbours only. -/
theorem local_spaced : Local Spaced fun _ blanks _ => blanks ≤ 1 where
  empty := by simp [Spaced]
  single item shows := by
    rw [← List.append_nil item.face,
      spaced_append_iff fun _ => Item.not_isBlank_of_mem_face shows.visible]
    simp [Spaced]
  joined left right blanks read leftShows rightShows := by
    rw [spaced_append_iff fun _ => Item.not_isBlank_of_mem_face rightShows.visible,
      spaced_replicate_iff (room_face leftShows.visible read)]

theorem allApart_iff_not_crowded {items : List Item} :
    AllApart (fun _ blanks _ => blanks ≤ 1) items ↔ ¬ Crowded items := by
  constructor
  · rintro apart ⟨left, gap, right, neighbours, wide⟩
    exact absurd (apart left gap right neighbours) (Nat.not_le.mpr wide)
  · intro uncrowded left gap right neighbours
    by_contra wide
    exact uncrowded ⟨left, gap, right, neighbours, Nat.not_le.mp wide⟩

/-! ### Comments and literals -/

theorem joined_reverse_iff {read : List Char} : Joined read.reverse ↔
    ['-', '-'] <:+: read ∨ ['*', '/'] <:+: read ∨ ['\x27', '\x27', '\x27'] <:+: read := by
  have turned (signs : List Char) : signs <:+: read.reverse ↔ signs.reverse <:+: read := by
    rw [← List.reverse_infix, List.reverse_reverse]
  simp only [Joined, turned]
  rfl

theorem joined_cons_iff {character : Char} (notQuote : character ≠ '\x27') (read : List Char) :
    Joined (character :: read).reverse ↔ (character = '-' ∧ read.head? = some '-') ∨
      (character = '*' ∧ read.head? = some '/') ∨ Joined read.reverse := by
  have quotes : ['\x27', '\x27', '\x27'] <:+: character :: read ↔
      ['\x27', '\x27', '\x27'] <:+: read := by
    rw [List.infix_cons_iff, List.cons_prefix_cons]
    exact or_iff_right fun same => notQuote same.1.symm
  rw [joined_reverse_iff, joined_reverse_iff, pair_infix_cons_iff, pair_infix_cons_iff, quotes]
  tauto

theorem joined_quotes_iff (read : List Char) : Joined ('\x27' :: '\x27' :: read).reverse ↔
    read.head? = some '\x27' ∨ Joined read.reverse := by
  have pairs {first second : Char} (notQuote : '\x27' ≠ first) :
      [first, second] <:+: '\x27' :: '\x27' :: read ↔ [first, second] <:+: read := by
    simp [pair_infix_cons_iff, notQuote]
  rw [joined_reverse_iff, joined_reverse_iff, pairs (by decide), pairs (by decide),
    quotes_infix_iff]
  tauto

/-- How a text that is read in another way may begin, given how it shows in reverse. -/
def Joining (later earlier : Option Char) : Prop :=
  (later = some '-' ∧ earlier = some '-') ∨ (later = some '*' ∧ earlier = some '/') ∨
    (later = some '\x27' ∧ earlier = some '\x27')

theorem joined_face_iff {item : Item} (shows : item.Shows) (read : List Char) :
    Joined (item.face ++ read).reverse ↔
      Joining item.face.head? read.head? ∨ Joined read.reverse := by
  cases item with
  | mark character =>
      have notQuote : character.toUpper ≠ '\x27' := fun isQuote => by
        rw [Text.toUpper_eq_iff (by decide)] at isQuote
        exact shows.notQuote (congrArg Item.mark isQuote)
      refine (joined_cons_iff notQuote read).trans ?_
      simp only [Joining, Item.face, List.head?_cons, Option.some.injEq, notQuote, false_and,
        or_false, or_assoc]
  | literal | openLiteral =>
      refine (joined_quotes_iff read).trans ?_
      simp [Joining, Item.face]
  | comment | longComment | openComment | remark | lineEnd => cases shows.visible

theorem Item.Shows.ne_quote {character : Char} (shows : (Item.mark character).Shows) :
    character ≠ '\x27' := by
  rintro rfl
  exact shows.notQuote rfl

theorem joins_iff {left right : Item} (leftShows : left.Shows) (rightShows : right.Shows) :
    left.joins right = true ↔ Joining right.face.head? left.face.head? := by
  have hyphen (character : Char) := @Text.toUpper_eq_iff character '-' (by decide)
  have slash (character : Char) := @Text.toUpper_eq_iff character '/' (by decide)
  have star (character : Char) := @Text.toUpper_eq_iff character '*' (by decide)
  have quote (character : Char) := @Text.toUpper_eq_iff character '\x27' (by decide)
  cases left with
  | mark first =>
      have notQuote := leftShows.ne_quote
      cases right with
      | mark second =>
          simp [Item.joins, Joining, Item.face, hyphen, slash, star, quote, notQuote, and_comm]
      | literal | openLiteral => simp [Item.joins, Joining, Item.face, quote, notQuote]
      | comment | longComment | openComment | remark | lineEnd => cases rightShows.visible
  | literal | openLiteral =>
      cases right with
      | mark second =>
          simp [Item.joins, Joining, Item.face, quote, rightShows.ne_quote]
      | literal | openLiteral => simp [Item.joins, Joining, Item.face]
      | comment | longComment | openComment | remark | lineEnd => cases rightShows.visible
  | comment | longComment | openComment | remark | lineEnd => cases leftShows.visible

theorem joined_replicate_iff (blanks : Nat) (read : List Char) :
    Joined (replicate blanks ' ' ++ read).reverse ↔ Joined read.reverse := by
  induction blanks with
  | zero => exact Iff.rfl
  | succ more ih =>
      rw [List.replicate_succ, List.cons_append, joined_cons_iff (by decide), ih]
      simp

/-- Cleaned text is read in another way because of neighbours only. -/
theorem local_unjoined : Local (fun read => ¬ Joined read.reverse)
    fun left blanks right => blanks = 0 → left.joins right = false where
  empty := by simp [Joined]
  single item shows := by
    have alone := joined_face_iff shows []
    rw [List.append_nil] at alone
    rw [alone]
    simp [Joining, Joined]
  joined left right blanks read leftShows rightShows := by
    rw [joined_face_iff rightShows, joined_replicate_iff, not_or, and_comm]
    refine and_congr_right fun _ => ?_
    cases blanks with
    | zero =>
        rw [List.replicate_zero, List.nil_append,
          List.head?_append_of_ne_nil _ (Item.face_ne_nil leftShows.visible),
          ← joins_iff leftShows rightShows]
        simp
    | succ more => simp [Joining, List.replicate_succ]

theorem allApart_iff_not_fused {items : List Item} :
    AllApart (fun left blanks right => blanks = 0 → left.joins right = false) items ↔
      ¬ Fused items := by
  constructor
  · rintro apart ⟨left, gap, right, neighbours, none, joins⟩
    rw [apart left gap right neighbours none] at joins
    cases joins
  · intro unfused left gap right neighbours none
    exact Bool.eq_false_iff.mpr fun joins => unfused ⟨left, gap, right, neighbours, none, joins⟩

theorem forall_mem_filled_iff {Test : List Char → Prop} (empty : Test [])
    (lines : List (List Char)) :
    (∀ line ∈ filled lines, Test line) ↔ ∀ line ∈ lines, Test line := by
  refine ⟨fun all line member => ?_,
    fun all line member => all line (List.mem_of_mem_filter member)⟩
  cases line with
  | nil => exact empty
  | cons => exact all _ (List.mem_filter.mpr ⟨member, rfl⟩)

theorem forall_mem_lines_clean_iff {Test : List Char → Prop} (lines : List String) :
    (∀ line ∈ Text.lines (clean lines), Test line.toList) ↔
      ∀ line ∈ filled (cleanLines false lines), Test line := by
  rw [lines_clean, List.forall_mem_map]
  simp only [String.toList_ofList]

theorem forall_spaced_iff {lines : List String} {items : List Item}
    (consists : Consists lines items) :
    (∀ line ∈ filled (cleanLines false lines), Spaced line) ↔ ¬ Crowded items := by
  rw [filled_cleanLines consists, forall_mem_filled_iff local_spaced.empty,
    ← allApart_iff_not_crowded, ← local_spaced.forall_shownFrom consists.wellFormed]
  simp only [spaced_reverse_iff]

theorem forall_unjoined_iff {lines : List String} {items : List Item}
    (consists : Consists lines items) :
    (∀ line ∈ filled (cleanLines false lines), ¬ Joined line) ↔ ¬ Fused items := by
  rw [filled_cleanLines consists, forall_mem_filled_iff local_unjoined.empty,
    ← allApart_iff_not_fused, ← local_unjoined.forall_shownFrom consists.wellFormed]
  simp only [List.reverse_reverse]

/-- **The form of cleaned text.**  Its lines are neat.  No blanks stand side by side in
them exactly when the source text is not crowded, and cleaning the text again leaves it
as it is exactly when, moreover, the source text is not fused. -/
theorem clean_form (lines : List String) :
    (∀ line ∈ Text.lines (clean lines), Neat line.toList) ∧
      ∀ items, Consists lines items →
        ((∀ line ∈ Text.lines (clean lines), Spaced line.toList) ↔ ¬ Crowded items) ∧
        (clean (Text.lines (clean lines)) = clean lines ↔ ¬ Crowded items ∧ ¬ Fused items) := by
  refine ⟨(forall_mem_lines_clean_iff lines).mpr fun _ => neat_of_mem_filled,
    fun items consists => ⟨?_, ?_⟩⟩
  · exact (forall_mem_lines_clean_iff lines).trans (forall_spaced_iff consists)
  · rw [clean_again_iff, ← forall_spaced_iff consists, ← forall_unjoined_iff consists]
    constructor
    · exact fun legible => ⟨fun line member => (legible line member).spaced,
        fun line member => (legible line member).unjoined⟩
    · exact fun both line member => ⟨both.1 line member, both.2 line member⟩

example : clean (Text.lines (clean ["-\x22-"])) ≠ clean ["-\x22-"] := by
  with_unfolding_all decide

/-- A comment with a blank at each of its sides. -/
def spacedComment : List Item :=
  [.mark 'a', .mark ' ', .comment [' ', 'x', ' '], .mark ' ', .mark 'b', .lineEnd]

theorem spacedComment_crowds : Consists ["a /* x */ b"] spacedComment ∧ Crowded spacedComment ∧
    (¬ ∀ line ∈ Text.lines (clean ["a /* x */ b"]), Spaced line.toList) ∧
    clean (Text.lines (clean ["a /* x */ b"])) ≠ clean ["a /* x */ b"] := by
  have consists : Consists ["a /* x */ b"] spacedComment := by
    have unended : Unended [' ', 'x', ' '] := by decide
    have mark (character : Char) (rest : List Char) (lines : List (List Char))
        (plain : character ≠ '\x27' ∧ character ≠ '-' ∧ character ≠ '/') :
        (Item.mark character).Fits (rest :: lines) :=
      ⟨plain.1, fun same => plain.2.1 same.1, fun same => plain.2.2 same.1⟩
    exact ⟨⟨mark _ _ _ (by decide), mark _ _ _ (by decide), unended, mark _ _ _ (by decide),
      mark _ _ _ (by decide), trivial, trivial⟩, by with_unfolding_all rfl⟩
  have crowded : Crowded spacedComment :=
    ⟨.mark 'a', [.mark ' ', .comment [' ', 'x', ' '], .mark ' '], .mark 'b',
      .here (by decide) rfl
        (.behind (by decide) (.behind (by decide) (.behind (by decide) (.here _ (by decide))))),
      by decide⟩
  obtain ⟨spaced, again⟩ := (clean_form ["a /* x */ b"]).2 spacedComment consists
  exact ⟨consists, crowded, fun all => spaced.mp all crowded,
    fun same => (again.mp same).1 crowded⟩

/-- **Cleaned text is not always in normal form.** -/
theorem not_forall_normal_form : ¬ ∀ lines : List String,
    (∀ line ∈ Text.lines (clean lines), Neat line.toList ∧ Spaced line.toList) ∧
      clean (Text.lines (clean lines)) = clean lines := by
  intro always
  have same := (always ["a /* x */ b"]).2
  revert same
  with_unfolding_all decide

end SchemaPlan.Source
