import SchemaPlan.Text.Basic
import SchemaPlan.Text.Word

/-!
# Patterns over text

A pattern describes a stretch of text.  Matching starts at a cursor and yields every way to go
on, in order of preference: the first alternative before the second, more repetitions before
fewer unless the pattern asks for the fewest.  The preferred match is the head of that list.

A search goes through a text from the left.  At each place the preferred match, if there is one,
is taken and the search goes on behind it, so matches never overlap.
-/

set_option autoImplicit false

namespace SchemaPlan

/-- A place in a text: the characters before it, nearest first, and the characters after it. -/
structure Cursor where
  before : List Char
  after : List Char
deriving DecidableEq, Repr

namespace Cursor

/-- The place before the first character. -/
def start (text : List Char) : Cursor := ⟨[], text⟩

/-- The number of UTF-8 bytes before the place. -/
def offset (here : Cursor) : Nat := Text.byteLength here.before

/-- The place after the next character. -/
def next? : Cursor → Option Cursor
  | ⟨_, []⟩ => none
  | ⟨before, character :: rest⟩ => some ⟨character :: before, rest⟩

/-- The text read on the way to a later place. -/
def textUntil (here there : Cursor) : List Char :=
  here.after.take (here.after.length - there.after.length)

/-- Exactly one of the two neighbouring characters is a word character. -/
def atBoundary (here : Cursor) : Bool :=
  here.before.head?.any Text.isWord != here.after.head?.any Text.isWord

/-- The next character, when it passes a test, is read. -/
def read? (accepts : Char → Bool) : Cursor → Option Cursor
  | ⟨_, []⟩ => none
  | ⟨before, character :: rest⟩ =>
    if accepts character then some ⟨character :: before, rest⟩ else none

/-- The places reached by reading characters that pass a test, the farthest first. -/
def readMost (accepts : Char → Bool) (before : List Char) : List Char → List Cursor
  | [] => [⟨before, []⟩]
  | character :: rest =>
    if accepts character then
      readMost accepts (character :: before) rest ++ [⟨before, character :: rest⟩]
    else [⟨before, character :: rest⟩]

/-- The places reached by reading characters that pass a test, the nearest first. -/
def readFewest (accepts : Char → Bool) (before : List Char) : List Char → List Cursor
  | [] => [⟨before, []⟩]
  | character :: rest =>
    ⟨before, character :: rest⟩ ::
      if accepts character then readFewest accepts (character :: before) rest else []

theorem length_of_next? {here there : Cursor} (step : here.next? = some there) :
    there.after.length < here.after.length := by
  rcases here with ⟨before, _ | ⟨character, rest⟩⟩
  · simp [next?] at step
  · simp only [next?, Option.some.injEq] at step
    simp [← step]

end Cursor

/-- A description of a stretch of text. -/
inductive Pattern where
  /-- The empty stretch. -/
  | empty
  /-- One character that passes a test. -/
  | one (accepts : Char → Bool)
  /-- As many characters as possible that pass a test. -/
  | most (accepts : Char → Bool)
  /-- As few characters as possible that pass a test. -/
  | fewest (accepts : Char → Bool)
  /-- The empty stretch where the text begins. -/
  | textStart
  /-- The empty stretch where the text ends. -/
  | textEnd
  /-- The empty stretch where a line begins. -/
  | lineStart
  /-- The empty stretch between a word character and one that is not. -/
  | boundary
  /-- One pattern and then another. -/
  | both (first second : Pattern)
  /-- One pattern or, failing that, another. -/
  | either (first second : Pattern)
  /-- A pattern as many times as possible. -/
  | repeated (body : Pattern)
  /-- A pattern whose stretch is remembered under a number. -/
  | group (number : Nat) (body : Pattern)

/-- How far a match has come, and the groups that it has closed, latest first. -/
structure Progress where
  cursor : Cursor
  groups : List (Nat × Cursor × Cursor)
deriving DecidableEq, Repr

namespace Pattern

/-- Repeats a step as often as it reads something; more repetitions are preferred. -/
def repeatStep (step : Progress → List Progress) (here : Progress) : List Progress :=
  ((step here).flatMap fun there =>
    if there.cursor.after.length < here.cursor.after.length then repeatStep step there else []) ++
    [here]
termination_by here.cursor.after.length

/-- The empty stretch, where a condition holds. -/
def holding (condition : Bool) (here : Progress) : List Progress :=
  if condition then [here] else []

/-- Every way in which a pattern matches from here, the preferred way first. -/
def run : Pattern → Progress → List Progress
  | empty, here => [here]
  | one accepts, here => (here.cursor.read? accepts).toList.map ({ here with cursor := · })
  | most accepts, here =>
    (Cursor.readMost accepts here.cursor.before here.cursor.after).map ({ here with cursor := · })
  | fewest accepts, here =>
    (Cursor.readFewest accepts here.cursor.before here.cursor.after).map
      ({ here with cursor := · })
  | textStart, here => holding here.cursor.before.isEmpty here
  | textEnd, here => holding here.cursor.after.isEmpty here
  | lineStart, here => holding (here.cursor.before.head?.all (· == '\n')) here
  | boundary, here => holding here.cursor.atBoundary here
  | both first second, here => (first.run here).flatMap second.run
  | either first second, here => first.run here ++ second.run here
  | repeated body, here => repeatStep body.run here
  | group number body, here =>
    (body.run here).map fun there =>
      { there with groups := (number, here.cursor, there.cursor) :: there.groups }

/-! ## Derived patterns -/

/-- A pattern at most once. -/
def optional (body : Pattern) : Pattern := either body empty

/-- A pattern once or more. -/
def several (body : Pattern) : Pattern := both body (repeated body)

/-- Patterns one after the other. -/
def sequence : List Pattern → Pattern
  | [] => empty
  | [body] => body
  | body :: rest => both body (sequence rest)

/-- The first pattern of a list that matches. -/
def choice : List Pattern → Pattern
  | [] => one fun _ => false
  | [body] => body
  | body :: rest => either body (choice rest)

/-- One given character. -/
def character (expected : Char) : Pattern := one (· == expected)

/-- A given text. -/
def literal (text : String) : Pattern := sequence (text.toList.map character)

/-- Any number of blanks. -/
def blanks : Pattern := most Text.isBlank

/-- One blank or more. -/
def someBlanks : Pattern := both (one Text.isBlank) blanks

end Pattern

/-! ## Searching a text -/

/-- A match of a pattern within a text. -/
structure Match where
  start : Cursor
  stop : Cursor
  groups : List (Nat × Cursor × Cursor)
deriving DecidableEq, Repr

namespace Match

/-- The text of the whole match. -/
def text (found : Match) : List Char := found.start.textUntil found.stop

/-- The text of a group, if the match went through it. -/
def group? (found : Match) (number : Nat) : Option (List Char) :=
  (found.groups.find? fun entry => entry.1 == number).map fun entry =>
    entry.2.1.textUntil entry.2.2

end Match

namespace Pattern

/-- The preferred match that starts exactly here. -/
def matchAt? (pattern : Pattern) (here : Cursor) : Option Match :=
  (pattern.run ⟨here, []⟩).head?.map fun reached => ⟨here, reached.cursor, reached.groups⟩

/-- The successive matches from a place on. -/
def matchesFrom (pattern : Pattern) (here : Cursor) : List Match :=
  match pattern.matchAt? here with
  | some found =>
    if _shorter : found.stop.after.length < here.after.length then
      found :: matchesFrom pattern found.stop
    else
      match _step : here.next? with
      | none => [found]
      | some there => found :: matchesFrom pattern there
  | none =>
    match _step : here.next? with
    | none => []
    | some there => matchesFrom pattern there
termination_by here.after.length
decreasing_by
  · assumption
  · exact Cursor.length_of_next? _step
  · exact Cursor.length_of_next? _step

/-- The successive matches in a text. -/
def search (pattern : Pattern) (text : List Char) : List Match :=
  pattern.matchesFrom (Cursor.start text)

/-- Whether a pattern matches somewhere in a text. -/
def occursIn (pattern : Pattern) (text : List Char) : Bool :=
  !(pattern.search text).isEmpty

/-- The first group of every match. -/
def captures (pattern : Pattern) (text : List Char) : List (List Char) :=
  (pattern.search text).filterMap (·.group? 1)

/-- The first group of every match, with the place where the whole match starts. -/
def locatedCaptures (pattern : Pattern) (text : List Char) : List (Cursor × List Char) :=
  (pattern.search text).filterMap fun found =>
    (found.group? 1).map fun captured => (found.start, captured)

end Pattern

end SchemaPlan
