import SchemaPlan.Relational.Document.Basic

/-!
# Reading documents

The notation has a plain form and a relaxed one with comments, names without quotes, further blanks
and other ways to write numbers.  What is read tells whether it is only relaxed.  What cannot be
read tells where.
-/

set_option autoImplicit false

namespace SchemaPlan.Relational.Document

/-- What is found at the front of characters. -/
inductive Reading where
  | found (document : Document) (isRelaxed : Bool) (rest : List Char)
  /-- A bracket or a mark between parts, which is the first of the characters given. -/
  | mark (character : Char) (isRelaxed : Bool) (characters : List Char)
  /-- The end. -/
  | nothing
  /-- Something wrong at the front of some characters. -/
  | wrong (characters : List Char)

/-! ## Blanks -/

/-- Whether a character is a blank in the plain form. -/
def isBlank (character : Char) : Bool := ['\t', '\n', '\r', ' '].contains character

/-- Whether a character is a blank in the relaxed form. -/
def isRelaxedBlank (character : Char) : Bool :=
  let number := character.toNat
  isBlank character || [0x0b, 0x0c, 0xa0, 0x1680, 0x2028, 0x2029, 0x202f, 0x205f, 0x3000,
    0xfeff].contains number || decide (0x2000 ≤ number ∧ number ≤ 0x200a)

/-- The characters after the end of a comment between a slash and a star, if there is an end. -/
def afterComment? : List Char → Option (List Char)
  | '*' :: '/' :: rest => some rest
  | _ :: rest => afterComment? rest
  | [] => none

/-- Whether a character ends a line. -/
def endsLine (character : Char) : Bool := ['\n', '\r', '\u2028', '\u2029'].contains character

/-- The characters after blanks and comments of the relaxed form, of which there are at most as many
as given. -/
def skipRelaxed : Nat → List Char → List Char
  | 0, characters => characters
  | _, [] => []
  | fuel + 1, character :: rest =>
    if isRelaxedBlank character then skipRelaxed fuel rest
    else
      match character :: rest with
      | '/' :: '*' :: next :: after =>
        match afterComment? (next :: after) with
        | some rest => skipRelaxed fuel rest
        | none => character :: rest
      | '/' :: '/' :: after => skipRelaxed fuel ((after.dropWhile (!endsLine ·)).drop 1)
      | characters => characters

/-- The characters after blanks, and whether some of the relaxed form are among them. -/
def skipBlanks (characters : List Char) : Bool × List Char :=
  let plain := characters.dropWhile isBlank
  let after := skipRelaxed plain.length plain
  (after.length < plain.length, after)

/-! ## Texts -/

/-- The greater of two wordings, of which the relaxed one is the greatest. -/
def wordingOf (wording : Wording) (isRelaxed : Bool) : Wording :=
  if isRelaxed || wording == .relaxed then .relaxed else .escaped

/-- The wording of a text up to its closing quote, with its content in reverse and the rest. -/
def readText (quote : Char) (wording : Wording) (before : List Char) :
    List Char → Except (List Char) (Label × List Char)
  | [] => .error []
  | [character] =>
    if character == quote then .ok (⟨wording, before.reverse⟩, [])
    else .error (if character == '\\' then [] else [])
  | character :: next :: rest =>
    if character == quote then .ok (⟨wording, before.reverse⟩, next :: rest)
    else if character == '\\' then
      let isPlain := ['\x22', '\\', '/', 'b', 'f', 'n', 'r', 't'].contains next ||
        (next == 'u' && (hexFour? rest).isSome)
      let isRelaxed := ['\x27', '0', 'v'].contains next || endsLine next ||
        (next == 'x' && (rest.take 2).length = 2 && (rest.take 2).all Token.isHex)
      if isPlain || isRelaxed then
        readText quote (wordingOf wording isRelaxed) (next :: '\\' :: before) rest
      else .error (next :: rest)
    else if character == '\x00' then .error (character :: next :: rest)
    else
      let isRelaxed := character == '\x22' || decide (character.toNat < 0x20)
      readText quote (if isRelaxed then .relaxed else wording) (character :: before) (next :: rest)

/-! ## Numbers -/

/-- A number under way. -/
structure NumberDraft where
  isReal : Bool
  isRelaxed : Bool
  hasPower : Bool := false
  /-- The characters read, the last one first. -/
  read : List Char

/-- Whether the last character read is a point after a digit. -/
def NumberDraft.endsInPoint (draft : NumberDraft) : Bool :=
  match draft.read with
  | '.' :: digit :: _ => digit.isDigit
  | _ => false

/-- Whether the last character read is a digit. -/
def NumberDraft.endsInDigit (draft : NumberDraft) : Bool :=
  match draft.read with
  | last :: _ => last.isDigit || last == 'e' || last == 'E'
  | [] => false

/-- The number that a draft has become, with the rest. -/
def NumberDraft.finish (draft : NumberDraft) (isMarked : Bool) (rest : List Char) : Reading :=
  let digits := draft.read.reverse
  let digits := if digits.head? == some '+' then digits.drop 1 else digits
  let isRelaxed := draft.isRelaxed || draft.endsInPoint
  if draft.endsInDigit || draft.endsInPoint then
    .found (.number draft.isReal isRelaxed digits) (isRelaxed || isMarked) rest
  else .wrong rest

/-- Reads the rest of a number. -/
def readNumber (isMarked : Bool) : Nat → NumberDraft → List Char → Reading
  | 0, draft, characters => draft.finish isMarked characters
  | _, draft, [] => draft.finish isMarked []
  | fuel + 1, draft, character :: rest =>
    if character.isDigit then
      readNumber isMarked fuel { draft with read := character :: draft.read } rest
    else if character == '.' then
      if draft.isReal then .wrong (character :: rest)
      else readNumber isMarked fuel { draft with isReal := true, read := '.' :: draft.read } rest
    else if character == 'e' || character == 'E' then
      if draft.hasPower || !(draft.endsInDigit || draft.endsInPoint) then
        .wrong (character :: rest)
      else
        let signed := rest.head?.any fun sign => sign == '+' || sign == '-'
        let sign := if signed then rest.take 1 else []
        let after := rest.drop sign.length
        if after.head?.any Char.isDigit then
          readNumber isMarked fuel
            { draft with
              isReal := true
              isRelaxed := draft.isRelaxed || draft.endsInPoint
              hasPower := true
              read := sign ++ character :: draft.read } after
        else .wrong (sign ++ after)
    else draft.finish isMarked (character :: rest)

/-- Reads a number in hexadecimal digits after its sign and its mark. -/
def readHex (before : List Char) (characters : List Char) : Reading :=
  let digits := before ++ characters.takeWhile Token.isHex
  let digits := if digits.head? == some '+' then digits.drop 1 else digits
  .found (.number false true digits) true (characters.dropWhile Token.isHex)

/-- Whether characters begin with some letters in any case. -/
def begins (word : String) (characters : List Char) : Bool :=
  (characters.take word.length).map Char.toLower == word.toList.map Char.toLower

/-- Reads a number that begins with a sign. -/
def readSigned (sign : Char) (rest : List Char) : Reading :=
  let isMarked := sign == '+'
  let draft : NumberDraft := { isReal := false, isRelaxed := false, read := [sign] }
  if !rest.head?.any Char.isDigit then
    if begins "inf" rest then
      let digits := (if isMarked then [] else ['-']) ++ "9e999".toList
      .found (.number true false digits) true
        (rest.drop (if begins "infinity" rest then 8 else 3))
    else if rest.head? == some '.' then
      readNumber isMarked rest.length { draft with isRelaxed := true } rest
    else .wrong (sign :: rest)
  else
    match rest with
    | '0' :: next :: after =>
      if next.isDigit then .wrong rest
      else if (next == 'x' || next == 'X') && after.head?.any Token.isHex then
        readHex [sign, '0', next] after
      else readNumber isMarked rest.length draft rest
    | _ => readNumber isMarked rest.length draft rest

/-- Reads a number that begins with a digit. -/
def readUnsigned (first : Char) (rest : List Char) : Reading :=
  let draft : NumberDraft := { isReal := false, isRelaxed := false, read := [first] }
  match first, rest with
  | '0', next :: after =>
    if next.isDigit then .wrong rest
    else if (next == 'x' || next == 'X') && after.head?.any Token.isHex then
      readHex ['0', next] after
    else readNumber false rest.length draft rest
  | _, _ => readNumber false rest.length draft rest

/-! ## Words -/

/-- The words for documents, with whether they are plain.  Plain ones are written in small
letters. -/
def words : List (String × Bool × Document) :=
  [("true", true, truth true), ("false", true, truth false), ("null", true, null),
    ("inf", false, number true false "9e999".toList),
    ("infinity", false, number true false "9e999".toList),
    ("nan", false, null), ("qnan", false, null), ("snan", false, null)]

/-- Reads a word for a document. -/
def readWord (characters : List Char) : Reading :=
  let isHere (word : String) (isPlain : Bool) : Bool :=
    (if isPlain then word.toList.isPrefixOf characters else begins word characters) &&
      !(characters.drop word.length).head?.any Char.isAlphanum
  match words.find? fun (word, isPlain, _) => isHere word isPlain with
  | some (word, isPlain, document) =>
    .found document (!isPlain) (characters.drop word.length)
  | none => .wrong characters

/-- Whether a character can stand in a name without quotes. -/
def continuesName (character : Char) : Bool :=
  character.isAlphanum || character == '_' || character == '$' ||
    decide (0x80 ≤ character.toNat)

/-- The content of a name without quotes, in which characters may be escaped, and the rest. -/
def readName : List Char → List Char × Bool × List Char
  | [] => ([], false, [])
  | character :: rest =>
    if character == '\\' && rest.head? == some 'u' && (hexFour? (rest.drop 1)).isSome then
      let (read, _, rest) := readName rest
      (character :: read, true, rest)
    else if continuesName character && !isRelaxedBlank character then
      let (read, isEscaped, rest) := readName rest
      (character :: read, isEscaped, rest)
    else ([], false, character :: rest)

/-- A name without quotes at the front of characters. -/
def nameAt? (characters : List Char) : Option (Label × List Char) :=
  match readName characters with
  | ([], _, _) => none
  | (first :: read, isEscaped, rest) =>
    if first.isDigit then none
    else some (⟨if isEscaped then .escaped else .plain, first :: read⟩, rest)

/-! ## Nesting -/

/-- How deep documents can be nested. -/
def maxDepth : Nat := 1000

/-- What comes after a part: a mark, if one comes. -/
def markAfter (characters : List Char) : Option (Char × Bool × List Char) :=
  let (isRelaxed, rest) := skipBlanks characters
  rest.head?.map (·, isRelaxed, rest.drop 1)

mutual

/-- Reads a document, up to a depth and in at most as many steps as given. -/
def read (depth : Nat) : Nat → List Char → Reading
  | 0, characters => .wrong characters
  | fuel + 1, characters =>
    match skipBlanks characters with
    | (_, []) => .nothing
    | (isRelaxed, first :: rest) =>
      let noted : Reading → Reading
        | .found document relaxed rest => .found document (relaxed || isRelaxed) rest
        | reading => reading
      match first with
      | '\x00' => .nothing
      | '}' | ']' | ',' | ':' => .mark first isRelaxed (first :: rest)
      | '[' =>
        if depth = 0 then .wrong (first :: rest)
        else noted (readItems (depth - 1) fuel [] false rest)
      | '{' =>
        if depth = 0 then .wrong (first :: rest)
        else noted (readMembers (depth - 1) fuel [] false rest)
      | '\x22' | '\x27' =>
        match readText first .plain [] rest with
        | .ok (label, rest) =>
          noted (.found (.text label) (first == '\x27' || label.wording == .relaxed) rest)
        | .error wrong => .wrong wrong
      | '+' | '-' => noted (readSigned first rest)
      | '.' =>
        if rest.head?.any Char.isDigit then
          noted (readNumber true rest.length
            { isReal := true, isRelaxed := true, read := ['.'] } rest)
        else .wrong (first :: rest)
      | first =>
        if first.isDigit then noted (readUnsigned first rest)
        else noted (readWord (first :: rest))

/-- Reads the items of an array after those before. -/
def readItems (depth : Nat) : Nat → List Document → Bool → List Char → Reading
  | 0, _, _, characters => .wrong characters
  | fuel + 1, before, isRelaxed, characters =>
    match read depth fuel characters with
    | .found document relaxed rest =>
      let isRelaxed := isRelaxed || relaxed
      match markAfter rest with
      | some (',', relaxed, rest) =>
        readItems depth fuel (document :: before) (isRelaxed || relaxed) rest
      | some (']', relaxed, rest) =>
        .found (.array (document :: before).reverse) (isRelaxed || relaxed) rest
      | _ => .wrong (rest.dropWhile isBlank)
    | .mark ']' relaxed marked =>
      .found (.array before.reverse) (isRelaxed || relaxed || !before.isEmpty) (marked.drop 1)
    | .mark _ _ _ => .wrong characters
    | .nothing => .wrong characters
    | .wrong wrong => .wrong wrong

/-- Reads the members of an object after those before. -/
def readMembers (depth : Nat) : Nat → List Member → Bool → List Char → Reading
  | 0, _, _, characters => .wrong characters
  | fuel + 1, before, isRelaxed, characters =>
    let after (label : Label) (isRelaxed : Bool) (rest : List Char) : Reading :=
      match markAfter rest with
      | some (':', relaxed, rest) =>
        match read depth fuel rest with
        | .found document more rest =>
          let isRelaxed := isRelaxed || relaxed || more
          match markAfter rest with
          | some (',', relaxed, rest) =>
            readMembers depth fuel (⟨label, document⟩ :: before) (isRelaxed || relaxed) rest
          | some ('}', relaxed, rest) =>
            .found (.object ((⟨label, document⟩ : Member) :: before).reverse)
              (isRelaxed || relaxed) rest
          | _ => .wrong (rest.dropWhile isBlank)
        | .wrong wrong => .wrong wrong
        | _ => .wrong rest
      | _ => .wrong (rest.dropWhile isBlank)
    match read depth fuel characters with
    | .found (.text label) relaxed rest => after label (isRelaxed || relaxed) rest
    | .found _ _ _ => .wrong characters
    | .mark '}' relaxed marked =>
      .found (.object before.reverse) (isRelaxed || relaxed || !before.isEmpty) (marked.drop 1)
    | _ =>
      let start := (skipBlanks characters).2
      match nameAt? start with
      | some (label, rest) => after label true rest
      | none => .wrong start

end

/-- The document that characters write, with whether it is in the relaxed form; or how many
characters are left where something is wrong. -/
def ofChars (characters : List Char) : Except Nat (Document × Bool) :=
  let characters := characters.takeWhile (· != '\x00')
  match read maxDepth (2 * characters.length + 2) characters with
  | .found document isRelaxed rest =>
    match skipBlanks rest with
    | (relaxed, []) => .ok (document, isRelaxed || relaxed)
    | (_, wrong) => .error wrong.length
  | .mark _ _ characters | .wrong characters => .error characters.length
  | .nothing => .error characters.length

end SchemaPlan.Relational.Document
