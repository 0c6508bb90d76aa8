import SchemaPlan.Relational.Calendar.Basic

/-!
# Texts of points in time

A point in time is written as a date, as a time of day or as both.  A time of day may have a zone
behind it, which is a number of hours and minutes by which it is ahead.
-/

set_option autoImplicit false

namespace SchemaPlan.Relational.Dating

/-! ## Parts -/

/-- The number of some digits at the front of characters within bounds, and the rest. -/
def number? (count least greatest : Nat) (characters : List Char) :
    Option (Nat × List Char) :=
  let digits := characters.take count
  let value := Numeral.digitsValue digits
  if digits.length = count ∧ digits.all Char.isDigit ∧ least ≤ value ∧ value ≤ greatest then
    some (value, characters.drop count)
  else none

/-- What follows a character at the front. -/
def after? (mark : Char) : List Char → Option (List Char)
  | [] => none
  | character :: rest => if character == mark then some rest else none

/-- Two numbers of two digits with a colon between them, and the rest. -/
def pair? (greatest : Nat) (characters : List Char) : Option ((Nat × Nat) × List Char) := do
  let (hours, rest) ← number? 2 0 greatest characters
  let (minutes, rest) ← number? 2 0 59 (← after? ':' rest)
  return ((hours, minutes), rest)

/-- The characters after the blanks in front of them. -/
def unpadded (characters : List Char) : List Char := characters.dropWhile Numeral.isPlainBlank

/-! ## Times of day -/

/-- A time of day with its zone. -/
structure Clock where
  time : TimeOfDay
  zone : Int := 0
  isUniversal : Bool := false

/-- The zone at the end of a time of day. -/
def zone? (characters : List Char) : Option (Int × Bool) :=
  match unpadded characters with
  | [] => some (0, false)
  | mark :: rest =>
    if mark == 'Z' || mark == 'z' then if (unpadded rest).isEmpty then some (0, true) else none
    else if mark == '+' || mark == '-' then do
      let ((hours, minutes), rest) ← pair? 14 rest
      let ahead : Int := hours * 60 + minutes
      if !(unpadded rest).isEmpty then failure
      return (if mark == '-' then -ahead else ahead, ahead = 0)
    else none

/-- The part of a second that digits tell. -/
def fraction (digits : List Char) : Float :=
  let (value, scale) := digits.foldl (fun (value, scale) digit =>
    (value * 10 + Float.ofNat (Numeral.digitValue digit), scale * 10)) ((0 : Float), (1 : Float))
  value / scale

/-- The seconds after the minutes of a time of day, and the rest. -/
def seconds? (characters : List Char) : Option (Float × List Char) :=
  match after? ':' characters with
  | none => some (0, characters)
  | some rest => do
    let (whole, rest) ← number? 2 0 59 rest
    let digits := ((after? '.' rest).getD []).takeWhile Char.isDigit
    if digits.isEmpty then return (Float.ofNat whole, rest)
    return (Float.ofNat whole + fraction digits, rest.drop (digits.length + 1))

/-- The time of day that characters write. -/
def clock? (characters : List Char) : Option Clock := do
  let ((hours, minutes), rest) ← pair? 24 characters
  let (seconds, rest) ← seconds? rest
  let (zone, isUniversal) ← zone? rest
  return { time := ⟨hours * 60 + minutes, seconds⟩, zone, isUniversal }

/-- The point in time of a time of day, given its date. -/
def Clock.moment (clock : Clock) (date : Option Date) : Timestamp where
  date? := date
  time? := some clock.time
  zone := clock.zone
  isUniversal := clock.isUniversal

/-! ## Dates -/

/-- The date at the front of characters, and the rest. -/
def date? (characters : List Char) : Option (Date × List Char) := do
  let (isNegative, unsigned) := match characters with
    | '-' :: rest => (true, rest)
    | characters => (false, characters)
  let (year, rest) ← number? 4 0 14712 unsigned
  let (month, rest) ← number? 2 1 12 (← after? '-' rest)
  let (day, rest) ← number? 2 1 31 (← after? '-' rest)
  return (⟨if isNegative then -year else year, month, day⟩, rest)

/-- The point in time of a date that characters write, with a time of day if there is one. -/
def ofDate? (characters : List Char) : Option Timestamp := do
  let (date, rest) ← date? characters
  let rest := rest.dropWhile fun next => Numeral.isPlainBlank next || next == 'T'
  let moment ← match clock? rest with
    | some clock => some (clock.moment (some date))
    | none => if rest.isEmpty then some { date? := some date } else none
  let moment := { moment with excess := date.excess }
  if moment.zone = 0 then return moment else moment.settled

/-! ## Points in time -/

/-- Whether characters are a word, in any case. -/
def isWord (word : String) (characters : List Char) : Bool :=
  Text.sameIgnoringCase (String.ofList characters) word

/-- Whether characters ask for fractions of seconds. -/
def isFineWord (characters : List Char) : Bool :=
  isWord "subsec" characters || isWord "subsecond" characters

/-- The number that characters stand for as a whole, with blanks around it. -/
def real? (characters : List Char) : Option Float :=
  (Value.ofChars characters).exactNumber?.map Value.floatOf

/-- The point in time that characters write. -/
def moment? (characters : List Char) : Option Timestamp :=
  ((ofDate? characters).or ((clock? characters).map (·.moment none))).or <|
    if isWord "now" characters then some .current
    else
      match real? characters with
      | some number => some (.ofNumber number)
      | none =>
        if isFineWord characters then some { Timestamp.current with isFine := true } else none

end SchemaPlan.Relational.Dating
