import SchemaPlan.Relational.Calendar.Modifier
import SchemaPlan.Relational.Function.Format

/-!
# Functions of points in time

The functions take a point in time and changes of it and return its date, its time of day or a
number.  A format says in which way the parts of a point in time are written.
-/

set_option autoImplicit false

namespace SchemaPlan.Relational.Function.Calendar

/-! ## Points in time -/

/-- The characters of a text up to one that ends it, unless the value is missing. -/
def chars? (value : Value) : Option (List Char) :=
  if value == .null then none else some (value.chars.takeWhile (· != '\x00'))

/-- The point in time that a value stands for. -/
def read? (value : Value) : Option Timestamp :=
  match value with
  | .integer _ | .real _ => some (.ofNumber value.floatOf)
  | value => (chars? value).bind Dating.moment?

/-- The point in time of some values, of which the first one may be left out and the others are
changes. -/
def moment? : List Value → Option Timestamp
  | [] => some .current
  | first :: changes => do
    let moment ← read? first
    let moment ← changes.zipIdx.foldlM (fun moment (change, place) => do
      (← Modifier.ofChars? (← chars? change)).apply place moment) moment
    let moment ← moment.settled
    if !Timestamp.isDated moment.instant then failure
    let isOpen := changes.isEmpty && moment.date?.any fun date => decide (28 < date.day)
    return if isOpen then { moment with date? := none } else moment

/-! ## Writing -/

/-- A number with zeros before it up to a width. -/
def padded (width : Nat) (number : Int) : List Char :=
  Format.ofWhole { width, isZeroed := true } (if number < 0 then some '-' else none) []
    (toString number.natAbs).toList

/-- A number with blanks before it up to a width of two. -/
def blanked (number : Int) : List Char :=
  Format.ofWhole { width := 2 } (if number < 0 then some '-' else none) []
    (toString number.natAbs).toList

/-- Seconds with a point before the milliseconds. -/
def withFraction (width : Nat) (milliseconds : Int) : List Char :=
  let whole := padded width (milliseconds.natAbs / 1000 : Nat)
  (if milliseconds < 0 then ['-'] else []) ++ whole ++ '.' ::
    padded 3 (milliseconds.natAbs % 1000 : Nat)

/-- A date, with a sign before the year if it is negative. -/
def dateText (date : Date) : List Char :=
  (if date.year < 0 then ['-'] else []) ++ padded 4 date.year.natAbs ++ '-' :: padded 2 date.month
    ++ '-' :: padded 2 date.day

/-- The hours and minutes of a time of day. -/
def minuteText (time : TimeOfDay) : List Char :=
  padded 2 (time.minutes / 60) ++ ':' :: padded 2 (time.minutes % 60)

/-- The whole seconds of a time of day. -/
def secondText (time : TimeOfDay) : List Char := padded 2 (Value.truncated time.seconds)

/-- A time of day, with milliseconds if they are asked for. -/
def clockText (isFine : Bool) (time : TimeOfDay) : List Char :=
  minuteText time ++ ':' ::
    if isFine then withFraction 2 (Value.truncated (time.seconds * 1000 + 0.5))
    else secondText time

/-- The number of days of a point in time. -/
def daysOf (moment : Timestamp) : Float := Float.ofInt moment.instant / 86400000

/-- The point in time of the Thursday in the same week. -/
def thursday (moment : Timestamp) : Timestamp :=
  let instant := moment.instant + (3 - Date.afterMonday moment.instant) * Date.dayLength
  { moment with instant? := some instant, date? := some (.ofInstant instant) }

/-- The hours of a time of day on a clock with twelve of them. -/
def dialHours (time : TimeOfDay) : Int :=
  let hours := time.minutes / 60
  let hours := if 12 < hours then hours - 12 else hours
  if hours = 0 then 12 else hours

/-- What stands for a letter in a format, if it has a meaning. -/
def part? (moment : Timestamp) (letter : Char) : Option (List Char) :=
  let date := moment.date
  let time := moment.time
  let sunday := Date.afterSunday moment.instant
  match letter with
  | 'd' => some (padded 2 date.day)
  | 'e' => some (blanked date.day)
  | 'f' =>
    some (Format.ofReal { width := 6, isZeroed := true, precision := some 3 } .fixed 'e'
      (if 59.999 < time.seconds then 59.999 else time.seconds))
  | 'F' => some (padded 4 date.year ++ '-' :: padded 2 date.month ++ '-' :: padded 2 date.day)
  | 'g' => some (padded 2 (Int.tmod (thursday moment).date.year 100))
  | 'G' => some (padded 4 (thursday moment).date.year)
  | 'H' => some (padded 2 (time.minutes / 60))
  | 'k' => some (blanked (time.minutes / 60))
  | 'I' => some (padded 2 (dialHours time))
  | 'l' => some (blanked (dialHours time))
  | 'j' => some (padded 3 (moment.dayOfYear + 1))
  | 'J' => some (Format.ofReal { precision := some 16 } .general 'e' (daysOf moment))
  | 'm' => some (padded 2 date.month)
  | 'M' => some (padded 2 (time.minutes % 60))
  | 'p' => some (if 720 ≤ time.minutes then ['P', 'M'] else ['A', 'M'])
  | 'P' => some (if 720 ≤ time.minutes then ['p', 'm'] else ['a', 'm'])
  | 'R' => some (minuteText time)
  | 's' =>
    some (if moment.isFine then withFraction 1 moment.sinceEpoch
      else (toString (moment.instant / 1000 - Timestamp.epoch / 1000)).toList)
  | 'S' => some (secondText time)
  | 'T' => some (clockText false time)
  | 'u' => some (padded 1 (if sunday = 0 then 7 else sunday))
  | 'w' => some (padded 1 sunday)
  | 'U' => some (padded 2 ((moment.dayOfYear - sunday + 7) / 7))
  | 'V' => some (padded 2 ((thursday moment).dayOfYear / 7 + 1))
  | 'W' => some (padded 2 ((moment.dayOfYear - Date.afterMonday moment.instant + 7) / 7))
  | 'Y' => some (padded 4 date.year)
  | '%' => some ['%']
  | _ => none

/-- A format with the parts of a point in time in its places. -/
def formatted? (moment : Timestamp) : List Char → Option (List Char)
  | [] => some []
  | '%' :: letter :: rest => do return (← part? moment letter) ++ (← formatted? moment rest)
  | ['%'] => none
  | character :: rest => (formatted? moment rest).map (character :: ·)

/-! ## Differences -/

/-- The whole months from one point in time to another one that is not before it, or back, with what
is left of the time between. -/
def monthsBetween (isBackward : Bool) (target : Int) (base : Date) (clock : Int) :
    Nat → Int → Int × Int
  | 0, months => (months, 0)
  | fuel + 1, months =>
    let reached := (base.addMonths (if isBackward then -months else months)).start + clock
    let left := if isBackward then reached - target else target - reached
    if left < 0 then monthsBetween isBackward target base clock fuel (months - 1)
    else (months, left)

/-- The text of the time between two points in time. -/
def difference? (first second : Timestamp) : Option (List Char) := do
  let first ← first.shown
  let second ← second.shown
  let isBackward := decide (first.instant < second.instant)
  let months := (first.date.year - second.date.year) * 12 + first.date.month - second.date.month
  let (months, left) := monthsBetween isBackward first.instant second.date second.time.milliseconds 4
    (if isBackward then -months else months)
  return (if isBackward then '-' else '+') :: padded 4 (months / 12) ++
    '-' :: padded 2 (months % 12) ++ '-' :: padded 2 (left / Date.dayLength) ++
    ' ' :: clockText true (.ofInstant (left - Date.dayLength / 2))

/-! ## Functions -/

/-- A value of a point in time, which is missing if there is none. -/
def ofMoment (values : List Value) (write : Timestamp → Value) : Value :=
  match (moment? values).bind Timestamp.shown with
  | some moment => write moment
  | none => .null

/-- The value of a function of points in time, if there is one of this name for as many
arguments. -/
def invoke? (function : String) (arguments : List Value) : Option Value :=
  match function, arguments with
  | "DATE", values => some (ofMoment values fun moment => .ofChars (dateText moment.date))
  | "TIME", values =>
    some (ofMoment values fun moment => .ofChars (clockText moment.isFine moment.time))
  | "DATETIME", values => some (ofMoment values fun moment =>
      .ofChars (dateText moment.date ++ ' ' :: clockText moment.isFine moment.time))
  | "JULIANDAY", values => some (ofMoment values fun moment => Value.ofFloat (daysOf moment))
  | "UNIXEPOCH", values => some (ofMoment values fun moment =>
      if moment.isFine then Value.ofFloat (Float.ofInt moment.sinceEpoch / 1000)
      else .integer (moment.instant / 1000 - Timestamp.epoch / 1000))
  | "STRFTIME", [] => some .null
  | "STRFTIME", format :: values => some (ofMoment values fun moment =>
      (((chars? format).bind (formatted? moment)).map Value.ofChars).getD .null)
  | "TIMEDIFF", [first, second] =>
    some <| (do
      let written ← difference? (← moment? [first]) (← moment? [second])
      return Value.ofChars written).getD .null
  | "CURRENT_DATE", [] => some (ofMoment [] fun moment => .ofChars (dateText moment.date))
  | "CURRENT_TIME", [] => some (ofMoment [] fun moment => .ofChars (clockText false moment.time))
  | "CURRENT_TIMESTAMP", [] => some (ofMoment [] fun moment =>
      .ofChars (dateText moment.date ++ ' ' :: clockText false moment.time))
  | _, _ => none

end SchemaPlan.Relational.Function.Calendar
