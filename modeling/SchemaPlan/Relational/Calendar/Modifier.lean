import SchemaPlan.Relational.Calendar.Reader

/-!
# Changes of points in time

A modifier changes a point in time: it moves it by an amount of some unit, takes it to the beginning
of a month, a year or a day, or says what the number means that it has been given as.  Months have
no fixed length, so a date moved by months may be one that its month does not have.
-/

set_option autoImplicit false

namespace SchemaPlan.Relational

/-- A unit of time. -/
inductive TimeUnit where
  | second
  | minute
  | hour
  | day
  | month
  | year
deriving DecidableEq, Repr

namespace TimeUnit

/-- All units. -/
def all : List TimeUnit := [second, minute, hour, day, month, year]

/-- The name of a unit. -/
def name : TimeUnit → String
  | second => "second"
  | minute => "minute"
  | hour => "hour"
  | day => "day"
  | month => "month"
  | year => "year"

/-- The number of seconds of a unit; months and years count as long as most of them are. -/
def seconds : TimeUnit → Float
  | second => 1
  | minute => 60
  | hour => 3600
  | day => 86400
  | month => 2592000
  | year => 31536000

/-- The amount of a unit that would move any point in time too far. -/
def bound : TimeUnit → Float
  | second => 464270000000000
  | minute => 7737900000000
  | hour => 128970000000
  | day => 5373485
  | month => 176546
  | year => 14713

/-- The number of months of a unit of which months are parts. -/
def months? : TimeUnit → Option Int
  | month => some 1
  | year => some 12
  | _ => none

end TimeUnit

/-- A change of a point in time. -/
inductive Modifier where
  /-- The number counts seconds if it is too great for days. -/
  | automatic
  /-- The number counts days. -/
  | dayCount
  /-- The number counts seconds since the beginning of the year 1970. -/
  | secondCount
  /-- A day that the month does not have belongs to the next month. -/
  | ceiling
  /-- A day that the month does not have is the last one of the month. -/
  | floor
  | localTime
  | universalTime
  | fine
  /-- To the next day of a week that has a number, counted from Sunday. -/
  | weekday (number : Int)
  | startOf (unit : TimeUnit)
  | shift (isBackward : Bool) (years months days : Nat) (clock : Option Dating.Clock)
  | shiftClock (isBackward : Bool) (clock : Dating.Clock)
  | add (amount : Float) (unit : TimeUnit)

namespace Modifier

/-! ## Reading -/

/-- The unit that characters name, of one or of several. -/
def unit? (characters : List Char) : Option TimeUnit :=
  let name := if characters.getLast?.any fun last => last == 's' || last == 'S' then
    characters.dropLast else characters
  if 3 ≤ characters.length ∧ characters.length ≤ 10 then
    TimeUnit.all.find? fun unit => Dating.isWord unit.name name
  else none

/-- The years, months and days at the front of characters, and the rest. -/
def dates? (characters : List Char) : Option ((Nat × Nat × Nat) × List Char) := do
  let count := (characters.takeWhile (· != '-')).length
  if count < 4 || 5 < count then failure
  let (years, rest) ← Dating.number? count 0 14712 characters
  let (months, rest) ← Dating.number? 2 0 11 (← Dating.after? '-' rest)
  let (days, rest) ← Dating.number? 2 0 30 (← Dating.after? '-' rest)
  return ((years, months, days), rest)

/-- The shift by a number of years, months and days that characters write after their sign, with a
time of day if there is one. -/
def shift? (isBackward : Bool) (characters : List Char) : Option Modifier := do
  let ((years, months, days), rest) ← dates? characters
  match rest with
  | [] => return .shift isBackward years months days none
  | blank :: rest =>
    if !Numeral.isPlainBlank blank then failure
    return .shift isBackward years months days (some (← Dating.clock? rest))

/-- The amount of a unit that characters write. -/
def amount? (characters : List Char) : Option Modifier := do
  let number := characters.takeWhile (!Numeral.isPlainBlank ·)
  let amount ← Dating.real? number
  let unit ← unit? (Dating.unpadded (characters.drop number.length))
  if amount ≤ -unit.bound || unit.bound ≤ amount then failure
  return .add amount unit

/-- The move that characters write, which begin with a sign or a digit. -/
def move? (characters : List Char) : Option Modifier :=
  let (isBackward, unsigned) := Numeral.splitSign characters
  let isSigned := unsigned.length < characters.length
  let number := characters.takeWhile fun next => next != ':' && !Numeral.isPlainBlank next
  match if isSigned then shift? isBackward unsigned else none with
  | some modifier => some modifier
  | none =>
    if (characters.drop number.length).head? == some ':' then
      (Dating.clock? unsigned).map (.shiftClock isBackward)
    else amount? characters

/-- The day of the week that characters write. -/
def weekday? (characters : List Char) : Option Modifier := do
  let number ← Dating.real? characters
  if number < 0 || 7 ≤ number || Float.ofInt (Value.truncated number) != number then failure
  return .weekday (Value.truncated number)

/-- The modifiers that are words. -/
def words : List (String × Modifier) :=
  [("auto", automatic), ("julianday", dayCount), ("unixepoch", secondCount), ("ceiling", ceiling),
    ("floor", floor), ("localtime", localTime), ("utc", universalTime), ("subsec", fine),
    ("subsecond", fine), ("start of day", startOf .day), ("start of month", startOf .month),
    ("start of year", startOf .year)]

/-- The modifier that characters write. -/
def ofChars? (characters : List Char) : Option Modifier :=
  match words.find? fun (word, _) => Dating.isWord word characters with
  | some (_, modifier) => some modifier
  | none =>
    let word := "weekday ".toList
    if Dating.isWord "weekday " (characters.take word.length) then
      weekday? (characters.drop word.length)
    else
      match characters with
      | first :: _ =>
        if first == '+' || first == '-' || first.isDigit then move? characters else none
      | [] => none

/-! ## Changes -/

/-- A point in time whose number counts seconds since the beginning of the year 1970. -/
def ofSeconds (moment : Timestamp) (number : Float) : Timestamp :=
  { moment.withInstant (Value.truncated (number * 1000 + Float.ofInt Timestamp.epoch + 0.5)) with
    number? := none }

/-- What a number means that is too great for days or negative. -/
def settle (moment : Timestamp) : Timestamp :=
  match moment.number?, moment.instant? with
  | some number, none =>
    if -210866760000 ≤ number && number ≤ 253402300799 then ofSeconds moment number else moment
  | _, _ => { moment with number? := none }

/-- A point in time moved to a date, without a change of the time of day. -/
def movedTo (moment : Timestamp) (date : Date) : Option Timestamp :=
  { moment with date? := some date, instant? := none, excess := date.excess }.settled

/-- A point in time at the beginning of a day, a month or a year. -/
def beginning (unit : TimeUnit) (moment : Timestamp) : Option Timestamp := do
  if moment.instant?.isNone && moment.date?.isNone && moment.time?.isNone then failure
  let moment ← moment.dated
  let date := moment.date
  let date := match unit with
    | .year => { date with month := 1, day := 1 }
    | .month => { date with day := 1 }
    | _ => date
  return { moment with
    instant? := none, date? := some date, time? := some {}, zone := 0, number? := none }

/-- The milliseconds by which a time of day shifts. -/
def span (isBackward : Bool) (clock : Dating.Clock) : Int :=
  let span := (clock.time.milliseconds - clock.zone * 60000) % Date.dayLength
  if isBackward then -span else span

/-- A point in time moved by an amount of a unit. -/
def added (moment : Timestamp) (amount : Float) (unit : TimeUnit) : Option Timestamp := do
  let moment ← moment.settled
  let half : Float := if amount < 0 then -0.5 else 0.5
  let parts (amount : Float) : Int := Value.truncated (amount * 1000 * unit.seconds + half)
  let moment := { moment with excess := 0 }
  match unit.months? with
  | none => moment.later (parts amount)
  | some months =>
    let whole := Value.truncated amount
    let moment ← moment.shown
    let moment ← movedTo moment (moment.date.addMonths (whole * months))
    moment.later (parts (amount - Float.ofInt whole))

/-- A point in time on the next day of a week that has a number. -/
def onWeekday (moment : Timestamp) (number : Int) : Option Timestamp := do
  let moment ← moment.shown
  let moment ← { moment with zone := 0, instant? := none }.settled
  let day := Date.afterSunday moment.instant
  let days := if number < day then number - day + 7 else number - day
  moment.later (days * Date.dayLength)

/-- A point in time with a change, which is one of several that has a place among them. -/
def apply (modifier : Modifier) (place : Nat) (moment : Timestamp) : Option Timestamp := do
  match modifier with
  | .automatic => if place = 0 then return settle moment else failure
  | .dayCount =>
    if place ≠ 0 || moment.instant?.isNone || moment.number?.isNone then failure
    return { moment with number? := none }
  | .secondCount =>
    let number ← moment.number?
    let limit := number * 1000 + Float.ofInt Timestamp.epoch
    if place ≠ 0 || limit < 0 || 464269060800000 ≤ limit then failure
    return ofSeconds moment number
  | .ceiling => return { ← moment.later 0 with excess := 0 }
  | .floor => moment.later (-moment.excess * Date.dayLength)
  | .localTime =>
    let moment ← moment.settled
    if !Timestamp.isDated moment.instant then failure
    return { moment.withInstant moment.instant with number? := none, isUniversal := false }
  | .universalTime =>
    if moment.isUniversal then return moment
    return { instant? := (← moment.settled).instant?, isUniversal := true }
  | .fine => return { moment with isFine := true }
  | .weekday number => onWeekday moment number
  | .startOf unit => beginning unit moment
  | .shift isBackward years months days clock =>
    let moment ← moment.shown
    let date := moment.date
    let sign : Int := if isBackward then -1 else 1
    let date : Date := { date with year := date.year + sign * years }
    let moment ← movedTo moment (date.addMonths (sign * months))
    let clock := (clock.map (span isBackward)).getD 0
    moment.later (sign * days * Date.dayLength + clock)
  | .shiftClock isBackward clock => moment.later (span isBackward clock)
  | .add amount unit => added moment amount unit

end Modifier

end SchemaPlan.Relational
