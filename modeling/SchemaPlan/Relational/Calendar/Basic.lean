import SchemaPlan.Relational.Number

/-!
# Points in time

A point in time is a number of milliseconds that have gone by since the noon with which the count of
days begins, in the year before which there are 4713 others.  Dates are those of the calendar of
today, also before it was made.  What is known of a point in time may be its number, its date or its
time of day, and each of them is found from the others when it is needed.
-/

set_option autoImplicit false

namespace SchemaPlan.Relational

/-! ## Dates -/

/-- A date.  Its day may be one that the month does not have, which then belongs to the next one. -/
structure Date where
  year : Int
  month : Int
  day : Int
deriving DecidableEq, Repr

namespace Date

/-- The number of milliseconds in a day. -/
def dayLength : Int := 86400000

/-- The date that a time of day without a date belongs to. -/
def ofNone : Date := ⟨2000, 1, 1⟩

/-- Whether the date is one that can be counted. -/
def isCounted (date : Date) : Bool := decide (-4713 ≤ date.year ∧ date.year ≤ 9999)

/-- The point in time at which a date begins. -/
def start (date : Date) : Int :=
  let (year, month) := if date.month ≤ 2 then (date.year - 1, date.month + 12)
    else (date.year, date.month)
  let century := Int.tdiv year 100
  let days := 36525 * (year + 4716) / 100 + 306001 * (month + 1) / 10000 + date.day + 2 - century +
    Int.tdiv century 4
  (2 * days - 3049) * (dayLength / 2)

/-- The number of the day of a point in time. -/
def dayOf (instant : Int) : Int := (instant + dayLength / 2) / dayLength

/-- The date of a point in time. -/
def ofInstant (instant : Int) : Date :=
  let day := dayOf instant
  let century := Int.tdiv (4 * day - 7468865) 146097
  let shifted := day + 1525 + century - Int.tdiv century 4
  let year := (20 * shifted - 2442) / 7305
  let rest := shifted - 36525 * year / 100
  let month := 10000 * rest / 306001
  let day := rest - 306001 * month / 10000
  let month := if month < 14 then month - 1 else month - 13
  ⟨if 2 < month then year - 4716 else year - 4715, month, day⟩

/-- Whether a year has a day more. -/
def isLeap (year : Int) : Bool := year % 4 = 0 && (year % 100 ≠ 0 || year % 400 = 0)

/-- By how many days a date lies after the end of its month. -/
def excess (date : Date) : Int :=
  if date.day ≤ 28 || [1, 3, 5, 7, 8, 10, 12].contains date.month then 0
  else if date.month ≠ 2 then if date.day = 31 then 1 else 0
  else if isLeap date.year then date.day - 29
  else date.day - 28

/-- The date some months later, in the same year or another one. -/
def addMonths (date : Date) (months : Int) : Date :=
  let month := date.month + months
  let years := Int.fdiv (month - 1) 12
  { date with year := date.year + years, month := month - 12 * years }

/-- The number of days between a day and the Monday before it. -/
def afterMonday (instant : Int) : Int := dayOf instant % 7

/-- The number of days between a day and the Sunday before it. -/
def afterSunday (instant : Int) : Int := (dayOf instant + 1) % 7

end Date

/-! ## Times of day -/

/-- A time of day. -/
structure TimeOfDay where
  /-- The whole minutes since the day began. -/
  minutes : Int := 0
  /-- The seconds of the last minute. -/
  seconds : Float := 0

namespace TimeOfDay

/-- The milliseconds since the day began. -/
def milliseconds (time : TimeOfDay) : Int :=
  time.minutes * 60000 + Value.truncated (time.seconds * 1000 + 0.5)

/-- The time of day of a point in time. -/
def ofInstant (instant : Int) : TimeOfDay :=
  let past := Int.tmod (instant + Date.dayLength / 2) Date.dayLength
  ⟨Int.tdiv past 60000, Float.ofInt (Int.tmod past 60000) / 1000⟩

end TimeOfDay

/-! ## Points in time -/

/-- What is known of a point in time. -/
structure Timestamp where
  instant? : Option Int := none
  date? : Option Date := none
  time? : Option TimeOfDay := none
  /-- By how many minutes the date and the time of day are ahead. -/
  zone : Int := 0
  /-- The number that the point in time has been given as, while its meaning is open. -/
  number? : Option Float := none
  /-- By how many days the date lies after the end of the month that was meant. -/
  excess : Int := 0
  /-- Whether fractions of seconds are shown. -/
  isFine : Bool := false
  /-- Whether it is known that the time of day is the same everywhere. -/
  isUniversal : Bool := false

namespace Timestamp

/-- Whether a number of milliseconds is that of a point in time that has a date. -/
def isDated (instant : Int) : Bool := decide (0 ≤ instant ∧ instant ≤ 464269060799999)

/-- The point in time of the beginning of the year 1970. -/
def epoch : Int := 210866760000000

/-- The point in time that is meant by the current one.  No clock is looked at. -/
def current : Timestamp := { instant? := some (epoch + 946684800000), isUniversal := true }

/-- The point in time of a number of milliseconds. -/
def withInstant (moment : Timestamp) (instant : Int) : Timestamp :=
  { moment with instant? := some instant, date? := none, time? := none, zone := 0 }

/-- The point in time that a number stands for, which is a number of days if it is neither negative
nor too great for that. -/
def ofNumber (number : Float) : Timestamp where
  number? := some number
  instant? :=
    if 0 ≤ number && number < 5373484.5 then some (Value.truncated (number * 86400000 + 0.5))
    else none

/-- A point in time of which the number is known. -/
def settled (moment : Timestamp) : Option Timestamp :=
  let date := moment.date?.getD .ofNone
  if moment.instant?.isSome then some moment
  else if !date.isCounted || moment.number?.isSome then none
  else
    match moment.time? with
    | none => some { moment with instant? := some date.start }
    | some time =>
      let instant := date.start + time.milliseconds
      if moment.zone = 0 then some { moment with instant? := some instant }
      else some { moment.withInstant (instant - moment.zone * 60000) with isUniversal := true }

/-- The number of a point in time. -/
def instant (moment : Timestamp) : Int := moment.instant?.getD 0

/-- The date of a point in time. -/
def date (moment : Timestamp) : Date := moment.date?.getD .ofNone

/-- The time of day of a point in time. -/
def time (moment : Timestamp) : TimeOfDay := moment.time?.getD {}

/-- A point in time of which the date is known. -/
def dated (moment : Timestamp) : Option Timestamp :=
  match moment.date?, moment.instant? with
  | some _, _ => some moment
  | none, none => some { moment with date? := some .ofNone }
  | none, some instant =>
    if isDated instant then some { moment with date? := some (.ofInstant instant) } else none

/-- A point in time of which the date and the time of day are known. -/
def shown (moment : Timestamp) : Option Timestamp := do
  let moment ← moment.dated
  if moment.time?.isSome then return moment
  let moment ← moment.settled
  return { moment with time? := some (.ofInstant moment.instant), number? := none }

/-- A point in time some milliseconds later. -/
def later (moment : Timestamp) (milliseconds : Int) : Option Timestamp := do
  let moment ← moment.settled
  return moment.withInstant (moment.instant + milliseconds)

/-- The number of milliseconds since the beginning of the year 1970. -/
def sinceEpoch (moment : Timestamp) : Int := moment.instant - epoch

/-- The number of days since the first one of the year. -/
def dayOfYear (moment : Timestamp) : Int :=
  let first : Date := { moment.date with month := 1, day := 1 }
  Date.dayOf (moment.instant - moment.time.milliseconds - first.start)

end Timestamp

end SchemaPlan.Relational
