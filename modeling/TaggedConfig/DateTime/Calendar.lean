/-!
# The calendar

Days of the Gregorian calendar, extended to all years, counted from the first of January 1970.  Weeks
belong to the year in which their Thursday lies.
-/

namespace TaggedConfig

structure Date where
  year : Int
  /-- From 1 for January. -/
  month : Nat
  /-- From 1. -/
  day : Nat
  deriving DecidableEq, Inhabited, Repr

inductive Weekday where
  | monday
  | tuesday
  | wednesday
  | thursday
  | friday
  | saturday
  | sunday
  deriving DecidableEq, Inhabited, Repr

namespace Weekday

def sinceMonday : Weekday → Nat
  | .monday => 0
  | .tuesday => 1
  | .wednesday => 2
  | .thursday => 3
  | .friday => 4
  | .saturday => 5
  | .sunday => 6

def sinceSunday (weekday : Weekday) : Nat := (weekday.sinceMonday + 1) % 7

def name : Weekday → String
  | .monday => "Monday"
  | .tuesday => "Tuesday"
  | .wednesday => "Wednesday"
  | .thursday => "Thursday"
  | .friday => "Friday"
  | .saturday => "Saturday"
  | .sunday => "Sunday"

/-- The weekday of a day that is counted from the first of January 1970, a Thursday. -/
def ofDays (days : Int) : Weekday :=
  match ((days + 3) % 7).toNat with
  | 0 => .monday
  | 1 => .tuesday
  | 2 => .wednesday
  | 3 => .thursday
  | 4 => .friday
  | 5 => .saturday
  | _ => .sunday

end Weekday

namespace Date

def isLeapYear (year : Int) : Bool := year % 4 == 0 && (year % 100 != 0 || year % 400 == 0)

def epochFromMarch : Int := 719468

/--
The date of a day that is counted from the first of January 1970.  Years that begin in March have
their leap day at the end; 400 of them have 146097 days.
-/
def ofDays (days : Int) : Date :=
  let fromMarch := days + epochFromMarch
  let era := fromMarch / 146097
  let dayOfEra := (fromMarch % 146097).toNat
  let yearOfEra :=
    (dayOfEra - dayOfEra / 1460 + dayOfEra / 36524 - dayOfEra / 146096) / 365
  let dayOfYear := dayOfEra - (365 * yearOfEra + yearOfEra / 4 - yearOfEra / 100)
  let monthFromMarch := (5 * dayOfYear + 2) / 153
  let day := dayOfYear - (153 * monthFromMarch + 2) / 5 + 1
  let month := if monthFromMarch < 10 then monthFromMarch + 3 else monthFromMarch - 9
  let year := (yearOfEra : Int) + era * 400
  ⟨if month ≤ 2 then year + 1 else year, month, day⟩

def daysBeforeMonth : List Nat := [0, 31, 59, 90, 120, 151, 181, 212, 243, 273, 304, 334]

def dayOfYear (date : Date) : Nat :=
  daysBeforeMonth.getD (date.month - 1) 0 + date.day
    + (if 2 < date.month && isLeapYear date.year then 1 else 0)

def monthNames : List String := [
  "January", "February", "March", "April", "May", "June", "July", "August", "September", "October",
  "November", "December"]

def monthName (date : Date) : String := monthNames.getD (date.month - 1) ""

def quarter (date : Date) : Nat := (date.month - 1) / 3 + 1

end Date

def weekOfDays (days : Int) : Int × Nat :=
  let thursday := Date.ofDays (days - (Weekday.ofDays days).sinceMonday + 3)
  (thursday.year, (thursday.dayOfYear - 1) / 7 + 1)

end TaggedConfig
