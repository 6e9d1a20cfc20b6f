import TaggedConfig.DateTime.Calendar

/-!
# Moments

A moment is a number of seconds and nanoseconds since the beginning of 1970, seen at a distance from
universal time.  A leap second is the continuation of the second before it: its nanoseconds count on
beyond a thousand million.
-/

namespace TaggedConfig

/-- The distance of a clock from universal time. -/
inductive Zone where
  | universal
  /-- Seconds east of Greenwich. -/
  | east (seconds : Int)
  deriving DecidableEq, Inhabited, Repr

def Zone.seconds : Zone → Int
  | .universal => 0
  | .east seconds => seconds

/-- A moment as a clock shows it. -/
structure Moment where
  /-- Seconds since the beginning of 1970, without leap seconds. -/
  seconds : Int
  /-- Nanoseconds; those of a leap second are added to a whole second. -/
  nanoseconds : Nat
  zone : Zone
  deriving DecidableEq, Inhabited, Repr

namespace Moment

def localSeconds (moment : Moment) : Int := moment.seconds + moment.zone.seconds

/-- The day that the calendar beside the clock shows. -/
def days (moment : Moment) : Int := moment.localSeconds / 86400

def secondOfDay (moment : Moment) : Nat := (moment.localSeconds % 86400).toNat

def date (moment : Moment) : Date := .ofDays moment.days

def weekday (moment : Moment) : Weekday := .ofDays moment.days

def hour (moment : Moment) : Nat := moment.secondOfDay / 3600

def hourOnFace (moment : Moment) : Nat := (moment.hour + 11) % 12 + 1

def minute (moment : Moment) : Nat := moment.secondOfDay / 60 % 60

def second (moment : Moment) : Nat := moment.secondOfDay % 60

def microseconds (moment : Moment) : Nat := moment.nanoseconds / 1000

def writtenSecond (moment : Moment) : Nat := moment.second + moment.nanoseconds / 1000000000

def writtenNanoseconds (moment : Moment) : Nat := moment.nanoseconds % 1000000000

end Moment

end TaggedConfig
