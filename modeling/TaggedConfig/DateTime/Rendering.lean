import TaggedConfig.DateTime.Directive

/-!
# Writing a moment

Numbers have a usual width and are padded up to it; years before 0 and after 9999 carry a sign.
-/

namespace TaggedConfig

/-- A number without sign, padded in front. -/
def padded (padding : Padding) (width : Nat) (value : Nat) : String :=
  let digits := Nat.toDigits 10 value
  let missing := width - digits.length
  match padding with
  | .none => String.ofList digits
  | .zeros => String.ofList (List.replicate missing '0' ++ digits)
  | .blanks => String.ofList (List.replicate missing ' ' ++ digits)

/-- A number with a sign, which counts for the width and stands in front of zeros. -/
def paddedWithSign (padding : Padding) (width : Nat) (sign : Char) (value : Nat) : String :=
  let digits := Nat.toDigits 10 value
  let missing := width - digits.length - 1
  match padding with
  | .none => String.ofList (sign :: digits)
  | .zeros => String.ofList (sign :: List.replicate missing '0' ++ digits)
  | .blanks => String.ofList (List.replicate missing ' ' ++ sign :: digits)

def paddedInt (padding : Padding) (width : Nat) (value : Int) : String :=
  if value < 0 then paddedWithSign padding width '-' value.natAbs
  else padded padding width value.natAbs

/-- A year: four digits, or a sign and at least as many. -/
def paddedYear (padding : Padding) (year : Int) : String :=
  if 0 ≤ year ∧ year < 1000 then padded padding 4 year.natAbs
  else if 0 ≤ year ∧ year < 10000 then padded .none 4 year.natAbs
  else paddedWithSign padding 5 (if year < 0 then '-' else '+') year.natAbs

/--
A number below 256 in two places.  From 100 on the tens have no digit, and the characters that follow
the digits stand for them.
-/
def twoPlaces (padding : Padding) (value : Nat) : String :=
  let ones := [Char.ofNat ('0'.toNat + value % 10)]
  let tens := value / 10
  if tens = 0 then
    match padding with
    | .none => String.ofList ones
    | .zeros => String.ofList ('0' :: ones)
    | .blanks => String.ofList (' ' :: ones)
  else String.ofList (Char.ofNat ('0'.toNat + tens) :: ones)

def weekOfYear (dayOfYear daysIntoWeek : Nat) : Nat := (dayOfYear + 6 - daysIntoWeek) / 7

namespace NumericField

def render (field : NumericField) (padding : Padding) (moment : Moment) : String :=
  let date := moment.date
  match field with
  | .year => paddedYear padding date.year
  | .century => twoPlaces padding (date.year / 100 % 256).toNat
  | .yearOfCentury => twoPlaces padding (date.year % 100).toNat
  | .weekYear => paddedYear padding (weekOfDays moment.days).1
  | .weekYearOfCentury => twoPlaces padding ((weekOfDays moment.days).1 % 100).toNat
  | .quarter => padded .none 1 date.quarter
  | .month => twoPlaces padding date.month
  | .day => twoPlaces padding date.day
  | .weekFromSunday =>
      twoPlaces padding (weekOfYear date.dayOfYear moment.weekday.sinceSunday)
  | .weekFromMonday =>
      twoPlaces padding (weekOfYear date.dayOfYear moment.weekday.sinceMonday)
  | .week => twoPlaces padding (weekOfDays moment.days).2
  | .daysSinceSunday => padded .none 1 moment.weekday.sinceSunday
  | .weekdayFromMonday => padded .none 1 (moment.weekday.sinceMonday + 1)
  | .dayOfYear => padded padding 3 date.dayOfYear
  | .hour => twoPlaces padding moment.hour
  | .hourOnFace => twoPlaces padding moment.hourOnFace
  | .minute => twoPlaces padding moment.minute
  | .second => twoPlaces padding moment.writtenSecond
  | .nanosecond => padded padding 9 moment.writtenNanoseconds
  | .timestamp => paddedInt padding 9 moment.seconds

end NumericField

def fractionDigits (digits nanoseconds : Nat) : String :=
  padded .zeros digits (nanoseconds / Nat.pow 10 (9 - digits))

/-- A fraction of a second behind its point, in groups of three digits; nothing for zero. -/
def groupedFraction (nanoseconds : Nat) : String :=
  if nanoseconds = 0 then ""
  else if nanoseconds % 1000000 = 0 then "." ++ fractionDigits 3 nanoseconds
  else if nanoseconds % 1000 = 0 then "." ++ fractionDigits 6 nanoseconds
  else "." ++ fractionDigits 9 nanoseconds

namespace Zone

def sign (zone : Zone) : String := if zone.seconds < 0 then "-" else "+"

/-- A distance up to some precision; minutes are rounded, hours are not. -/
def offset (zone : Zone) (precision : OffsetPrecision) (colons : Bool) : String :=
  let distance := zone.seconds.natAbs
  let colon := if colons then ":" else ""
  match precision with
  | .hours => zone.sign ++ padded .zeros 2 (distance / 3600)
  | .minutes =>
      let minutes := (distance + 30) / 60
      zone.sign ++ padded .zeros 2 (minutes / 60) ++ colon ++ padded .zeros 2 (minutes % 60)
  | .seconds =>
      zone.sign ++ padded .zeros 2 (distance / 3600) ++ colon
        ++ padded .zeros 2 (distance / 60 % 60) ++ colon ++ padded .zeros 2 (distance % 60)

/-- The name of a zone: its distance, unless it is universal time. -/
def name : Zone → String
  | .universal => "UTC"
  | .east seconds =>
      if seconds.natAbs % 60 = 0 then (east seconds).offset .minutes true
      else (east seconds).offset .seconds true

end Zone

namespace Moment

/-- The date, the time and the distance from universal time without blanks. -/
def dateAndTime (moment : Moment) : String :=
  let two := twoPlaces .zeros
  paddedYear .zeros moment.date.year ++ "-" ++ two moment.date.month ++ "-" ++ two moment.date.day
    ++ "T" ++ two moment.hour ++ ":" ++ two moment.minute ++ ":" ++ two moment.writtenSecond
    ++ groupedFraction moment.writtenNanoseconds ++ moment.zone.offset .minutes true

end Moment

def shortName (name : String) : String := String.ofList (name.toList.take 3)

namespace Directive

def render? (moment : Moment) : Directive → Option String
  | .literal text => some text
  | .number field padding => some (field.render padding moment)
  | .shortMonthName => some (shortName moment.date.monthName)
  | .monthName => some moment.date.monthName
  | .shortWeekdayName => some (shortName moment.weekday.name)
  | .weekdayName => some moment.weekday.name
  | .halfDay capital =>
      if moment.hour < 12 then some (if capital then "AM" else "am")
      else some (if capital then "PM" else "pm")
  | .fraction => some (groupedFraction moment.writtenNanoseconds)
  | .fixedFraction point digits =>
      some ((if point then "." else "") ++ fractionDigits digits moment.writtenNanoseconds)
  | .zoneName => some moment.zone.name
  | .offset precision colons => some (moment.zone.offset precision colons)
  | .looseOffset => none
  | .dateAndTime => some moment.dateAndTime

def renderAll? (moment : Moment) (directives : List Directive) : Option String :=
  (directives.mapM (render? moment)).map String.join

end Directive

end TaggedConfig
