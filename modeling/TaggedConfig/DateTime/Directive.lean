import TaggedConfig.DateTime.Moment

/-!
# Directives

A format is a text with directives: a percent sign, an optional mark for padding, and a letter.  Some
directives stand for a row of others.  A mark for padding is allowed only in front of one number.
-/

namespace TaggedConfig

/-- What stands in front of a short number. -/
inductive Padding where
  | none
  | zeros
  | blanks
  deriving DecidableEq, Inhabited, Repr

/-- The numbers that a format can ask for. -/
inductive NumericField where
  | year
  | century
  | yearOfCentury
  | weekYear
  | weekYearOfCentury
  | quarter
  | month
  | day
  | weekFromSunday
  | weekFromMonday
  | week
  | daysSinceSunday
  | weekdayFromMonday
  | dayOfYear
  | hour
  | hourOnFace
  | minute
  | second
  | nanosecond
  | timestamp
  deriving DecidableEq, Inhabited, Repr

/-- How much of a distance from universal time is written. -/
inductive OffsetPrecision where
  | hours
  | minutes
  | seconds
  deriving DecidableEq, Inhabited, Repr

inductive Directive where
  | literal (text : String)
  | number (field : NumericField) (padding : Padding)
  | shortMonthName
  | monthName
  | shortWeekdayName
  | weekdayName
  | halfDay (capital : Bool)
  /-- A fraction of a second with as many groups of three digits as it needs. -/
  | fraction
  /-- A fraction of a second with a fixed number of digits. -/
  | fixedFraction (point : Bool) (digits : Nat)
  | zoneName
  | offset (precision : OffsetPrecision) (colons : Bool)
  /-- Can be read but not written. -/
  | looseOffset
  | dateAndTime
  deriving DecidableEq, Inhabited, Repr

namespace Directive

def zeroPadded (field : NumericField) : Directive := .number field .zeros

def clock : List Directive :=
  [zeroPadded .hour, .literal ":", zeroPadded .minute, .literal ":", zeroPadded .second]

def slashedDate : List Directive :=
  [zeroPadded .month, .literal "/", zeroPadded .day, .literal "/", zeroPadded .yearOfCentury]

def ofLetter? : Char → Option (List Directive)
  | 'A' => some [.weekdayName]
  | 'a' => some [.shortWeekdayName]
  | 'B' => some [.monthName]
  | 'b' | 'h' => some [.shortMonthName]
  | 'C' => some [zeroPadded .century]
  | 'c' => some ([.shortWeekdayName, .literal " ", .shortMonthName, .literal " ",
      .number .day .blanks, .literal " "] ++ clock ++ [.literal " ", zeroPadded .year])
  | 'D' | 'x' => some slashedDate
  | 'd' => some [zeroPadded .day]
  | 'e' => some [.number .day .blanks]
  | 'F' => some [zeroPadded .year, .literal "-", zeroPadded .month, .literal "-", zeroPadded .day]
  | 'f' => some [zeroPadded .nanosecond]
  | 'G' => some [zeroPadded .weekYear]
  | 'g' => some [zeroPadded .weekYearOfCentury]
  | 'H' => some [zeroPadded .hour]
  | 'I' => some [zeroPadded .hourOnFace]
  | 'j' => some [zeroPadded .dayOfYear]
  | 'k' => some [.number .hour .blanks]
  | 'l' => some [.number .hourOnFace .blanks]
  | 'M' => some [zeroPadded .minute]
  | 'm' => some [zeroPadded .month]
  | 'n' => some [.literal "\n"]
  | 'P' => some [.halfDay false]
  | 'p' => some [.halfDay true]
  | 'q' => some [.number .quarter .none]
  | 'R' => some [zeroPadded .hour, .literal ":", zeroPadded .minute]
  | 'r' => some [zeroPadded .hourOnFace, .literal ":", zeroPadded .minute, .literal ":",
      zeroPadded .second, .literal " ", .halfDay true]
  | 'S' => some [zeroPadded .second]
  | 's' => some [.number .timestamp .none]
  | 'T' | 'X' => some clock
  | 't' => some [.literal "\t"]
  | 'U' => some [zeroPadded .weekFromSunday]
  | 'u' => some [.number .weekdayFromMonday .none]
  | 'V' => some [zeroPadded .week]
  | 'v' => some [.number .day .blanks, .literal "-", .shortMonthName, .literal "-",
      zeroPadded .year]
  | 'W' => some [zeroPadded .weekFromMonday]
  | 'w' => some [.number .daysSinceSunday .none]
  | 'Y' => some [zeroPadded .year]
  | 'y' => some [zeroPadded .yearOfCentury]
  | 'Z' => some [.zoneName]
  | 'z' => some [.offset .minutes false]
  | '+' => some [.dateAndTime]
  | '%' => some [.literal "%"]
  | _ => none

def repad (padding : Padding) : List Directive → Option (List Directive)
  | [.number field _] => some [.number field padding]
  | _ => none

def ofFormat? : List Char → Option (List Directive × List Char)
  | '-' :: letter :: rest => ((ofLetter? letter).bind (repad .none)).map (·, rest)
  | '0' :: letter :: rest => ((ofLetter? letter).bind (repad .zeros)).map (·, rest)
  | '_' :: letter :: rest => ((ofLetter? letter).bind (repad .blanks)).map (·, rest)
  | '#' :: 'z' :: rest => some ([.looseOffset], rest)
  | ':' :: 'z' :: rest => some ([.offset .minutes true], rest)
  | ':' :: ':' :: 'z' :: rest => some ([.offset .seconds true], rest)
  | ':' :: ':' :: ':' :: 'z' :: rest => some ([.offset .hours false], rest)
  | '.' :: 'f' :: rest => some ([.fraction], rest)
  | '.' :: '3' :: 'f' :: rest => some ([.fixedFraction true 3], rest)
  | '.' :: '6' :: 'f' :: rest => some ([.fixedFraction true 6], rest)
  | '.' :: '9' :: 'f' :: rest => some ([.fixedFraction true 9], rest)
  | '3' :: 'f' :: rest => some ([.fixedFraction false 3], rest)
  | '6' :: 'f' :: rest => some ([.fixedFraction false 6], rest)
  | '9' :: 'f' :: rest => some ([.fixedFraction false 9], rest)
  | letter :: rest => (ofLetter? letter).map (·, rest)
  | [] => none

theorem length_ofFormat? {format : List Char} {read : List Directive × List Char}
    (found : ofFormat? format = some read) : read.2.length < format.length := by
  unfold ofFormat? at found
  split at found <;> simp only [Option.map_eq_some_iff, Option.some.injEq, reduceCtorEq] at found <;>
    grind

/-- The directives of a format, or nothing if one is not known. -/
def parse? (format : List Char) : Option (List Directive) :=
  match format with
  | [] => some []
  | '%' :: rest =>
      match found : ofFormat? rest with
      | none => none
      | some (directives, later) =>
          have : later.length < rest.length := length_ofFormat? found
          (parse? later).map (directives ++ ·)
  | c :: rest => (parse? rest).map (.literal (String.singleton c) :: ·)
termination_by format.length

end Directive

end TaggedConfig
