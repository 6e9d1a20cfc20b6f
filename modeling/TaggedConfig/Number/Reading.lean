import TaggedConfig.Number.Decimal

/-!
# Reading numbers

Integers in a base, and decimal numbers with an optional point and an optional exponent.  There is
no white space, no separator between digits, and at least one digit.
-/

namespace TaggedConfig

def digitValue? (base : Nat) (c : Char) : Option Nat :=
  let value? :=
    if c.isDigit then some (c.toNat - '0'.toNat)
    else if 'a' ≤ c && c ≤ 'z' then some (c.toNat - 'a'.toNat + 10)
    else if 'A' ≤ c && c ≤ 'Z' then some (c.toNat - 'A'.toNat + 10)
    else none
  value?.filter (· < base)

def digitsFrom? (base : Nat) : (before : Nat) → List Char → Option Nat
  | before, [] => some before
  | before, c :: rest =>
      match digitValue? base c with
      | some digit => digitsFrom? base (before * base + digit) rest
      | none => none

def natInBase? (base : Nat) (text : List Char) : Option Nat :=
  if text.isEmpty then none else digitsFrom? base 0 text

def splitSign : List Char → Bool × List Char
  | '-' :: rest => (true, rest)
  | '+' :: rest => (false, rest)
  | text => (false, text)

def exponent? : List Char → Option Int
  | [] => some 0
  | c :: rest =>
      if c == 'e' || c == 'E' then
        let (negative, digits) := splitSign rest
        (natInBase? 10 digits).map fun value => if negative then -(value : Int) else value
      else none

/-- A decimal number without sign. -/
def Decimal.parse? (text : List Char) : Option Decimal :=
  let whole := text.takeWhile Char.isDigit
  let rest := text.dropWhile Char.isDigit
  let (fraction, rest) :=
    match rest with
    | '.' :: rest => (rest.takeWhile Char.isDigit, rest.dropWhile Char.isDigit)
    | rest => ([], rest)
  match natInBase? 10 (whole ++ fraction), exponent? rest with
  | some digits, some exponent => some ⟨digits, exponent - fraction.length⟩
  | _, _ => none

def Binary.ofDecimalText? {format : BinaryFormat} (text : List Char) : Option (Binary format) :=
  let (negative, unsigned) := splitSign text
  (Decimal.parse? unsigned).map (Decimal.toBinary negative)

/-- A number as above, or a name of infinity or of no number in any case of letters. -/
def Binary.ofText? {format : BinaryFormat} (text : List Char) : Option (Binary format) :=
  let (negative, unsigned) := splitSign text
  let name := String.ofList (unsigned.map Char.toLower)
  if name = "inf" || name = "infinity" then some (.infinity negative)
  else if name = "nan" then some .nan
  else (Decimal.parse? unsigned).map (Decimal.toBinary negative)

end TaggedConfig
