import TaggedConfig.Number.Binary

/-!
# Decimal numbers and binary numbers

A decimal is an integer of digits and a power of ten.  Reading one gives the nearest binary number;
the other way, a binary number is written with the fewest digits that read back as itself, and with
the nearest of these.
-/

namespace TaggedConfig

/-- The number `digits * 10 ^ exponent`. -/
structure Decimal where
  digits : Nat
  exponent : Int
  deriving DecidableEq, Repr, Inhabited

/-- Which of two equally near decimals is taken: the larger one, or the one with an even digit. -/
inductive Tie where
  | up
  | even
  deriving DecidableEq, Repr

/-- Of two equally near decimals, the smaller one is taken, whose digits are given. -/
def Tie.takesLower : Tie → Nat → Bool
  | .up, _ => false
  | .even, digits => digits % 2 == 0

namespace Decimal

def digitCount (value : Nat) : Nat := (Nat.toDigits 10 value).length

/-- The number of digits before the decimal point, negative for leading zeros behind it. -/
def point (decimal : Decimal) : Int := digitCount decimal.digits + decimal.exponent

def ratio (decimal : Decimal) : Nat × Nat :=
  (decimal.digits * Nat.pow 10 decimal.exponent.toNat, Nat.pow 10 (-decimal.exponent).toNat)

def trimZeros : (fuel : Nat) → Decimal → Decimal
  | 0, decimal => decimal
  | fuel + 1, decimal =>
      if decimal.digits % 10 = 0 then trimZeros fuel ⟨decimal.digits / 10, decimal.exponent + 1⟩
      else decimal

def toBinary {format : BinaryFormat} (negative : Bool) (decimal : Decimal) : Binary format :=
  let reach : Int := (Nat.pow 2 format.exponentBits : Nat)
  if decimal.digits = 0 then .zero negative
  else if reach < decimal.point then .infinity negative
  else if decimal.point < -reach then .zero negative
  else .ofRatio negative decimal.ratio.1 decimal.ratio.2

def ratioLe (first second : Nat × Nat) : Bool := first.1 * second.2 ≤ second.1 * first.2

def ratioLt (first second : Nat × Nat) : Bool := first.1 * second.2 < second.1 * first.2

/-- The number of digits before the decimal point of a positive fraction. -/
def pointOfRatio (value : Nat × Nat) : Int :=
  if value.2 ≤ value.1 then digitCount (value.1 / value.2)
  else
    let zeros : Int := 1 - (digitCount (value.2 / value.1) : Int)
    if ratioLe (ratio ⟨1, zeros⟩) value then zeros + 1 else zeros

end Decimal

namespace Binary

variable {format : BinaryFormat}

/-- The numbers that round to a finite binary number, as fractions, and whether the ends do. -/
structure Neighbourhood where
  low : Nat × Nat
  value : Nat × Nat
  high : Nat × Nat
  closed : Bool

/-- Halfway to the neighbours; below a power of two the neighbour is half as far away. -/
def neighbourhood (format : BinaryFormat) (significand : Nat) (exponent : Int) : Neighbourhood :=
  let quarters (count : Nat) : Nat × Nat := BinaryFormat.scaleDown count 1 (2 - exponent)
  let narrow := significand == format.hiddenBit && format.unitExponent < exponent
  ⟨quarters (4 * significand - if narrow then 1 else 2), quarters (4 * significand),
    quarters (4 * significand + 2), significand % 2 == 0⟩

def Neighbourhood.contains (around : Neighbourhood) (decimal : Decimal) : Bool :=
  if around.closed then
    Decimal.ratioLe around.low decimal.ratio && Decimal.ratioLe decimal.ratio around.high
  else Decimal.ratioLt around.low decimal.ratio && Decimal.ratioLt decimal.ratio around.high

/-- The decimals with a given number of digits next to the value: the one that rounds back, of two
such the nearer, and of two equally near ones the one that `tie` asks for. -/
def Neighbourhood.withDigits? (around : Neighbourhood) (tie : Tie) (count : Nat) :
    Option Decimal :=
  let exponent := Decimal.pointOfRatio around.value - count
  let (numerator, denominator) := around.value
  let (scaled, unit) :=
    (numerator * Nat.pow 10 (-exponent).toNat, denominator * Nat.pow 10 exponent.toNat)
  let below : Decimal := ⟨scaled / unit, exponent⟩
  let above : Decimal := ⟨scaled / unit + 1, exponent⟩
  let nearer :=
    if 2 * (scaled % unit) < unit || (2 * (scaled % unit) == unit && tie.takesLower below.digits)
    then below else above
  match around.contains below, around.contains above with
  | true, true => some nearer
  | true, false => some below
  | false, true => some above
  | false, false => none

/-- Try `count` digits and more, at most `fuel` times; the exact value is the last resort. -/
def Neighbourhood.shortestFrom (around : Neighbourhood) (tie : Tie) : (fuel count : Nat) → Decimal
  | 0, count => Decimal.trimZeros count ⟨around.value.1 / around.value.2, 0⟩
  | fuel + 1, count =>
      match around.withDigits? tie count with
      | some decimal => Decimal.trimZeros (Decimal.digitCount decimal.digits) decimal
      | none => around.shortestFrom tie fuel (count + 1)

/-- How many digits always suffice: enough that their grid is finer than the binary one. -/
def sufficientDigits (format : BinaryFormat) : Nat := format.precision * 3 / 10 + 2

/-- The shortest decimal that reads back as a positive finite number. -/
def shortest (format : BinaryFormat) (tie : Tie) (significand : Nat) (exponent : Int) : Decimal :=
  if significand = 0 then ⟨0, 0⟩
  else (neighbourhood format significand exponent).shortestFrom tie (sufficientDigits format) 1

end Binary

/-- How a floating point number is written. -/
structure FloatStyle where
  /-- Positional notation needs more digits before the point than this. -/
  abovePoint : Int
  /-- Positional notation needs at most this many digits before the point. -/
  upToPoint : Int
  /-- Positive exponents carry a sign. -/
  plusSign : Bool
  /-- Which of two equally near decimals is written. -/
  tie : Tie
  /-- The text for no number. -/
  nan : String
  /-- The text for infinity, without its sign. -/
  infinity : String

namespace FloatStyle

def plain : FloatStyle := ⟨-4, 16, false, .up, "NaN", "inf"⟩

def yaml : FloatStyle := ⟨-5, 16, false, .even, ".nan", ".inf"⟩

/-- Numbers in JSON, which has no infinities: positional from 0.00001, exponents with a sign. -/
def json : FloatStyle := ⟨-5, 16, true, .even, "null", "null"⟩

/-- The digits of a positive decimal around its point, with at least one on each side. -/
def positional (decimal : Decimal) : List Char :=
  let digits := Nat.toDigits 10 decimal.digits
  if 0 ≤ decimal.exponent then
    digits ++ List.replicate decimal.exponent.toNat '0' ++ ['.', '0']
  else
    let fraction := (-decimal.exponent).toNat
    if fraction < digits.length then
      digits.take (digits.length - fraction) ++ '.' :: digits.drop (digits.length - fraction)
    else '0' :: '.' :: List.replicate (fraction - digits.length) '0' ++ digits

def scientific (style : FloatStyle) (decimal : Decimal) : List Char :=
  let digits := Nat.toDigits 10 decimal.digits
  let exponent := decimal.point - 1
  let sign := if exponent < 0 then ['-'] else if style.plusSign then ['+'] else []
  digits.take 1 ++ (if digits.length ≤ 1 then [] else '.' :: digits.drop 1)
    ++ 'e' :: sign ++ Nat.toDigits 10 exponent.natAbs

def unsigned (style : FloatStyle) (decimal : Decimal) : List Char :=
  if decimal.digits = 0 then ['0', '.', '0']
  else if style.abovePoint < decimal.point && decimal.point ≤ style.upToPoint then
    positional decimal
  else style.scientific decimal

def render {format : BinaryFormat} (style : FloatStyle) (x : Binary format) : String :=
  match x.magnitude with
  | .nan => style.nan
  | .infinite => (if x.negative then "-" else "") ++ style.infinity
  | .finite m e =>
      (if x.negative then "-" else "")
        ++ String.ofList (style.unsigned (Binary.shortest format style.tie m e))

end FloatStyle

end TaggedConfig
