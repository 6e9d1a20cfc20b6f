/-!
# Binary floating point numbers

A number of a binary format is a sign and the bits below it.  The bits count the representable
magnitudes from zero upwards: a finite one is `significand * 2 ^ exponent`, then follow infinity
and the codes of no number.  Every operation computes the exact result and rounds once, to the
nearest number and, of two equally near ones, to the one with an even significand.
-/

namespace TaggedConfig

/-- A binary format: the bits of a significand, its leading one included, and of an exponent. -/
structure BinaryFormat where
  precision : Nat
  exponentBits : Nat
  deriving DecidableEq, Repr

namespace BinaryFormat

def double : BinaryFormat := ⟨53, 11⟩

def single : BinaryFormat := ⟨24, 8⟩

def hiddenBit (format : BinaryFormat) : Nat := Nat.pow 2 (format.precision - 1)

/-- The exponent of the least positive number, which is a power of two. -/
def unitExponent (format : BinaryFormat) : Int :=
  3 - (Nat.pow 2 (format.exponentBits - 1) : Nat) - (format.precision : Int)

def infinityBits (format : BinaryFormat) : Nat :=
  (Nat.pow 2 format.exponentBits - 1) * format.hiddenBit

def nanBits (format : BinaryFormat) : Nat := format.infinityBits + format.hiddenBit / 2

def scaleDown (numerator denominator : Nat) (exponent : Int) : Nat × Nat :=
  (numerator * Nat.pow 2 (-exponent).toNat, denominator * Nat.pow 2 exponent.toNat)

/-- The nearest integer to a fraction; a half goes to the even neighbour. -/
def roundHalfEven (numerator denominator : Nat) : Nat :=
  let quotient := numerator / denominator
  let twice := 2 * (numerator % denominator)
  if denominator < twice || (twice == denominator && quotient % 2 == 1) then quotient + 1
  else quotient

/-- The exponent with which a positive fraction has a significand of full length. -/
def exponentOf (format : BinaryFormat) (numerator denominator : Nat) : Int :=
  let low : Int := (Nat.log2 numerator : Int) - Nat.log2 denominator - format.precision
  let (scaled, unit) := scaleDown numerator denominator low
  if Nat.pow 2 format.precision * unit ≤ scaled then low + 1 else low

def roundRatio (format : BinaryFormat) (numerator denominator : Nat) : Nat :=
  if numerator = 0 then 0
  else
    let exponent := max format.unitExponent (format.exponentOf numerator denominator)
    let (scaled, unit) := scaleDown numerator denominator exponent
    let significand := roundHalfEven scaled unit
    min format.infinityBits
      ((exponent - format.unitExponent).toNat * format.hiddenBit + significand)

end BinaryFormat

/-- What the bits below the sign stand for. -/
inductive Magnitude where
  | finite (significand : Nat) (exponent : Int)
  | infinite
  | nan
  deriving DecidableEq, Repr

/-- A number of a binary format. -/
structure Binary (format : BinaryFormat) where
  negative : Bool
  bits : Nat
  deriving DecidableEq, Repr, Inhabited

abbrev Binary64 := Binary .double

abbrev Binary32 := Binary .single

namespace Binary

variable {format : BinaryFormat}

def magnitude (x : Binary format) : Magnitude :=
  let unit := format.hiddenBit
  if x.bits < unit then .finite x.bits format.unitExponent
  else if x.bits < format.infinityBits then
    .finite (unit + x.bits % unit) (format.unitExponent + ((x.bits / unit - 1 : Nat) : Int))
  else if x.bits = format.infinityBits then .infinite
  else .nan

def zero (negative : Bool) : Binary format := ⟨negative, 0⟩

def infinity (negative : Bool) : Binary format := ⟨negative, format.infinityBits⟩

def nan : Binary format := ⟨false, format.nanBits⟩

def ofRatio (negative : Bool) (numerator denominator : Nat) : Binary format :=
  ⟨negative, format.roundRatio numerator denominator⟩

/-- The number nearest to a dyadic fraction with a sign. -/
def ofDyadic (negative : Bool) (significand : Nat) (exponent : Int) : Binary format :=
  let (numerator, denominator) := BinaryFormat.scaleDown significand 1 (-exponent)
  ofRatio negative numerator denominator

def ofInt (value : Int) : Binary format := ofRatio (decide (value < 0)) value.natAbs 1

def isFinite (x : Binary format) : Bool := x.bits < format.infinityBits

def isNaN (x : Binary format) : Bool := format.infinityBits < x.bits

/-- The exact value of a significand with a sign, in units of a smaller power of two. -/
def signedUnits (negative : Bool) (significand : Nat) (exponent unit : Int) : Int :=
  let units : Int := (significand * Nat.pow 2 (exponent - unit).toNat : Nat)
  if negative then -units else units

/-- The sum; an exact zero is negative only if both operands are. -/
def add (x y : Binary format) : Binary format :=
  match x.magnitude, y.magnitude with
  | .nan, _ | _, .nan => nan
  | .infinite, .infinite => if x.negative = y.negative then x else nan
  | .infinite, _ => x
  | _, .infinite => y
  | .finite m e, .finite n f =>
      let unit := min e f
      let total := signedUnits x.negative m e unit + signedUnits y.negative n f unit
      if total = 0 then zero (x.negative && y.negative)
      else ofDyadic (decide (total < 0)) total.natAbs unit

def mul (x y : Binary format) : Binary format :=
  let negative := x.negative != y.negative
  match x.magnitude, y.magnitude with
  | .nan, _ | _, .nan => nan
  | .infinite, .infinite => infinity negative
  | .infinite, .finite n _ => if n = 0 then nan else infinity negative
  | .finite m _, .infinite => if m = 0 then nan else infinity negative
  | .finite m e, .finite n f => ofDyadic negative (m * n) (e + f)

def convert {target : BinaryFormat} (x : Binary format) : Binary target :=
  match x.magnitude with
  | .nan => nan
  | .infinite => infinity x.negative
  | .finite m e => ofDyadic x.negative m e

/-- The order of numbers as integers: zeros are equal, and infinity is the largest. -/
def rank (x : Binary format) : Int := if x.negative then -(x.bits : Int) else x.bits

def le (x y : Binary format) : Bool := !x.isNaN && !y.isNaN && x.rank ≤ y.rank

/-- The same number, where the codes of no number count as one and so do the zeros. -/
def same (x y : Binary format) : Bool :=
  (x.isNaN && y.isNaN) || (!x.isNaN && !y.isNaN && x.rank == y.rank)

end Binary

end TaggedConfig
