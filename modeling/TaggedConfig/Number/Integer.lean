/-!
# Integers with 64 bits

An exact integer is stored only if it fits; nothing wraps around.
-/

namespace TaggedConfig

def leastInteger : Int := -9223372036854775808

def greatestInteger : Int := 9223372036854775807

def greatestUnsigned : Int := 18446744073709551615

def int64? (value : Int) : Option Int64 :=
  if leastInteger ≤ value ∧ value ≤ greatestInteger then some (.ofInt value) else none

end TaggedConfig
