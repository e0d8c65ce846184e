/-!
# Saturating integers

Integers of 64 bits whose sums stop at the ends of the range.
-/

namespace BearerGate

/-- The least integer of 64 bits. -/
def int64Least : Int := -0x8000000000000000

/-- The greatest integer of 64 bits. -/
def int64Greatest : Int := 0x7FFFFFFFFFFFFFFF

/-- The integer of 64 bits that is nearest to `n`. -/
def saturate (n : Int) : Int64 :=
  Int64.ofInt (max int64Least (min int64Greatest n))

/-- The sum, or the end of the range that it lies beyond. -/
def saturatingAdd (a b : Int64) : Int64 := saturate (a.toInt + b.toInt)

/-- The difference, or the end of the range that it lies beyond. -/
def saturatingSub (a b : Int64) : Int64 := saturate (a.toInt - b.toInt)

end BearerGate
