/-
# FilterQuery.Number.Scaled -- decimal numbers scaled to doubles

A decimal number becomes a double in steps: its digits are rounded to a double, and
that is multiplied or divided by a power of ten, which is a rounded double as well.
Every step rounds, so that the result lies near the number but need not be the
double nearest to it. Where the digits fit 53 bits and the power of ten is at most
`10 ^ 22`, only the last step has anything to round.
-/
import FilterQuery.Number.Double

namespace FilterQuery

namespace Double

/-! ## Powers of ten -/

/-- The double nearest to `10 ^ n`, as a natural number. -/
def powerOfTen (n : Nat) : Nat := roundBits BinaryFormat.double.precision (Nat.pow 10 n) 1

/-- The greatest power of ten that doubles reach is `10 ^ 308`. -/
def maxPower : Nat := 308

/-! ## Scaling -/

/-- A double multiplied by a power of ten, and rounded. -/
def timesPowerOfTen (n : Nat) : Double → Double
  | .finite negative units =>
    ofRatio .double negative (units * powerOfTen n) (Nat.pow 2 BinaryFormat.double.scale)
  | other => other

/-- A double divided by a power of ten, and rounded. -/
def overPowerOfTen (n : Nat) : Double → Double
  | .finite negative units =>
    ofRatio .double negative units (powerOfTen n * Nat.pow 2 BinaryFormat.double.scale)
  | other => other

/-- **The double that a decimal number is scaled to**, where 64 bits hold its digits.
A power of ten beyond the doubles takes all but zero to an infinity. To divide by one
takes two divisions, and the second by `10 ^ 308` leaves nothing. -/
def scaled (d : Decimal) : Double :=
  let digits := ofRatio .double d.negative d.digits 1
  if maxPower < d.exponent then if d.digits = 0 then digits else .infinity d.negative
  else if 0 ≤ d.exponent then digits.timesPowerOfTen d.exponent.toNat
  else if -maxPower ≤ d.exponent then digits.overPowerOfTen (-d.exponent).toNat
  else
    (digits.overPowerOfTen maxPower).overPowerOfTen
      (min (-d.exponent - maxPower).toNat maxPower)

end Double

end FilterQuery
