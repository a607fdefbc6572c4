/-
# FilterQuery.Number.Double -- binary floating-point numbers

A finite double is a whole number of units of `2 ^ -1074`, the smallest step of the
format, and has at most 53 significant bits. Held this way, doubles are compared
as integers, and rounding is one division.

Zero has a sign that only printing shows. A NaN is not ordered against anything,
itself included.
-/
import FilterQuery.Number.Decimal

namespace FilterQuery

/-! ## Rounding -/

/-- **Rounds `num / den` to the nearest natural number**, a half to the even one. -/
def roundDiv (num den : Nat) : Nat :=
  let quotient := num / den
  let twice := 2 * (num % den)
  if twice < den then quotient
  else if den < twice then quotient + 1
  else if quotient % 2 = 0 then quotient
  else quotient + 1

/-- Rounds `num / den` to the nearest natural number of at most `precision`
significant bits, a half to the one whose last bit is zero. -/
def roundBits (precision num den : Nat) : Nat :=
  let shift := (num / den).log2 + 1 - precision
  roundDiv num (den * Nat.pow 2 shift) * Nat.pow 2 shift

/-- Without a fraction there is nothing to round. -/
theorem roundDiv_one (n : Nat) : roundDiv n 1 = n := by
  simp [roundDiv, Nat.mod_one]

/-- A natural number that has no more bits than the precision is kept. -/
theorem roundBits_eq_self {precision n : Nat} (h : n < Nat.pow 2 precision) :
    roundBits precision n 1 = n := by
  rcases Nat.eq_zero_or_pos n with rfl | hn
  · simp [roundBits, roundDiv]
  · have hbits := (Nat.log2_lt (by omega)).2 h
    have hshift : n.log2 + 1 - precision = 0 := by omega
    simp [roundBits, hshift, roundDiv_one]

/-! ## Formats -/

/-- **A binary format**: how many significant bits its numbers have, of which unit
`2 ^ -scale` they are multiples, and below which power `2 ^ limit` they stay. -/
structure BinaryFormat where
  precision : Nat
  scale : Nat
  limit : Nat

/-- Double precision. -/
def BinaryFormat.double : BinaryFormat := ⟨53, 1074, 1024⟩

/-- Single precision, whose numbers are doubles as well. -/
def BinaryFormat.single : BinaryFormat := ⟨24, 149, 128⟩

/-- **A double**: no number, an infinity, or `units` steps of `2 ^ -1074`. -/
inductive Double where
  | nan
  | infinity (negative : Bool)
  | finite (negative : Bool) (units : Nat)
  deriving DecidableEq, Repr

namespace Double

/-- The zero that unreadable text counts as. -/
def zero : Double := .finite false 0

/-- The double nearest to `± num / den` in a format that doubles extend; what
reaches the format's limit is an infinity. -/
def ofRatio (format : BinaryFormat) (negative : Bool) (num den : Nat) : Double :=
  let units := roundBits format.precision (num * Nat.pow 2 format.scale) den
  if units < Nat.pow 2 (format.limit + format.scale) then
    .finite negative (units * Nat.pow 2 (BinaryFormat.double.scale - format.scale))
  else .infinity negative

/-- The double nearest to a decimal number. A number below `10 ^ -330` is zero in
every format and one from `10 ^ 310` on is beyond each of them, so that no power
of ten has to be taken that the digits do not call for. -/
def ofDecimal (format : BinaryFormat) (d : Decimal) : Double :=
  if d.digits = 0 then .finite d.negative 0
  else if 310 ≤ d.exponent then .infinity d.negative
  else if d.exponent + d.digits.log2 + 1 < -330 then .finite d.negative 0
  else
    ofRatio format d.negative (d.digits * Nat.pow 10 d.exponent.toNat)
      (Nat.pow 10 (-d.exponent).toNat)

/-- The double a numeral means. -/
def ofNumeral (format : BinaryFormat) : Numeral → Double
  | .decimal d => ofDecimal format d
  | .infinity negative => .infinity negative
  | .nan => .nan

/-- The double nearest to an integer. -/
def ofInt (n : Int) : Double := ofRatio .double (decide (n < 0)) n.natAbs 1

/-- A double rounded to single precision. -/
def toSingle : Double → Double
  | .finite negative units => ofRatio .single negative units (Nat.pow 2 BinaryFormat.double.scale)
  | other => other

/-! ## Order -/

/-- A finite double in signed units. -/
def signedUnits (negative : Bool) (units : Nat) : Int := if negative then -units else units

/-- **How two doubles are ordered**, if they are. -/
def compare? : Double → Double → Option Ordering
  | .nan, _ => none
  | _, .nan => none
  | .infinity a, .infinity b => some (compare b a)
  | .infinity a, .finite _ _ => some (if a then .lt else .gt)
  | .finite _ _, .infinity b => some (if b then .gt else .lt)
  | .finite a m, .finite b n => some (compare (signedUnits a m) (signedUnits b n))

/-- A double that is a number is equal to itself. -/
theorem compare?_self {x : Double} (h : x ≠ .nan) : x.compare? x = some .eq := by
  cases x with
  | nan => exact absurd rfl h
  | infinity a => cases a <;> rfl
  | finite a m => simp [compare?]

end Double

end FilterQuery
