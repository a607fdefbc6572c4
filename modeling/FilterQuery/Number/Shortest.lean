/-
# FilterQuery.Number.Shortest -- the text of a double

A double is written with the fewest decimal digits that still identify it, and of
those with the digits nearest to its value.

Every finite double is a whole multiple of `10 ^ -1074`, because `2 ^ -1074` is
`5 ^ 1074 · 10 ^ -1074`. On that grid the value, the bounds of what rounds to it,
and every shorter decimal are natural numbers, and the search for the fewest
digits compares naturals only.
-/
import FilterQuery.Number.Double

namespace FilterQuery

namespace Double

/-! ## Which digits -/

/-- Where a decimal exactly halfway between two candidates goes. -/
inductive Tie where
  | up
  | even

/-- The number of steps `10 ^ -1074` in a step `2 ^ -1074`. -/
def grain : Nat := Nat.pow 5 1074

/-- The distance from a double to the next one above, in units. -/
def gapAbove (units : Nat) : Nat := Nat.pow 2 (units.log2 + 1 - 53)

/-- The distance in half units from a double to the next one below: half as much
as above at a power of two, where the spacing changes. -/
def halfGapsBelow (units : Nat) : Nat :=
  if 53 ≤ units.log2 ∧ units = Nat.pow 2 units.log2 then gapAbove units else 2 * gapAbove units

/-- Whether a multiple of `10 ^ -1074` rounds to a double. The bounds are halfway
to the neighbours, and belong to the double when its last bit is zero. -/
def roundsTo (units candidate : Nat) : Bool :=
  let value := 4 * units * grain
  let low := value - halfGapsBelow units * grain
  let high := value + 2 * gapAbove units * grain
  let point := 4 * candidate
  if units / gapAbove units % 2 = 0 then low ≤ point && point ≤ high
  else low < point && point < high

/-- Of the two multiples of `step` around a double, the nearest that rounds to it,
counted in steps. -/
def candidate? (tie : Tie) (units step : Nat) : Option Nat :=
  let value := units * grain
  let below := value / step
  let above := below + 1
  let fitsBelow := roundsTo units (below * step)
  let fitsAbove := roundsTo units (above * step)
  if fitsBelow && fitsAbove then
    let twice := 2 * (value % step)
    some (if twice < step then below
      else if step < twice then above
      else
        match tie with
        | .up => above
        | .even => if below % 2 = 0 then below else above)
  else if fitsBelow then some below
  else if fitsAbove then some above
  else none

/-- Drops the zeros at the end of a digit string and counts them. -/
def trimZeros (digits : List Char) : List Char × Nat :=
  let kept := (digits.reverse.dropWhile (· == '0')).reverse
  (kept, digits.length - kept.length)

/-- **The fewest digits** of a double above zero and the power of ten that the last
of them counts: the first digit count of 1, 2, …, 17 on whose grid a decimal rounds
to the double. -/
def shortestDigits (tie : Tie) (units : Nat) : List Char × Int :=
  let size := (Nat.toDigits 10 (units * grain)).length
  let found := (List.range 17).findSome? fun n =>
    let places := size - (n + 1)
    (candidate? tie units (Nat.pow 10 places)).map fun count => (count, places)
  let (count, places) := found.getD (units * grain, 0)
  let (digits, zeros) := trimZeros (Nat.toDigits 10 count)
  (digits, (places + zeros : Int) - 1074)

/-! ## How they are laid out -/

/-- **A layout of decimal numbers**: where ties between candidates go, for how many
digits before the point it goes without an exponent, and whether a whole number
keeps a point and a zero. -/
structure Layout where
  tie : Tie
  positional : Int → Bool
  keepsPoint : Bool

/-- Digits around a point, `whole` of them before it. -/
def positionalText (keepsPoint : Bool) (digits : List Char) (whole : Int) : List Char :=
  if whole ≤ 0 then '0' :: '.' :: List.replicate (-whole).toNat '0' ++ digits
  else if digits.length ≤ whole.toNat then
    digits ++ List.replicate (whole.toNat - digits.length) '0' ++
      (if keepsPoint then ['.', '0'] else [])
  else digits.take whole.toNat ++ '.' :: digits.drop whole.toNat

/-- An exponent as it is written, with its sign always. -/
def signedText (exponent : Int) : List Char :=
  (if exponent < 0 then '-' else '+') :: Nat.toDigits 10 exponent.natAbs

/-- Digits with the point behind the first, and an exponent. -/
def exponentText (digits : List Char) (whole : Int) : List Char :=
  let mantissa :=
    match digits with
    | first :: second :: others => first :: '.' :: second :: others
    | short => short
  mantissa ++ 'e' :: signedText (whole - 1)

/-- The digits of a finite double without its sign. -/
def magnitudeText (layout : Layout) (units : Nat) : List Char :=
  if units = 0 then if layout.keepsPoint then ['0', '.', '0'] else ['0']
  else
    let (digits, exponent) := shortestDigits layout.tie units
    let whole := digits.length + exponent
    if layout.positional whole then positionalText layout.keepsPoint digits whole
    else exponentText digits whole

/-- **The text of a double** in a layout. -/
def text (layout : Layout) : Double → String
  | .nan => "NaN"
  | .infinity negative => if negative then "-inf" else "inf"
  | .finite negative units =>
    String.ofList ((if negative then ['-'] else []) ++ magnitudeText layout units)

end Double

end FilterQuery
