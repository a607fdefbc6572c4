/-
# FilterQuery.Json.Number -- numbers in JSON text

An integer literal that 64 bits hold, with sign or without, is that integer. All
other numbers are doubles: those with a point or an exponent, integers beyond 64
bits, and `-0`, whose sign an integer could not keep.

For a double, digits are read as long as 64 bits hold the number they spell. What
does not fit any more counts as zeros before the point and for nothing behind it.
The digits are then scaled by the power of ten that is left.
-/
import FilterQuery.Json.Basic
import FilterQuery.Number.Scaled

namespace FilterQuery

namespace Json

/-! ## Digits -/

/-- Whether 64 bits without sign hold a number. -/
def fitsWord (n : Nat) : Bool := n ≤ 18446744073709551615

/-- Reads digits behind a number as long as 64 bits hold it, and counts those left. -/
def readWord (value : Nat) : List Char → Nat × Nat
  | [] => (value, 0)
  | c :: rest =>
    let longer := 10 * value + (c.toNat - '0'.toNat)
    if fitsWord longer then readWord longer rest else (value, rest.length + 1)

/-- The decimal number of which a JSON number keeps the digits that fit: digits before
the point, digits behind it, and an exponent. -/
def keptDigits (negative : Bool) (whole fraction : List Char) (exponent : Int) : Decimal :=
  let (upper, dropped) := readWord 0 whole
  let (digits, unread) := readWord upper fraction
  ⟨negative, digits, exponent + dropped + unread - fraction.length⟩

/-! ## Numbers -/

/-- The number of an integer literal. -/
def wholeNumber (negative : Bool) (digits : List Char) : JsonNumber :=
  let magnitude := digitsValue digits
  let n : Int := if negative then -magnitude else magnitude
  if negative && magnitude == 0 || n < -9223372036854775808 || !fitsWord n.toNat then
    .float (.scaled (keptDigits negative digits [] 0))
  else .int n

/-- Whether digits may stand before the point: there are some, and no idle zero. -/
def wholeDigitsOk : List Char → Bool
  | [] => false
  | '0' :: _ :: _ => false
  | _ => true

/-- **Reading a number.** -/
def readNumber (text : List Char) : Option JsonNumber :=
  let (negative, unsigned) :=
    match text with
    | '-' :: rest => (true, rest)
    | text => (false, text)
  let whole := unsigned.takeWhile Char.isDigit
  if !wholeDigitsOk whole then none
  else
    match unsigned.dropWhile Char.isDigit with
    | [] => some (wholeNumber negative whole)
    | '.' :: tail =>
      let fraction := tail.takeWhile Char.isDigit
      if fraction.isEmpty then none
      else
        (Numeral.readExponent (tail.dropWhile Char.isDigit)).map fun exponent =>
          .float (.scaled (keptDigits negative whole fraction exponent))
    | rest =>
      (Numeral.readExponent rest).map fun exponent =>
        .float (.scaled (keptDigits negative whole [] exponent))

end Json

end FilterQuery
