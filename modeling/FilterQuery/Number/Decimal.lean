/-
# FilterQuery.Number.Decimal -- numerals

A numeral is the text of a number with a fraction or an exponent: a sign, digits
with at most one point among or around them, and an exponent. `inf`, `infinity`
and `nan`, in any letter case, are numerals too. This module reads the text; which
binary number it means is settled by rounding.
-/
import FilterQuery.Number.Integer

namespace FilterQuery

/-- **A decimal number** `± digits · 10 ^ exponent`. -/
structure Decimal where
  negative : Bool
  digits : Nat
  exponent : Int
  deriving DecidableEq, Repr

/-- **A numeral**: a decimal number, an infinity, or no number at all. -/
inductive Numeral where
  | decimal (value : Decimal)
  | infinity (negative : Bool)
  | nan
  deriving DecidableEq, Repr

namespace Numeral

/-! ## The parts of a numeral -/

/-- The exponent part: nothing at all, or an exponent mark, a sign and digits. -/
def readExponent : List Char → Option Int
  | [] => some 0
  | c :: rest => if c = 'e' ∨ c = 'E' then readInteger rest else none

/-- An unsigned decimal number: digits with at most one point, at least one of
them, then the exponent part. -/
def readMagnitude (negative : Bool) (text : List Char) : Option Decimal :=
  let whole := text.takeWhile Char.isDigit
  let afterWhole := text.dropWhile Char.isDigit
  let (fraction, rest) :=
    match afterWhole with
    | '.' :: tail => (tail.takeWhile Char.isDigit, tail.dropWhile Char.isDigit)
    | _ => ([], afterWhole)
  if whole.isEmpty && fraction.isEmpty then none
  else
    (readExponent rest).map fun exponent =>
      ⟨negative, digitsValue (whole ++ fraction), exponent - fraction.length⟩

/-- **Reading a numeral.** -/
def read (text : List Char) : Option Numeral :=
  let (negative, unsigned) := splitSign text
  let folded := unsigned.map Char.toLower
  if folded = ['i', 'n', 'f'] ∨ folded = ['i', 'n', 'f', 'i', 'n', 'i', 't', 'y'] then
    some (.infinity negative)
  else if folded = ['n', 'a', 'n'] then some .nan
  else (readMagnitude negative unsigned).map .decimal

end Numeral

end FilterQuery
