/-
# FilterQuery.Number.Integer -- integer literals

An integer literal is an optional sign and one or more ASCII digits. It stands for
a 64-bit integer; a literal outside that range is no integer literal.
-/

namespace FilterQuery

/-! ## Signs and digits -/

/-- Splits a leading sign off a text: whether it was a minus, and the rest. -/
def splitSign : List Char → Bool × List Char
  | '-' :: rest => (true, rest)
  | '+' :: rest => (false, rest)
  | text => (false, text)

/-- Whether a text is one or more ASCII digits. -/
def isDigits (text : List Char) : Bool := !text.isEmpty && text.all Char.isDigit

/-- The number that ASCII digits spell. -/
def digitsValue (digits : List Char) : Nat := Nat.ofDigitChars 10 digits 0

theorem digitsValue_toDigits (n : Nat) : digitsValue (Nat.toDigits 10 n) = n :=
  Nat.ofDigitChars_toDigits (by decide) (by decide)

/-! ## Literals -/

/-- The integer a literal spells, of any size. -/
def readInteger (text : List Char) : Option Int :=
  let (negative, digits) := splitSign text
  if isDigits digits then
    some (if negative then -(digitsValue digits : Int) else digitsValue digits)
  else none

/-- Whether an integer fits into 64 bits with sign. -/
def fitsInt64 (n : Int) : Bool := -9223372036854775808 ≤ n && n ≤ 9223372036854775807

/-- **An integer literal**: the 64-bit integer that a text spells, if it does. -/
def readInt64 (text : List Char) : Option Int64 :=
  (readInteger text).bind fun n => if fitsInt64 n then some (Int64.ofInt n) else none

/-- An integer as it is written: a minus if it is negative, then its digits. -/
def integerText (n : Int) : String :=
  if n < 0 then "-" ++ String.ofList (Nat.toDigits 10 n.natAbs)
  else String.ofList (Nat.toDigits 10 n.natAbs)

end FilterQuery
