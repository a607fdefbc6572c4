/-
# FilterQuery.Text.Hexadecimal -- code points in hexadecimal digits

Escapes give a character by the hexadecimal digits of its code point. Surrogates and all
that lies beyond the last code point are no characters.
-/

namespace FilterQuery

/-- The value of a hexadecimal digit. -/
def hexDigit? (c : Char) : Option Nat :=
  if c.isDigit then some (c.toNat - 48)
  else if 'a' ≤ c ∧ c ≤ 'f' then some (c.toNat - 87)
  else if 'A' ≤ c ∧ c ≤ 'F' then some (c.toNat - 55)
  else none

/-- The character of a code point. -/
def charOfCode? (code : Nat) : Option Char :=
  if code < 0xD800 ∨ (0xE000 ≤ code ∧ code ≤ 0x10FFFF) then some (Char.ofNat code) else none

end FilterQuery
