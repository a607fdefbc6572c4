/-
# FilterQuery.Text.Blank -- which characters are blank

Queries, rendered literals and timestamps all call the same characters blank:
the twenty-five of the Unicode property `White_Space`. Zero-width characters and
the ASCII separators `U+001C` to `U+001F` are not among them.
-/

namespace FilterQuery

/-- **Blank characters**: the Unicode property `White_Space`. -/
def isBlank (c : Char) : Bool :=
  (9 ≤ c.toNat && c.toNat ≤ 13) || c.toNat == 0x20 || c.toNat == 0x85 || c.toNat == 0xA0 ||
    c.toNat == 0x1680 || (0x2000 ≤ c.toNat && c.toNat ≤ 0x200A) || c.toNat == 0x2028 ||
    c.toNat == 0x2029 || c.toNat == 0x202F || c.toNat == 0x205F || c.toNat == 0x3000

end FilterQuery
