/-
# FilterQuery.Json.Write -- from a document to JSON text

Documents are written in two layouts: compact, without any gap, and indented, one
item or member on a line and two spaces for each level. Empty arrays and objects
are `[]` and `{}` in both.

Strings escape quotes, backslashes and control characters; all else is written as
it is. Doubles are written with the fewest digits that identify them and always
show that they are no integers: by a point, or by an exponent where there are more
than sixteen digits before the point or more than four zeros behind it.
-/
import FilterQuery.Json.Basic
import FilterQuery.Number.Shortest

namespace FilterQuery

namespace Json

/-! ## Scalars -/

/-- A character inside a string. -/
def escape (c : Char) : List Char :=
  if c = '"' then ['\\', '"']
  else if c = '\\' then ['\\', '\\']
  else if c = '\x08' then ['\\', 'b']
  else if c = '\x0C' then ['\\', 'f']
  else if c = '\n' then ['\\', 'n']
  else if c = '\r' then ['\\', 'r']
  else if c = '\t' then ['\\', 't']
  else if c.toNat < 0x20 then
    ['\\', 'u', '0', '0', Nat.digitChar (c.toNat / 16), Nat.digitChar (c.toNat % 16)]
  else [c]

/-- A string in quotes. -/
def quote (s : String) : String := "\"" ++ String.ofList (s.toList.flatMap escape) ++ "\""

/-- How doubles are laid out in JSON. -/
def doubleLayout : Double.Layout := ⟨.even, fun whole => -5 < whole && whole ≤ 16, true⟩

/-- A number as it is written. -/
def numberText : JsonNumber → String
  | .int n => integerText n
  | .float x => x.text doubleLayout

/-! ## Compact -/

mutual

/-- **A document without gaps.** -/
def compact : Json → String
  | .hole f => f.elim
  | .null => "null"
  | .bool b => if b then "true" else "false"
  | .number n => numberText n
  | .string s => quote s
  | .array items => "[" ++ compactItems "" items ++ "]"
  | .object members => "\x7b" ++ compactMembers "" members ++ "\x7d"

/-- Items, the first behind `lead` and the others behind a comma. -/
def compactItems (lead : String) : List Json → String
  | [] => ""
  | item :: items => lead ++ compact item ++ compactItems "," items

/-- Members, the first behind `lead` and the others behind a comma. -/
def compactMembers (lead : String) : List (String × Json) → String
  | [] => ""
  | (name, value) :: members =>
    lead ++ quote name ++ ":" ++ compact value ++ compactMembers "," members

end

/-! ## Indented -/

/-- A line break and the indentation of a level. -/
def newline (level : Nat) : String := "\n" ++ String.ofList (List.replicate (2 * level) ' ')

mutual

/-- **A document over several lines**, at a level of indentation. -/
def pretty (level : Nat) : Json → String
  | .hole f => f.elim
  | .null => "null"
  | .bool b => if b then "true" else "false"
  | .number n => numberText n
  | .string s => quote s
  | .array [] => "[]"
  | .array (item :: items) =>
    "[" ++ newline (level + 1) ++ pretty (level + 1) item ++ prettyItems (level + 1) items ++
      newline level ++ "]"
  | .object [] => "\x7b\x7d"
  | .object ((name, value) :: members) =>
    "\x7b" ++ newline (level + 1) ++ quote name ++ ": " ++ pretty (level + 1) value ++
      prettyMembers (level + 1) members ++ newline level ++ "\x7d"

/-- Items after the first. -/
def prettyItems (level : Nat) : List Json → String
  | [] => ""
  | item :: items => "," ++ newline level ++ pretty level item ++ prettyItems level items

/-- Members after the first. -/
def prettyMembers (level : Nat) : List (String × Json) → String
  | [] => ""
  | (name, value) :: members =>
    "," ++ newline level ++ quote name ++ ": " ++ pretty level value ++
      prettyMembers level members

end

end Json

end FilterQuery
