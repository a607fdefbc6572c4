/-
# FilterQuery.Literal -- what a literal is worth

A literal is text until it meets data. This module says how it reads as a number,
as a timestamp or as a truth value, and of which kind it is on its own.

Reading never fails: text that is no number counts as zero and text that is no
timestamp as the first second of year 1, so that a bad literal makes a comparison
false rather than an error.
-/
import FilterQuery.Number.Double
import FilterQuery.Timestamp

namespace FilterQuery

/-! ## Readings -/

/-- The double a text spells, or zero. -/
def floatOrZero (text : String) : Double :=
  ((Numeral.read text.toList).map (Double.ofNumeral .double)).getD .zero

/-- The timestamp a text spells, or the zero time. -/
def timeOrZero (text : String) : Timestamp := (Timestamp.read text).getD .zero

/-- Whether a text spells the truth value true: `t` or `true`. -/
def readBool (text : String) : Bool := text == "t" || text == "true"

/-! ## Kinds -/

/-- **Kinds of literals**: those that compare as numbers, those that compare as
timestamps, and all others. -/
inductive LiteralKind where
  | numeric
  | temporal
  | opaqueText
  deriving DecidableEq, Repr

/-- Reads on in a literal that may turn out numeric. Commas are thousands
separators and count for nothing. `numeric` says whether the characters so far are
a number, `started` whether there was one, and `pointSeen` whether a point has
followed a number; a second point after a number, or any other character, settles
that the text is none. -/
def scanNumeric (numeric started pointSeen : Bool) : List Char → Bool
  | [] => numeric
  | c :: rest =>
    if c = ',' then scanNumeric numeric started pointSeen rest
    else if c.isDigit then scanNumeric (numeric || !started || pointSeen) true pointSeen rest
    else if c = '.' then
      if started && numeric then
        if pointSeen then false else scanNumeric false true true rest
      else scanNumeric numeric true pointSeen rest
    else false

/-- Whether a text looks like a number. -/
def looksNumeric (text : List Char) : Bool := scanNumeric false false false text

/-- **The kind of a literal.** -/
def classify (text : String) : LiteralKind :=
  if looksNumeric text.toList then .numeric
  else if (Timestamp.read text).isSome then .temporal
  else .opaqueText

end FilterQuery
