/-
# FilterQuery.Query.Render -- from a condition to query text

The text of a condition joins siblings by their connectives and puts groups below
the root into parentheses. A literal is quoted when it has no characters, or when
one of them is blank or a symbol. The language has no escapes, so a double quote
inside a name or a value is written as it is and does not survive reading.
-/
import FilterQuery.Condition.Basic
import FilterQuery.Text.Blank

namespace FilterQuery

/-! ## Literals and terms -/

/-- Characters that a literal holds only inside quotes. -/
def isSymbol (c : Char) : Bool :=
  c == '(' || c == ')' || c == '=' || c == '<' || c == '>' || c == '&' || c == '|'

/-- Whether a literal has to be quoted. -/
def needsQuotes (text : String) : Bool :=
  text == "" || text.toList.any fun c => isBlank c || isSymbol c

/-- A literal as it is written. -/
def renderLiteral (text : String) : String :=
  if needsQuotes text then "\"" ++ text ++ "\"" else text

/-- **A term as it is written.** A void term is written as nothing, and a term
without operator as its name and, if it has one, its value. -/
def Comparison.render (c : Comparison) : String :=
  if c.isVoid then ""
  else
    match c.operator with
    | some op => renderLiteral c.name ++ op.symbol ++ renderLiteral c.value
    | none =>
      if c.value = "" then renderLiteral c.name
      else renderLiteral c.name ++ " " ++ renderLiteral c.value

/-! ## Trees -/

/-- What joins a sibling to the one before it; a missing connective is `&&`. -/
def Condition.separator (c : Condition) : String :=
  " " ++ (c.joiner.getD .and).symbol ++ " "

namespace Condition

mutual

/-- **A condition as it is written**, without parentheses around it. -/
def render : Condition → String
  | .leaf _ comparison => comparison.render
  | .group _ [] => ""
  | .group _ (first :: others) => first.renderSibling ++ renderOthers others

/-- A condition among siblings: `()` for a void leaf, parentheses for a group. -/
def renderSibling : Condition → String
  | .leaf _ comparison => if comparison.isVoid then "()" else comparison.render
  | .group _ [] => "()"
  | .group _ (first :: others) => "(" ++ (first.renderSibling ++ renderOthers others) ++ ")"

/-- The siblings after the first, each behind its connective. -/
def renderOthers : List Condition → String
  | [] => ""
  | c :: cs => c.separator ++ c.renderSibling ++ renderOthers cs

end

end Condition

end FilterQuery
