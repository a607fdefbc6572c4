/-
# FilterQuery.Evaluation -- a condition against a record

A leaf holds if the record has its attribute and the value stands to the literal
as the operator says; a group holds as its children and their connectives say.
Every child is evaluated, from left to right, so that the error of the leftmost
leaf that has one is the error of the whole, whatever the others say.

A leaf without an operator or a name is false and looks nothing up.
-/
import FilterQuery.Condition.Siblings
import FilterQuery.Literal
import FilterQuery.Record.Kinds

namespace FilterQuery

/-! ## Leaves -/

/-- **A value against a literal.** The type of the value decides how the literal is
read. Equal integers are compared exactly, all other numbers as doubles; truth
values and texts know equality only. -/
def Value.satisfies (op : CompareOp) (literal : String) : Value → Bool
  | .int n =>
    match readInt64 literal.toList with
    | some expected =>
      if op = .eq then n == expected
      else op.holds ((Double.ofInt n.toInt).compare? (.ofInt expected.toInt))
    | none => op.holds ((Double.ofInt n.toInt).compare? (floatOrZero literal))
  | .float x => op.holds (x.compare? (floatOrZero literal))
  | .time t => op.holds (some (t.order (timeOrZero literal)))
  | .bool b => op == .eq && b == readBool literal
  | .text s => op == .eq && s == literal

/-- **A comparison against a record**; it is false without the attribute. -/
def Comparison.evaluate (r : Record) (c : Comparison) : Except DataError Bool :=
  match c.operator with
  | none => .ok false
  | some op =>
    if c.isVoid then .ok false
    else do
      match ← r.lookup c.name with
      | none => return false
      | some v => return v.satisfies op c.value

/-! ## Trees -/

namespace Condition

mutual

/-- **A condition against a record.** -/
def evaluate (r : Record) : Condition → Except DataError Bool
  | .leaf _ comparison => comparison.evaluate r
  | .group _ children => do
    let verdicts ← verdicts r children
    return (Verdict.joinAll verdicts).getD false

/-- The verdicts of siblings, or the first error among them. -/
def verdicts (r : Record) : List Condition → Except DataError (List Verdict)
  | [] => .ok []
  | c :: cs => do
    let holds ← evaluate r c
    let others ← verdicts r cs
    return ⟨c.joiner, holds⟩ :: others

end

/-- **A condition against a JSON document**, which has to be an object. -/
def evaluateJson (c : Condition) : Json → Except DataError Bool
  | .null => .error .missing
  | .object members => c.evaluate (.ofObject members)
  | _ => .error .objectRequired

/-- **A condition against several records at once.** One record stands for itself;
several are addressed by their type names. -/
def evaluateMany (c : Condition) : List Record → Except DataError Bool
  | [] => .error .noRecords
  | [r] => c.evaluate r
  | records => c.evaluate (Composite.toRecord (records.foldl (fun all r => all.push r) []))

end Condition

/-! ## Collections -/

/-- Keeps the items that hold, in order, unless there is an error before the end. -/
def keepWhere {α ε : Type} (holds : α → Except ε Bool) : List α → Except ε (List α)
  | [] => .ok []
  | item :: items => do
    let kept ← holds item
    let others ← keepWhere holds items
    return if kept then item :: others else others

namespace Condition

/-- **The items that satisfy a condition**, each seen as a record. -/
def filter {α : Type} (c : Condition) (view : α → Record) (items : List α) :
    Except DataError (List α) :=
  keepWhere (fun item => c.evaluate (view item)) items

/-- **The elements of a JSON array that satisfy a condition.** -/
def filterJson (c : Condition) : Json → Except DataError (List Json)
  | .null => .error .missing
  | .array items => keepWhere c.evaluateJson items
  | _ => .error .arrayRequired

end Condition

end FilterQuery
