/-
# FilterQuery.Condition.Json -- conditions as JSON

A node is written as an object with an `operator`, then an `attribute` or
`conditions`, leaving out what is unset or empty. Read is more than what is
written: a node may also be an array `[operator, attribute, conditions]` and an
attribute an array `[name, operator, value]`, both without some of their last
items; operators have two spellings, and unset ones may be `null` or empty; names
that mean nothing are passed over.

Reading goes through the members in their order and stops at the first fault. That
a node has exactly one of attribute and conditions is looked at last.
-/
import FilterQuery.Condition.Basic
import FilterQuery.Json.Read
import FilterQuery.Json.Write

namespace FilterQuery

/-- **Why a document is no condition.** -/
inductive DecodeError where
  | operator (e : OperatorError)
  | attributeAndConditions
  | neitherAttributeNorConditions
  | malformed
  deriving DecidableEq, Repr

/-- What is said about a document that is no condition, where something is. -/
def DecodeError.message? : DecodeError → Option String
  | .operator e => some e.message
  | .attributeAndConditions => some "condition can't have both an attribute and conditions"
  | .neitherAttributeNorConditions => some "condition needs either an attribute or conditions"
  | .malformed => none

/-! ## Writing -/

/-- A comparison as JSON; its three members are always there. -/
def Comparison.toJson (c : Comparison) : Json :=
  .object [("name", .string c.name),
    ("operator", .string ((c.operator.map CompareOp.symbol).getD "")),
    ("value", .string c.value)]

namespace Condition

/-- The member for a joiner, if there is one. -/
def joinerMember : Option Connective → List (String × Json)
  | none => []
  | some c => [("operator", .string c.word)]

mutual

/-- **A condition as JSON.** -/
def toJson : Condition → Json
  | .leaf joiner comparison => .object (joinerMember joiner ++ [("attribute", comparison.toJson)])
  | .group joiner [] => .object (joinerMember joiner)
  | .group joiner (child :: children) =>
    .object (joinerMember joiner ++ [("conditions", .array (toJson child :: toJsonAll children))])

/-- Several conditions as JSON. -/
def toJsonAll : List Condition → List Json
  | [] => []
  | c :: cs => toJson c :: toJsonAll cs

end

end Condition

/-! ## Reading scalars -/

variable {flaw : Type}

/-- Reads a string. -/
def decodeText : Doc flaw → Except DecodeError String
  | .string s => .ok s
  | _ => .error .malformed

/-- Reads an operator, which `null` and the empty string leave unset. -/
def decodeOperator {α : Type} (read : String → Except OperatorError α) :
    Doc flaw → Except DecodeError (Option α)
  | .null => .ok none
  | .string s =>
    if s = "" then .ok none
    else
      match read s with
      | .ok op => .ok (some op)
      | .error e => .error (.operator e)
  | _ => .error .malformed

/-- Sets a field that must not have been set before. -/
def setOnce {α : Type} (old : Option α) (read : Except DecodeError α) :
    Except DecodeError (Option α) :=
  match old with
  | some _ => .error .malformed
  | none => read.map some

/-! ## Reading comparisons -/

/-- The fields of a comparison that have been read. -/
structure ComparisonFields where
  name : Option String
  operator : Option (Option CompareOp)
  value : Option String

namespace ComparisonFields

/-- No field yet. -/
def none : ComparisonFields := ⟨.none, .none, .none⟩

/-- The comparison; a field that was not there is empty. -/
def finish (f : ComparisonFields) : Comparison :=
  ⟨f.name.getD "", f.operator.getD .none, f.value.getD ""⟩

/-- Reads the members of an object. -/
def readMembers (skippable : Doc flaw → Bool) (f : ComparisonFields) :
    List (String × Doc flaw) → Except DecodeError ComparisonFields
  | [] => .ok f
  | (key, d) :: rest =>
    if key = "name" then do
      let name ← setOnce f.name (decodeText d)
      readMembers skippable { f with name } rest
    else if key = "operator" then do
      let operator ← setOnce f.operator (decodeOperator CompareOp.read d)
      readMembers skippable { f with operator } rest
    else if key = "value" then do
      let value ← setOnce f.value (decodeText d)
      readMembers skippable { f with value } rest
    else if skippable d then readMembers skippable f rest
    else .error .malformed

/-- Reads the items of an array. -/
def readItems : List (Doc flaw) → Except DecodeError ComparisonFields
  | [] => .ok none
  | [n] => do return { none with name := some (← decodeText n) }
  | [n, o] => do
    return { none with
      name := some (← decodeText n)
      operator := some (← decodeOperator CompareOp.read o) }
  | n :: o :: v :: rest => do
    let name ← decodeText n
    let operator ← decodeOperator CompareOp.read o
    let value ← decodeText v
    if rest.isEmpty then return ⟨some name, some operator, some value⟩ else .error .malformed

end ComparisonFields

/-- **Reading a comparison.** -/
def Comparison.decode (skippable : Doc flaw → Bool) : Doc flaw → Except DecodeError Comparison
  | .object members => do return (← ComparisonFields.none.readMembers skippable members).finish
  | .array items => do return (← ComparisonFields.readItems items).finish
  | _ => .error .malformed

/-- Reads a comparison that may be left out by `null`. -/
def Comparison.decode? (skippable : Doc flaw → Bool) (d : Doc flaw) :
    Except DecodeError (Option Comparison) :=
  match d with
  | .null => .ok none
  | d => (Comparison.decode skippable d).map some

/-! ## Reading conditions -/

/-- The fields of a node that have been read. -/
structure NodeFields where
  joiner : Option (Option Connective)
  comparison : Option (Option Comparison)
  children : Option (List Condition)

namespace NodeFields

/-- No field yet. -/
def none : NodeFields := ⟨.none, .none, .none⟩

/-- **The node of some fields**: a leaf or a group, exactly one of the two. -/
def finish (f : NodeFields) : Except DecodeError Condition :=
  match f.comparison.getD .none, f.children.getD [] with
  | some _, _ :: _ => .error .attributeAndConditions
  | .none, [] => .error .neitherAttributeNorConditions
  | some comparison, [] => .ok (.leaf (f.joiner.getD .none) comparison)
  | .none, child :: children => .ok (.group (f.joiner.getD .none) (child :: children))

end NodeFields

namespace Condition

mutual

/-- **Reading a condition** from a document, given which values may be passed over. -/
def decode (skippable : Doc flaw → Bool) : Doc flaw → Except DecodeError Condition
  | .object members => do (← decodeMembers skippable .none members).finish
  | .array items => do (← decodeItems skippable items).finish
  | _ => .error .malformed

/-- Reads the members of a node. -/
def decodeMembers (skippable : Doc flaw → Bool) (f : NodeFields) :
    List (String × Doc flaw) → Except DecodeError NodeFields
  | [] => .ok f
  | (key, d) :: rest =>
    if key = "operator" then do
      let joiner ← setOnce f.joiner (decodeOperator Connective.read d)
      decodeMembers skippable { f with joiner } rest
    else if key = "attribute" then do
      let comparison ← setOnce f.comparison (Comparison.decode? skippable d)
      decodeMembers skippable { f with comparison } rest
    else if key = "conditions" then do
      let children ← setOnce f.children (decodeChildren skippable d)
      decodeMembers skippable { f with children } rest
    else if skippable d then decodeMembers skippable f rest
    else .error .malformed

/-- Reads a node that is written as an array. -/
def decodeItems (skippable : Doc flaw → Bool) : List (Doc flaw) → Except DecodeError NodeFields
  | [] => .ok .none
  | [o] => do return { NodeFields.none with joiner := some (← decodeOperator Connective.read o) }
  | [o, a] => do
    return { NodeFields.none with
      joiner := some (← decodeOperator Connective.read o)
      comparison := some (← Comparison.decode? skippable a) }
  | o :: a :: d :: rest => do
    let joiner ← decodeOperator Connective.read o
    let comparison ← Comparison.decode? skippable a
    let children ← decodeChildren skippable d
    if rest.isEmpty then return ⟨some joiner, some comparison, some children⟩
    else .error .malformed

/-- Reads the children of a group. -/
def decodeChildren (skippable : Doc flaw → Bool) : Doc flaw → Except DecodeError (List Condition)
  | .array items => decodeAll skippable items
  | _ => .error .malformed

/-- Reads several conditions. -/
def decodeAll (skippable : Doc flaw → Bool) : List (Doc flaw) → Except DecodeError (List Condition)
  | [] => .ok []
  | d :: rest => do
    let c ← decode skippable d
    let cs ← decodeAll skippable rest
    return c :: cs

end

/-- **Reading a condition from a JSON document.** -/
def ofJson (json : Json) : Except DecodeError Condition := decode (fun _ => true) json

/-- **Reading a condition from JSON text.** A fault of the text counts where it
stands, so a fault of the condition before it is reported first. -/
def ofJsonText (text : String) : Except DecodeError Condition := do
  let (draft, atEnd) := Json.readDraft Json.depthLimit text
  let c ← decode Draft.skippable draft
  if atEnd then return c else .error .malformed

/-- A condition as JSON text. -/
def toJsonText (c : Condition) : String := Json.compact c.toJson

end Condition

end FilterQuery
