/-
# FilterQuery.Rule.Document -- rule files

A rule file is a YAML document with a sequence of `rules`, each a mapping with a
`name`, a query under `when` and perhaps a `description`. A document or sequence that
was left out has no rules. The three fields take any scalar as the text it is. Other
keys are passed over; a known key must not be repeated.
-/
import FilterQuery.Rule.Basic
import FilterQuery.Yaml.Node

namespace FilterQuery

open Yaml (Document Node)

namespace RuleDefinition

/-- The fields of a rule that have been read. -/
structure Fields where
  name : Option String
  description : Option String
  query : Option String

/-- The text of a scalar. -/
def scalarText? (d : Document) (node : Node) : Option String :=
  match d.resolve node with
  | .scalar _ text _ => some text
  | _ => none

/-- Sets a field that must not have been set before. -/
def setOnce? (old : Option String) (new : Option String) : Option (Option String) :=
  if old.isSome then none else new.map some

/-- Reads the entries of a rule. -/
def readFields? (d : Document) (f : Fields) : List (Node × Node) → Option Fields
  | [] => some f
  | (key, value) :: rest => do
    let key ← scalarText? d key
    if key = "name" then
      let name ← setOnce? f.name (scalarText? d value)
      readFields? d { f with name } rest
    else if key = "description" then
      let description ← setOnce? f.description (scalarText? d value)
      readFields? d { f with description } rest
    else if key = "when" then
      let query ← setOnce? f.query (scalarText? d value)
      readFields? d { f with query } rest
    else readFields? d f rest

/-- **A rule from its node**; the name and the query have to be there. -/
def ofNode? (d : Document) (node : Node) : Option RuleDefinition :=
  match d.resolve node with
  | .mapping _ entries => do
    let f ← readFields? d ⟨none, none, none⟩ entries
    return ⟨← f.name, f.description.getD "", ← f.query⟩
  | _ => none

/-- The rules of a sequence. -/
def ofItems? (d : Document) (node : Node) : Option (List RuleDefinition) :=
  match d.resolve node with
  | .sequence _ items => items.mapM (ofNode? d)
  | .scalar _ _ nothing => if nothing then some [] else none
  | _ => none

/-- Reads the entries of a document. -/
def readDocument? (d : Document) (rules : Option (List RuleDefinition)) :
    List (Node × Node) → Option (List RuleDefinition)
  | [] => some (rules.getD [])
  | (key, value) :: rest => do
    let key ← scalarText? d key
    if key = "rules" then
      if rules.isSome then none
      else
        let rules ← ofItems? d value
        readDocument? d (some rules) rest
    else readDocument? d rules rest

/-- **The definitions of a rule file.** -/
def ofYaml? (text : String) : Option (List RuleDefinition) := do
  let d ← Document.ofText? text
  match d.root with
  | none => some []
  | some (.mapping _ entries) => readDocument? d none entries
  | some (.scalar _ _ nothing) => if nothing then some [] else none
  | some _ => none

end RuleDefinition

/-- **Why a rule file makes no rule set.** -/
inductive RuleFileError where
  | malformed
  | rule (e : RuleError)
  deriving DecidableEq, Repr

/-- **The rule set of a rule file.** -/
def RuleSet.ofYaml (text : String) : Except RuleFileError RuleSet :=
  match RuleDefinition.ofYaml? text with
  | none => .error .malformed
  | some definitions =>
    match RuleSet.compile definitions with
    | .ok rules => .ok rules
    | .error e => .error (.rule e)

end FilterQuery
