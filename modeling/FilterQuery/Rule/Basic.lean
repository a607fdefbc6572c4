/-
# FilterQuery.Rule.Basic -- sets of named rules

A rule set is made from definitions: a name, a description and a query. Names are
not empty and no two are the same; the first definition that breaks this decides
the error. The rules keep the order of their definitions, and so do all answers.
-/
import FilterQuery.Evaluation
import FilterQuery.Matching
import FilterQuery.Query.Parse

namespace FilterQuery

/-- **A rule as it is defined.** -/
structure RuleDefinition where
  name : String
  description : String
  query : String
  deriving DecidableEq, Repr

/-- **A rule** with the condition that its query stands for. -/
structure Rule where
  name : String
  description : String
  condition : Condition
  deriving DecidableEq, Repr

/-- The rule of a definition. -/
def RuleDefinition.compile (d : RuleDefinition) : Rule := ⟨d.name, d.description, parse d.query⟩

/-- **Why definitions make no rule set.** -/
inductive RuleError where
  | emptyName
  | duplicateName (name : String)
  deriving DecidableEq, Repr

/-- What is said about definitions that make no rule set. -/
def RuleError.message : RuleError → String
  | .emptyName => "Configuration error: rule name can't be empty"
  | .duplicateName name => "Configuration error: duplicate rule name '" ++ name ++ "'"

/-- **A rule set.** -/
structure RuleSet where
  rules : List Rule
  deriving DecidableEq, Repr

namespace RuleSet

/-! ## Making rule sets -/

/-- Compiles definitions that follow others, whose names are taken. -/
def compileAfter (taken : List String) : List RuleDefinition → Except RuleError (List Rule)
  | [] => .ok []
  | d :: ds =>
    if d.name = "" then .error .emptyName
    else if taken.contains d.name then .error (.duplicateName d.name)
    else do
      let rules ← compileAfter (d.name :: taken) ds
      return d.compile :: rules

/-- **The rule set of some definitions.** -/
def compile (definitions : List RuleDefinition) : Except RuleError RuleSet :=
  (compileAfter [] definitions).map RuleSet.mk

/-! ## Asking rule sets -/

/-- The rule of a name. -/
def get? (s : RuleSet) (name : String) : Option Rule := s.rules.find? (·.name == name)

/-- **The rules that a candidate satisfies**, each of them as the reference. -/
def matching (s : RuleSet) (candidate : Condition) : List Rule :=
  s.rules.filter fun rule => rule.condition.accepts candidate

/-- **The rules that hold for a record**, or the error of the first that has one. -/
def matchingRecord (s : RuleSet) (r : Record) : Except DataError (List Rule) :=
  keepWhere (fun rule => rule.condition.evaluate r) s.rules

end RuleSet

end FilterQuery
