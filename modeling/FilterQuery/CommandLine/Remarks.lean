/-
# FilterQuery.CommandLine.Remarks -- what the program remarks on

A command remarks on what it does while it does it: on the tokens and the terms of a
query, on names that a record lacks, on rules that will never match, on what was kept in
the end. Where a command fails, its remarks end at that point.
-/
import FilterQuery.CommandLine.Command
import FilterQuery.CommandLine.Log
import FilterQuery.Text.Quoted

namespace FilterQuery

/-! ## Tokens in remarks -/

/-- How a comparison is called in remarks. -/
def CompareOp.remark : CompareOp → String
  | .eq => "Eq"
  | .lt => "Lt"
  | .le => "Lte"
  | .gt => "Gt"
  | .ge => "Gte"

/-- How a connective is called in remarks. -/
def Connective.remark : Connective → String
  | .and => "And"
  | .or => "Or"

/-- How a token is written in remarks. -/
def Token.remark : Token → String
  | .literal text => "Ident(" ++ quoted text ++ ")"
  | .compare op => "Compare(" ++ op.remark ++ ")"
  | .connective c => "Logical(" ++ c.remark ++ ")"
  | .openParen => "LParen"
  | .closeParen => "RParen"

namespace CommandLine

/-! ## Queries -/

/-- What is remarked on when a query is parsed. -/
def queryRemarks (query : String) : List Remark :=
  let tokens := "[" ++ String.intercalate ", " ((tokenize query).map Token.remark) ++ "]"
  let terms := toString (parse query).children.length
  [⟨.tokens, .trace, "tokenized " ++ quoted query ++ " into " ++ tokens⟩,
    ⟨.queries, .debug, "parsed " ++ quoted query ++ " into " ++ terms ++ " top-level condition(s)"⟩]

/-! ## Records -/

/-- Whether a comparison is false because a record lacks its name. -/
def isMissed (r : Record) (c : Comparison) : Bool :=
  c.operator.isSome && !c.isVoid &&
    match r.lookup c.name with
    | .ok none => true
    | _ => false

/-- The names that a record lacks, of comparisons that are evaluated one after the other. An
error ends the evaluation. -/
def missedNames (r : Record) : List Comparison → List String
  | [] => []
  | c :: cs =>
    match c.evaluate r with
    | .error _ => []
    | .ok _ => if isMissed r c then c.name :: missedNames r cs else missedNames r cs

/-- What is remarked on when a condition is evaluated on a JSON document. -/
def recordRemarks (c : Condition) : Json → List Remark
  | .object members =>
    (missedNames (.ofObject members) c.leaves).map fun name =>
      ⟨.records, .trace, "attribute '" ++ name ++ "' not present in record"⟩
  | _ => []

/-- What is remarked on when a condition is evaluated on JSON documents one after the other.
An error ends the evaluation. -/
def itemRemarks (c : Condition) : List Json → List Remark
  | [] => []
  | item :: items =>
    match c.evaluateJson item with
    | .error _ => recordRemarks c item
    | .ok _ => recordRemarks c item ++ itemRemarks c items

/-- How many of how many things are meant. -/
def outOf (part whole : Nat) : String := toString part ++ "/" ++ toString whole

/-- What is remarked on when a JSON array is filtered. -/
def filterRemarks (c : Condition) : Json → List Remark
  | .array items =>
    itemRemarks c items ++
      match c.filterJson (.array items) with
      | .error _ => []
      | .ok passed =>
        let kept := outOf passed.length items.length
        [⟨.collections, .debug, "filter kept " ++ kept ++ " element(s)"⟩]
  | _ => []

/-! ## Rules -/

/-- What is remarked on when a candidate is held against a reference. -/
def candidateRemarks (reference candidate : Condition) : List Remark :=
  match Condition.missingNames reference candidate with
  | [] => []
  | missing =>
    let count := toString missing.length
    [⟨.candidates, .debug,
      "candidate lacks " ++ count ++ " referenced attribute(s), adding failing placeholders"⟩]

/-- What is remarked on when definitions are compiled that follow others, whose names are
taken; nothing from the first on that makes no rule. -/
def definitionRemarks (taken : List String) : List RuleDefinition → List Remark
  | [] => []
  | d :: ds =>
    if d.name = "" ∨ taken.contains d.name then []
    else
      let unusable : Remark :=
        ⟨.rules, .warn,
          "rule '" ++ d.name ++ "' has no usable condition and will never match: " ++
            quoted d.query⟩
      queryRemarks d.query ++ (if d.compile.condition = .empty then [unusable] else []) ++
        definitionRemarks (d.name :: taken) ds

/-- What is remarked on when the rules are asked that a candidate satisfies. -/
def matchingRemarks (rules : RuleSet) (candidate : Condition) : List Remark :=
  let kept := outOf (rules.matching candidate).length rules.rules.length
  rules.rules.flatMap (fun rule => candidateRemarks rule.condition candidate) ++
    [⟨.rules, .debug, "candidate " ++ candidate.render ++ " matched " ++ kept ++ " rule(s)"⟩]

/-- What is remarked on when the rules of a file are asked that a candidate satisfies. -/
def ruleFileRemarks (name : String) (content : FileContent) (candidate : String) : List Remark :=
  let definitions :=
    match content with
    | .text text => (RuleDefinition.ofYaml? text).getD []
    | _ => []
  [⟨.ruleFiles, .debug, "loading rules from " ++ name⟩] ++ definitionRemarks [] definitions ++
    match readRules content with
    | .error _ => []
    | .ok rules =>
      let count := toString rules.rules.length
      [⟨.program, .info, "Loaded " ++ count ++ " rule(s) from " ++ name⟩] ++
        queryRemarks candidate ++ matchingRemarks rules (parse candidate)

/-! ## Commands -/

/-- **What a command remarks on**, given its file, if it has one, and the content of that. -/
def remarks (file : Option String) (content : FileContent) : Command → List Remark
  | .parse query _ => queryRemarks query
  | .render query => queryRemarks query
  | .matchRecord query name =>
    match readJson name content with
    | .error _ => []
    | .ok json => queryRemarks query ++ recordRemarks (FilterQuery.parse query) json
  | .filterRecords query name =>
    match readJson name content with
    | .error _ => []
    | .ok json => queryRemarks query ++ filterRemarks (FilterQuery.parse query) json
  | .compare reference candidate =>
    queryRemarks reference ++ queryRemarks candidate ++
      candidateRemarks (FilterQuery.parse reference) (FilterQuery.parse candidate)
  | .rules _ candidate =>
    match file with
    | none => []
    | some name => ruleFileRemarks name content candidate

end CommandLine

end FilterQuery
