/-
# FilterQuery.CommandLine.Command -- what the program does

A command line names one of six commands and its options. Some commands read a file;
which one is known before it is read, so that a command is a function from the
content of its file to what it prints or why it fails.
-/
import FilterQuery.CommandLine.Options
import FilterQuery.CommandLine.Settings
import FilterQuery.Condition.Json
import FilterQuery.Query.Render
import FilterQuery.Rule.Document

namespace FilterQuery

/-- **A command** with its options. -/
inductive Command where
  | parse (query : String) (pretty : Bool)
  | render (query : String)
  | matchRecord (query file : String)
  | filterRecords (query file : String)
  | compare (reference candidate : String)
  | rules (file : Option String) (candidate : String)
  deriving DecidableEq, Repr

namespace CommandLine

/-! ## Failures -/

/-- **Why a command fails.** -/
inductive Failure where
  | settings
  | usage
  | unreadable (file : String)
  | notJson (file : String)
  | data (e : DataError)
  | noRuleFile
  | ruleFileMissing
  | ruleFileUnreadable
  | rules (e : RuleFileError)
  deriving DecidableEq, Repr

/-- The exit code of a failure. -/
def Failure.exitCode : Failure → Nat
  | .settings => 101
  | .usage => 2
  | _ => 1

/-- The variable that names the rule file where no option does. -/
def rulesVariable : String := "AST_FILTER_RULES"

/-- What is said about a failure, where that is laid down. -/
def Failure.message? : Failure → Option String
  | .settings => none
  | .usage => none
  | .unreadable file => some ("Error: reading " ++ file)
  | .notJson file => some ("Error: parsing " ++ file)
  | .data e => some ("Error: " ++ e.message)
  | .noRuleFile => some ("Error: no rule set given, pass --rules or set " ++ rulesVariable)
  | .ruleFileMissing => some "Error: No such file or directory (os error 2)"
  | .ruleFileUnreadable => none
  | .rules (.rule e) => some ("Error: " ++ e.message)
  | .rules .malformed => none

/-- **What there is under the name of a file.** -/
inductive FileContent where
  | text (content : String)
  | missing
  | unreadable

/-! ## Reading the command line -/

/-- The option for a query. -/
def queryOption : OptionSpec := ⟨'q', "query", true⟩

/-- **The command of a command line.** -/
def read? : List String → Option Command
  | [] => none
  | name :: args =>
    match name with
    | "parse" => do
      let given ← readOptions? [queryOption, ⟨'p', "pretty", false⟩] [] args
      return .parse (← given.lookup "query") (given.lookup "pretty").isSome
    | "render" => do
      let given ← readOptions? [queryOption] [] args
      return .render (← given.lookup "query")
    | "match" => do
      let given ← readOptions? [queryOption, ⟨'r', "record", true⟩] [] args
      return .matchRecord (← given.lookup "query") (← given.lookup "record")
    | "filter" => do
      let given ← readOptions? [queryOption, ⟨'i', "input", true⟩] [] args
      return .filterRecords (← given.lookup "query") (← given.lookup "input")
    | "compare" => do
      let given ← readOptions? [⟨'r', "reference", true⟩, ⟨'c', "candidate", true⟩] [] args
      return .compare (← given.lookup "reference") (← given.lookup "candidate")
    | "rules" => do
      let given ← readOptions? [⟨'r', "rules", true⟩, ⟨'c', "candidate", true⟩] [] args
      return .rules (given.lookup "rules") (← given.lookup "candidate")
    | _ => none

/-- The file that a command reads, given the rule file of the environment. -/
def file? (ruleFile : Option String) : Command → Option String
  | .matchRecord _ file => some file
  | .filterRecords _ file => some file
  | .rules file _ => file.or ruleFile
  | _ => none

/-! ## Running -/

/-- The JSON document in a file. -/
def readJson (file : String) (content : FileContent) : Except Failure Json :=
  match content with
  | .text text =>
    match Json.read Json.depthLimit text with
    | some json => .ok json
    | none => .error (.notJson file)
  | _ => .error (.unreadable file)

/-- The rule set in a file. -/
def readRules (content : FileContent) : Except Failure RuleSet :=
  match content with
  | .text text => (RuleSet.ofYaml text).mapError .rules
  | .missing => .error .ruleFileMissing
  | .unreadable => .error .ruleFileUnreadable

/-- A truth value as a line. -/
def verdictLine (b : Bool) : String := if b then "true\n" else "false\n"

/-- A rule as a line: its name, and its description if it has one. -/
def ruleLine (rule : Rule) : String :=
  if rule.description = "" then rule.name ++ "\n"
  else rule.name ++ "\t" ++ rule.description ++ "\n"

/-- **What a command prints**, given its file, if it has one, and the content of that. -/
def output (file : Option String) (content : FileContent) :
    Command → Except Failure String
  | .parse query pretty =>
    let json := (FilterQuery.parse query).toJson
    .ok ((if pretty then Json.pretty 0 json else Json.compact json) ++ "\n")
  | .render query => .ok ((FilterQuery.parse query).render ++ "\n")
  | .matchRecord query name => do
    let json ← readJson name content
    let matched ← ((FilterQuery.parse query).evaluateJson json).mapError .data
    return verdictLine matched
  | .filterRecords query name => do
    let json ← readJson name content
    let passed ← ((FilterQuery.parse query).filterJson json).mapError .data
    return Json.pretty 0 (.array passed) ++ "\n"
  | .compare reference candidate =>
    .ok (verdictLine
      ((FilterQuery.parse reference).accepts (FilterQuery.parse candidate)))
  | .rules _ candidate =>
    if file.isNone then .error .noRuleFile
    else do
      let rules ← readRules content
      return String.join ((rules.matching (FilterQuery.parse candidate)).map ruleLine)

end CommandLine

end FilterQuery
