/-
# FilterQuery.CommandLine.Log -- which remarks are reported

The program remarks on its work, and `RUST_LOG` says which remarks are reported. It
holds directives, separated by commas, and perhaps a slash and a pattern. A directive is
a level, or the beginning of the names of the sources that are meant, alone or with `=`
and a level. The longest name that fits the source of a remark decides, of equal names
the last; a level on its own stands for all sources. Where no directive is given, errors
alone are reported. With a pattern, only remarks that it matches are reported.

A directive or a pattern that makes no sense is passed over, and that is reported.
-/
import FilterQuery.Pattern.Read

namespace FilterQuery

namespace CommandLine

/-! ## Remarks -/

/-- **How much a remark matters**; a greater level has more to say. -/
inductive Level where
  | error
  | warn
  | info
  | debug
  | trace
  deriving DecidableEq, Repr

/-- The place of a level among all. -/
def Level.rank : Level → Nat
  | .error => 1
  | .warn => 2
  | .info => 3
  | .debug => 4
  | .trace => 5

/-- The word for a level. -/
def Level.word : Level → String
  | .error => "ERROR"
  | .warn => "WARN"
  | .info => "INFO"
  | .debug => "DEBUG"
  | .trace => "TRACE"

/-- **The parts of the program** that make remarks. -/
inductive Source where
  | program
  | tokens
  | queries
  | records
  | collections
  | candidates
  | rules
  | ruleFiles
  deriving DecidableEq, Repr

/-- The name of a source, by which directives refer to it. -/
def Source.name : Source → String
  | .program => "ast_filter"
  | .tokens => "ast_filter::condition::lexer"
  | .queries => "ast_filter::condition::parser"
  | .records => "ast_filter::condition::evaluator"
  | .collections => "ast_filter::condition::filter"
  | .candidates => "ast_filter::condition::matcher"
  | .rules => "ast_filter::rules"
  | .ruleFiles => "ast_filter::rules::loader"

/-- **A remark** on the work of the program. -/
structure Remark where
  source : Source
  level : Level
  text : String
  deriving DecidableEq, Repr

/-! ## Directives -/

/-- **A directive**: the rank up to which remarks are reported from sources whose names
begin with a name, or from all sources. -/
structure Directive where
  name : Option (List Char)
  rank : Nat
  deriving DecidableEq, Repr

namespace Directive

/-- Reads a level in any letter case as its rank; `off` lets nothing through. -/
def readRank? (text : List Char) : Option Nat :=
  let folded := String.ofList (text.map Char.toUpper)
  if folded = "OFF" then some 0
  else ([.error, .warn, .info, .debug, .trace].find? fun l => folded = Level.word l).map Level.rank

/-- A text without the blanks around it. -/
def trim (text : List Char) : List Char :=
  ((text.dropWhile isBlank).reverse.dropWhile isBlank).reverse

/-- Reads a directive. -/
def read? (text : List Char) : Option Directive :=
  match text.splitOn '=' with
  | [name] =>
    match readRank? name with
    | some rank => some ⟨none, rank⟩
    | none => some ⟨some name, Level.trace.rank⟩
  | [name, level] =>
    if trim level = [] then some ⟨some name, Level.trace.rank⟩
    else (readRank? (trim level)).map fun rank => ⟨some name, rank⟩
  | _ => none

/-- The texts that should be directives. -/
def texts (text : List Char) : List (List Char) :=
  ((text.splitOn ',').map trim).filter (· ≠ [])

/-- Adds a directive to others. It takes the place of one of the same name. -/
def insert (d : Directive) : List Directive → List Directive
  | [] => [d]
  | e :: es => if e.name = d.name then d :: es else e :: d.insert es

/-- How long the name of a directive is; none is as short as an empty one. -/
def length (d : Directive) : Nat := (d.name.getD []).length

/-- Whether a directive is about a source. -/
def fits (source : Source) (d : Directive) : Bool :=
  d.name.all fun name => name.isPrefixOf source.name.toList

/-- Chooses the directive with the longer name, of equal lengths the second. -/
def stronger (chosen : Option Directive) (d : Directive) : Option Directive :=
  match chosen with
  | none => some d
  | some c => if c.length ≤ d.length then some d else some c

end Directive

/-! ## What is reported -/

/-- The variable that says what is reported. -/
def logVariable : String := "RUST_LOG"

/-- **What a setting of the log says**: its directives, its pattern, and whether some of it
makes no sense. -/
structure LogSetting where
  directives : List Directive
  pattern : Option Pattern
  isFaulty : Bool

namespace LogSetting

/-- Reads directives. -/
def ofDirectives (text : List Char) : LogSetting :=
  let read := (Directive.texts text).map Directive.read?
  ⟨(read.filterMap id).foldl (fun ds d => d.insert ds) [], none, read.any Option.isNone⟩

/-- **Reads a setting of the log.** More than one slash leaves nothing of it. -/
def read (setting : String) : LogSetting :=
  match setting.toList.splitOn '/' with
  | [directives] => ofDirectives directives
  | [directives, wording] =>
    match Pattern.read? wording with
    | some pattern => { ofDirectives directives with pattern := some pattern }
    | none => { ofDirectives directives with isFaulty := true }
  | _ => ⟨[], none, true⟩

/-- The rank up to which remarks of a source are reported. -/
def rank (s : LogSetting) (source : Source) : Nat :=
  if s.directives.isEmpty then Level.error.rank
  else
    let fitting := s.directives.filter (Directive.fits source)
    ((fitting.foldl Directive.stronger none).map Directive.rank).getD 0

/-- Whether a remark is reported. -/
def reports (s : LogSetting) (r : Remark) : Bool :=
  r.level.rank ≤ s.rank r.source && s.pattern.all fun pattern => pattern.isIn r.text

end LogSetting

/-- A remark as it is reported. -/
def Remark.line (r : Remark) : String :=
  "[" ++ r.level.word ++ " " ++ r.source.name ++ "] " ++ r.text

/-- **The lines that are reported** of some remarks, given the setting of the log. -/
def reportedLines (setting : Option String) (remarks : List Remark) : List String :=
  let s := LogSetting.read (setting.getD "")
  let lines := (remarks.filter s.reports).map Remark.line
  if s.isFaulty then ("warning: invalid directive in " ++ logVariable) :: lines else lines

end CommandLine

end FilterQuery
