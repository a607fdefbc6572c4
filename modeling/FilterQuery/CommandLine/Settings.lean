/-
# FilterQuery.CommandLine.Settings -- the settings file

A settings file gives variables their values, one on a line: `NAME=value`, perhaps
behind `export`. What the environment says goes before what the file says, and an
earlier line before a later one.

A value may be quoted. Single quotes keep all they hold. Elsewhere a backslash takes
the next character literally, and `$NAME` and `${NAME}` stand for the value of a
variable; without braces, its name is letters and digits only. An unquoted value ends
at a blank, behind which only a comment may follow. Reading stops at the first line
that is wrong.
-/
import FilterQuery.Text.Alphanumeric
import FilterQuery.Text.Blank

namespace FilterQuery

namespace CommandLine

/-- **A piece of a value**: a character or a variable. -/
inductive Piece where
  | char (c : Char)
  | variable (name : String)
  deriving DecidableEq, Repr

/-- **A setting**: a variable and the pieces of its value. -/
structure Setting where
  name : String
  value : List Piece
  deriving DecidableEq, Repr

namespace Setting

/-! ## Values -/

/-- Where a value is being read: outside single quotes, perhaps in double ones; in
single quotes; behind a backslash; in the name of a variable, newest character first,
without or with braces; or behind the end. -/
inductive Place where
  | plain (inQuotes : Bool)
  | single
  | escape (inQuotes : Bool)
  | name (inQuotes : Bool) (chars : List Char)
  | braces (inQuotes : Bool) (chars : List Char)
  | behind

/-- Characters that a backslash makes literal. -/
def isEscapable (c : Char) : Bool := c == '\\' || c == '\'' || c == '"' || c == '$' || c == ' '

/-- Adds pieces in front of others. -/
def prepend (pieces : List Piece) (value : Option (List Piece)) : Option (List Piece) :=
  value.map (pieces ++ ·)

/-- A variable, from the characters of its name, newest first. -/
def variablePiece (chars : List Char) : Piece := .variable (String.ofList chars.reverse)

/-- Reads the pieces of a value. The character behind the name of a variable is
literal, whatever it is, but for a dollar sign. -/
def readValue : Place → List Char → Option (List Piece)
  | .plain false, [] => some []
  | .escape false, [] => some []
  | .name false chars, [] => some [variablePiece chars]
  | .behind, [] => some []
  | _, [] => none
  | .plain true, c :: rest =>
    if c = '$' then readValue (.name true []) rest
    else if c = '"' then readValue (.plain false) rest
    else if c = '\\' then readValue (.escape true) rest
    else prepend [.char c] (readValue (.plain true) rest)
  | .plain false, c :: rest =>
    if c = '$' then readValue (.name false []) rest
    else if c = '\'' then readValue .single rest
    else if c = '"' then readValue (.plain true) rest
    else if c = '\\' then readValue (.escape false) rest
    else if c = ' ' ∨ c = '\t' then readValue .behind rest
    else prepend [.char c] (readValue (.plain false) rest)
  | .single, c :: rest =>
    if c = '\'' then readValue (.plain false) rest
    else prepend [.char c] (readValue .single rest)
  | .escape inQuotes, c :: rest =>
    if isEscapable c then prepend [.char c] (readValue (.plain inQuotes) rest)
    else if c = 'n' then prepend [.char '\n'] (readValue (.plain inQuotes) rest)
    else none
  | .name inQuotes chars, c :: rest =>
    if isAlphanumeric c then readValue (.name inQuotes (c :: chars)) rest
    else if c = '\x7b' ∧ chars = [] then readValue (.braces inQuotes []) rest
    else if c = '$' then prepend [variablePiece chars] (readValue (.name inQuotes []) rest)
    else prepend [variablePiece chars, .char c] (readValue (.plain inQuotes) rest)
  | .braces inQuotes chars, c :: rest =>
    if c = '\x7d' then prepend [variablePiece chars] (readValue (.plain inQuotes) rest)
    else readValue (.braces inQuotes (c :: chars)) rest
  | .behind, c :: rest =>
    if c = ' ' ∨ c = '\t' then readValue .behind rest
    else if c = '#' then some []
    else none

/-! ## Lines -/

/-- Splits off the name of a variable: a letter or underscore, then letters, digits,
underscores and points. -/
def readName? (text : List Char) : Option (String × List Char) :=
  match text with
  | c :: _ =>
    if c.isAlpha || c == '_' then
      let inName := fun c : Char => c.isAlphanum || c == '_' || c == '.'
      some (String.ofList (text.takeWhile inName), text.dropWhile inName)
    else none
  | [] => none

/-- Passes blanks and an equals sign, which has to be there. -/
def passEquals? (text : List Char) : Option (List Char) :=
  match text.dropWhile isBlank with
  | '=' :: rest => some rest
  | _ => none

/-- Reads a variable and the equals sign behind it. -/
def readTarget? (text : List Char) : Option (String × List Char) := do
  let (name, rest) ← readName? text
  return (name, ← passEquals? rest)

/-- Reads a variable behind the word that exports it. -/
def readExported? (text : List Char) : Option (String × List Char) := do
  let (word, rest) ← readName? text
  if word = "export" then readTarget? (rest.dropWhile isBlank) else none

/-- Reads a line that is neither empty nor a comment. -/
def readLine? (line : List Char) : Option Setting := do
  let (name, rest) ← (readTarget? line).or (readExported? line)
  match rest.dropWhile isBlank with
  | [] => return ⟨name, []⟩
  | '#' :: _ => return ⟨name, []⟩
  | value => return ⟨name, ← readValue (.plain false) value⟩

/-- A line without the blanks around it. -/
def trimLine (line : List Char) : List Char :=
  ((line.reverse.dropWhile isBlank).reverse).dropWhile isBlank

/-- Reads lines up to the first that is wrong. -/
def readLines : List (List Char) → List Setting
  | [] => []
  | line :: lines =>
    match trimLine line with
    | [] => readLines lines
    | c :: rest =>
      if c = '#' then readLines lines
      else
        match readLine? (c :: rest) with
        | none => []
        | some setting => setting :: readLines lines

/-- **The settings of a file.** -/
def ofText (text : String) : List Setting := readLines (text.toList.splitOn '\n')

/-! ## Effect -/

/-- The variables that a setting sets or mentions. -/
def mentioned (s : Setting) : List String :=
  s.name :: s.value.filterMap fun
    | .variable name => some name
    | .char _ => none

/-- The value of a setting among variables; one that is not set counts as empty. -/
def expand (environment : List (String × String)) (s : Setting) : String :=
  String.join (s.value.map fun
    | .char c => c.toString
    | .variable name => (environment.lookup name).getD "")

/-- **An environment, completed by settings**, each of which sees those before it. No
variable can have a value with a null character in it. -/
def complete? (environment : List (String × String)) :
    List Setting → Option (List (String × String))
  | [] => some environment
  | s :: settings =>
    if (environment.lookup s.name).isSome then complete? environment settings
    else if (s.expand environment).contains '\x00' then none
    else complete? (environment ++ [(s.name, s.expand environment)]) settings

end Setting

end CommandLine

end FilterQuery
