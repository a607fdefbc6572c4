/-
# FilterQuery.Query.Token -- the tokens of a query

A query such as `id=1 && (division=ops || division="people ops")` is read as
literals, comparison symbols, connectives and parentheses. Reading never fails:

* a literal is a run of characters that are neither blank nor symbols;
* double quotes take blanks and symbols into a literal and vanish themselves,
  anywhere in it, and `""` is a literal without characters;
* a quote left open reaches to the end of the query;
* a lone `&` or `|` is an ordinary character.

The reader is a machine that takes one character at a time. A character that may
begin a symbol of two is held back until the next one settles what it is.
-/
import FilterQuery.Condition.Basic
import FilterQuery.Text.Blank

namespace FilterQuery

/-- **A token** of the query language. A literal stands for a name or a value;
its quotes are gone. -/
inductive Token where
  | literal (text : String)
  | compare (op : CompareOp)
  | connective (c : Connective)
  | openParen
  | closeParen
  deriving DecidableEq, Repr

namespace Token

/-! ## The literal being read -/

/-- A literal under way: its characters so far, newest first, or `none` when no
literal has begun. An opening quote begins one that may stay without characters. -/
abbrev Pending := Option (List Char)

/-- The characters of the literal under way, newest first. -/
def Pending.chars (pending : Pending) : List Char := pending.getD []

/-- What the end of a literal yields: its token, if a literal was under way. -/
def Pending.close : Pending → List Token
  | none => []
  | some chars => [.literal (String.ofList chars.reverse)]

/-! ## Symbols -/

/-- The token of a character that is a symbol whatever follows it. -/
def symbol? (c : Char) : Option Token :=
  if c = '(' then some .openParen
  else if c = ')' then some .closeParen
  else if c = '=' then some (.compare .eq)
  else none

/-- Whether a character may begin a symbol of two characters. -/
def mayPair (c : Char) : Bool := c == '<' || c == '>' || c == '&' || c == '|'

/-- The token of two characters. -/
def pair? (c next : Char) : Option Token :=
  if c = '<' ∧ next = '=' then some (.compare .le)
  else if c = '>' ∧ next = '=' then some (.compare .ge)
  else if c = '&' ∧ next = '&' then some (.connective .and)
  else if c = '|' ∧ next = '|' then some (.connective .or)
  else none

/-- What a held character is when it begins no pair: a symbol, or a character of the
literal before it. -/
def release (pending : Pending) (c : Char) : List Token × Pending :=
  if c = '<' then (pending.close ++ [.compare .lt], none)
  else if c = '>' then (pending.close ++ [.compare .gt], none)
  else ([], some (c :: pending.chars))

/-! ## The machine -/

/-- **Where the reader stands**: outside quotes, there with a character held back that
may begin a pair, or inside quotes. -/
inductive State where
  | outside (pending : Pending)
  | held (pending : Pending) (c : Char)
  | quoted (chars : List Char)

/-- One character outside quotes: the tokens it completes, and where it leads. -/
def stepOutside (pending : Pending) (c : Char) : List Token × State :=
  if c = '"' then ([], .quoted pending.chars)
  else if isBlank c then (pending.close, .outside none)
  else if mayPair c then ([], .held pending c)
  else
    match symbol? c with
    | some token => (pending.close ++ [token], .outside none)
    | none => ([], .outside (some (c :: pending.chars)))

/-- **One character**: the tokens it completes, and where it leads. -/
def State.step (c : Char) : State → List Token × State
  | .outside pending => stepOutside pending c
  | .held pending first =>
    match pair? first c with
    | some token => (pending.close ++ [token], .outside none)
    | none =>
      ((release pending first).1 ++ (stepOutside (release pending first).2 c).1,
        (stepOutside (release pending first).2 c).2)
  | .quoted chars =>
    if c = '"' then ([], .outside (some chars)) else ([], .quoted (c :: chars))

/-- The tokens that the end of the query completes. -/
def State.finish : State → List Token
  | .outside pending => pending.close
  | .held pending c => (release pending c).1 ++ (release pending c).2.close
  | .quoted chars => Pending.close (some chars)

/-- The tokens of the rest of a query. -/
def State.run (state : State) : List Char → List Token
  | [] => state.finish
  | c :: rest => (state.step c).1 ++ (state.step c).2.run rest

/-- The tokens that some characters complete, and where they lead. -/
def State.steps (state : State) : List Char → List Token × State
  | [] => ([], state)
  | c :: rest =>
    ((state.step c).1 ++ ((state.step c).2.steps rest).1, ((state.step c).2.steps rest).2)

/-- Reading goes on from where it has led. -/
theorem State.run_append (state : State) (u v : List Char) :
    state.run (u ++ v) = (state.steps u).1 ++ (state.steps u).2.run v := by
  induction u generalizing state with
  | nil => simp [steps]
  | cons c u ih => simp [run, steps, ih]

end Token

/-- **The tokens of a query**, from left to right. -/
def tokenize (query : String) : List Token := Token.State.run (.outside none) query.toList

end FilterQuery
