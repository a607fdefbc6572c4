/-
# FilterQuery.Query.Parse -- from a query to its condition

A term is a literal, a comparison symbol and a literal; the first is the name and
the second the value. Terms and parenthesised groups are the siblings of a level,
and a connective ties what follows it to what came before.

Parsing never fails. A connective discards a name that is waiting for its value;
a comparison symbol without a name before it is passed over; two literals in a
row are a term without an operator; parentheses left open are closed at the end
of the query, and an unmatched `)` ends it.
-/
import FilterQuery.Query.Token

namespace FilterQuery

/-! ## One level of parentheses -/

/-- **A level under way**: the siblings built so far, newest first, the last
connective read, and the term that still waits for its value. -/
structure Level where
  terms : List Condition
  joiner : Option Connective
  started : Option Comparison

namespace Level

/-- A level before its first token. -/
def start : Level := ⟨[], none, none⟩

/-- The siblings of a level in reading order. -/
def siblings (level : Level) : List Condition := level.terms.reverse

/-- A literal begins a term, or completes the one under way. -/
def literal (text : String) (level : Level) : Level :=
  match level.started with
  | none => { level with started := some (.named text) }
  | some comparison =>
    { level with
      terms := .leaf level.joiner { comparison with value := text } :: level.terms
      started := none }

/-- A comparison symbol belongs to the term under way. -/
def compare (op : CompareOp) (level : Level) : Level :=
  { level with
    started := level.started.map fun comparison => { comparison with operator := some op } }

/-- A connective ties what follows and discards the term under way. -/
def connect (c : Connective) (level : Level) : Level :=
  { level with joiner := some c, started := none }

/-- Takes the siblings of an inner level as one sibling. -/
def nest (level : Level) (inner : Level) : Level :=
  { level with terms := (Condition.ofTerms inner.siblings).withJoiner level.joiner :: level.terms }

/-- Closes every level that is still open, innermost first. -/
def closeAll (level : Level) : List Level → Level
  | [] => level
  | outer :: outers => closeAll (outer.nest level) outers

end Level

/-! ## The levels of a query -/

/-- Reads tokens into the innermost of the open levels; `outer` holds those around
it, innermost first. The reading ends with the tokens or behind a `)` that matches
no `(`, and the tokens left over are returned. -/
def parseLevel (level : Level) (outer : List Level) : List Token → List Condition × List Token
  | [] => ((level.closeAll outer).siblings, [])
  | .literal text :: rest => parseLevel (level.literal text) outer rest
  | .compare op :: rest => parseLevel (level.compare op) outer rest
  | .connective c :: rest => parseLevel (level.connect c) outer rest
  | .openParen :: rest => parseLevel .start (level :: outer) rest
  | .closeParen :: rest =>
    match outer with
    | [] => (level.siblings, rest)
    | up :: outer => parseLevel (up.nest level) outer rest

/-- **The condition a query stands for**: the group of its terms, or the empty
condition when it has none. -/
def parse (query : String) : Condition :=
  Condition.ofTerms (parseLevel .start [] (tokenize query)).1

end FilterQuery
