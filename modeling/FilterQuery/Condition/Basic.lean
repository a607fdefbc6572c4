/-
# FilterQuery.Condition.Basic -- the condition tree

A filter condition is a tree. A leaf is one comparison `name op value`, kept as
the text it was written in; a group holds its children in order. Every node
carries the connective that joins it to the sibling before it, so a group has no
operator of its own: `a && b || c` is the list `a, (&&) b, (||) c`.

This module holds the tree, the two families of operators with their spellings,
and the names a tree mentions.
-/

namespace FilterQuery

/-! ## Operators and their spellings -/

/-- The five comparisons between an attribute and a literal. -/
inductive CompareOp where
  | eq
  | lt
  | le
  | gt
  | ge
  deriving DecidableEq, Repr

/-- The connectives between neighbouring siblings. -/
inductive Connective where
  | and
  | or
  deriving DecidableEq, Repr

/-- A text in an operator's place that spells none. -/
inductive OperatorError where
  | unknownComparison (text : String)
  | unknownConnective (text : String)
  deriving DecidableEq, Repr

/-- What is said about a text that spells no operator. -/
def OperatorError.message : OperatorError → String
  | .unknownComparison text => "unknown comparison operator '" ++ text ++ "'"
  | .unknownConnective text => "unknown logical operator '" ++ text ++ "'"

/-- How a comparison is written, in queries and in JSON alike. -/
def CompareOp.symbol : CompareOp → String
  | .eq => "="
  | .lt => "<"
  | .le => "<="
  | .gt => ">"
  | .ge => ">="

/-- Reads a comparison from its symbol. -/
def CompareOp.read (text : String) : Except OperatorError CompareOp :=
  if text = "=" then .ok .eq
  else if text = "<" then .ok .lt
  else if text = "<=" then .ok .le
  else if text = ">" then .ok .gt
  else if text = ">=" then .ok .ge
  else .error (.unknownComparison text)

theorem CompareOp.read_symbol (op : CompareOp) : CompareOp.read op.symbol = .ok op := by
  cases op <;> simp [CompareOp.read, CompareOp.symbol]

/-- **Deciding a comparison** from how the two sides are ordered. Sides that have
no order, as a number and a NaN, satisfy no comparison. -/
def CompareOp.holds (op : CompareOp) (order : Option Ordering) : Bool :=
  match op with
  | .eq => order == some .eq
  | .lt => order == some .lt
  | .le => order == some .lt || order == some .eq
  | .gt => order == some .gt
  | .ge => order == some .gt || order == some .eq

/-- How a connective is written in a query. -/
def Connective.symbol : Connective → String
  | .and => "&&"
  | .or => "||"

/-- How a connective is written in JSON. -/
def Connective.word : Connective → String
  | .and => "AND"
  | .or => "OR"

/-- Reads a connective from its word or its symbol. -/
def Connective.read (text : String) : Except OperatorError Connective :=
  if text = "AND" ∨ text = "&&" then .ok .and
  else if text = "OR" ∨ text = "||" then .ok .or
  else .error (.unknownConnective text)

theorem Connective.read_word (c : Connective) : Connective.read c.word = .ok c := by
  cases c <;> simp [Connective.read, Connective.word]

theorem Connective.read_symbol (c : Connective) : Connective.read c.symbol = .ok c := by
  cases c <;> simp [Connective.read, Connective.symbol]

/-- Joins two truth values. -/
def Connective.apply : Connective → Bool → Bool → Bool
  | .and, left, right => left && right
  | .or, left, right => left || right

/-! ## Comparisons -/

/-- **One comparison** `name op value`. The value is raw text and is read as a
number, a timestamp or plain text only when it meets the data. The operator is
unset in a term that was left unfinished. -/
structure Comparison where
  name : String
  operator : Option CompareOp
  value : String
  deriving DecidableEq, Repr

/-- The comparison that says nothing. -/
def Comparison.empty : Comparison := ⟨"", none, ""⟩

/-- A comparison of which only the name is known. -/
def Comparison.named (name : String) : Comparison := ⟨name, none, ""⟩

/-- A comparison is void when it names nothing; it then never holds. -/
def Comparison.isVoid (c : Comparison) : Bool := c.name == ""

theorem Comparison.isVoid_iff {c : Comparison} : c.isVoid = true ↔ c.name = "" := by
  simp [isVoid]

theorem Comparison.isVoid_eq_false_iff {c : Comparison} : c.isVoid = false ↔ c.name ≠ "" := by
  simp [isVoid]

/-! ## The tree -/

/-- **A condition**: a leaf with its comparison or a group with its children. The
`joiner` ties the node to the sibling before it and is unset on a root. -/
inductive Condition where
  | leaf (joiner : Option Connective) (comparison : Comparison)
  | group (joiner : Option Connective) (children : List Condition)
  deriving Repr

namespace Condition

instance : Inhabited Condition := ⟨.leaf none .empty⟩

/-- The condition that holds of nothing: what a query without terms means. -/
def empty : Condition := .leaf none .empty

/-- The connective that ties a node to the sibling before it. -/
def joiner : Condition → Option Connective
  | .leaf joiner _ => joiner
  | .group joiner _ => joiner

/-- The same node under another joiner. -/
def withJoiner (joiner : Option Connective) : Condition → Condition
  | .leaf _ comparison => .leaf joiner comparison
  | .group _ children => .group joiner children

@[simp] theorem joiner_withJoiner (j : Option Connective) (c : Condition) :
    (c.withJoiner j).joiner = j := by
  cases c <;> rfl

/-- The comparison of a leaf. -/
def comparison? : Condition → Option Comparison
  | .leaf _ comparison => some comparison
  | .group _ _ => none

/-- The children of a group; a leaf has none. -/
def children : Condition → List Condition
  | .leaf _ _ => []
  | .group _ children => children

/-- Whether the node is a leaf. -/
def isLeaf : Condition → Bool
  | .leaf _ _ => true
  | .group _ _ => false

/-- The group of some terms, or the empty condition when there are none. -/
def ofTerms : List Condition → Condition
  | [] => empty
  | terms => .group none terms

/-! ## Equality -/

mutual

/-- Decides whether two conditions are the same tree. -/
def decEq : (a b : Condition) → Decidable (a = b)
  | .leaf j c, .leaf k d =>
    if h : j = k ∧ c = d then .isTrue (by rw [h.1, h.2])
    else .isFalse (by simpa using h)
  | .group j cs, .group k ds =>
    if hj : j = k then
      match decEqAll cs ds with
      | .isTrue h => .isTrue (by rw [hj, h])
      | .isFalse h => .isFalse (by simp [h])
    else .isFalse (by simp [hj])
  | .leaf _ _, .group _ _ => .isFalse (by simp)
  | .group _ _, .leaf _ _ => .isFalse (by simp)

/-- Decides whether two lists of conditions are the same. -/
def decEqAll : (as bs : List Condition) → Decidable (as = bs)
  | [], [] => .isTrue rfl
  | a :: as, b :: bs =>
    match decEq a b, decEqAll as bs with
    | .isTrue h, .isTrue hs => .isTrue (by rw [h, hs])
    | .isFalse h, _ => .isFalse (by simp [h])
    | _, .isFalse hs => .isFalse (by simp [hs])
  | [], _ :: _ => .isFalse (by simp)
  | _ :: _, [] => .isFalse (by simp)

end

instance : DecidableEq Condition := decEq

/-! ## Leaves -/

mutual

/-- The comparisons of the leaves, from left to right. -/
def leaves : Condition → List Comparison
  | .leaf _ comparison => [comparison]
  | .group _ children => leavesAll children

/-- The leaves of several conditions, one after the other. -/
def leavesAll : List Condition → List Comparison
  | [] => []
  | c :: cs => c.leaves ++ leavesAll cs

end

/-! ## Names -/

mutual

/-- The names of the leaves that name something, from left to right. -/
def leafNames : Condition → List String
  | .leaf _ comparison => if comparison.isVoid then [] else [comparison.name]
  | .group _ children => leafNamesAll children

/-- The leaf names of several conditions, one after the other. -/
def leafNamesAll : List Condition → List String
  | [] => []
  | c :: cs => c.leafNames ++ leafNamesAll cs

end

end Condition

/-- Puts a name into an ascending list of names, once. -/
def insertName (name : String) : List String → List String
  | [] => [name]
  | other :: rest =>
    if name < other then name :: other :: rest
    else if name = other then other :: rest
    else other :: insertName name rest

theorem mem_insertName {x name : String} {names : List String} :
    x ∈ insertName name names ↔ x = name ∨ x ∈ names := by
  induction names with
  | nil => simp [insertName]
  | cons other rest ih =>
      rw [insertName]
      split
      · simp
      · split
        · next h => subst h; simp
        · simp only [List.mem_cons, ih]
          constructor
          · rintro (h | h | h) <;> simp [h]
          · rintro (h | h | h) <;> simp [h]

/-- **The names a condition mentions**, each once, ascending by code point. -/
def Condition.names (c : Condition) : List String :=
  c.leafNames.foldr insertName []

theorem Condition.mem_names {x : String} {c : Condition} : x ∈ c.names ↔ x ∈ c.leafNames := by
  unfold Condition.names
  induction c.leafNames with
  | nil => simp
  | cons y ys ih => rw [List.foldr_cons, mem_insertName, ih, List.mem_cons]

end FilterQuery
