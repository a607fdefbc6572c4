/-
# FilterQuery.Proofs.Query.Composition -- a query made of two queries

Two balanced queries in parentheses, with a connective between them, make a query that means
what the two mean, joined by that connective. It is parsed as the group of the two
conditions (`parse_compose`), and so it is evaluated as their results are joined, with the
error of the first before that of the second, and as a reference it accepts a candidate as
the two references do.

The last is not so because of the group alone. A candidate is completed for the names of
both queries at once; that this changes nothing for either of them is what matching without
completion says.
-/
import FilterQuery.Proofs.Evaluation.Running
import FilterQuery.Proofs.Matching.Completion
import FilterQuery.Proofs.Query.Balanced

namespace FilterQuery

/-- **Two queries as one**: each in parentheses, and the connective between them. -/
def Connective.compose (k : Connective) (u v : String) : String :=
  "(" ++ u ++ ") " ++ k.symbol ++ " (" ++ v ++ ")"

/-! ## Two siblings -/

namespace Condition

theorem evaluate_pair (r : Record) (j k : Option Connective) (c d : Condition) :
    (group none [c.withJoiner j, d.withJoiner k]).evaluate r = do
      let left ← c.evaluate r
      let right ← d.evaluate r
      return (k.getD .and).apply left right := by
  simp only [evaluate_group, evaluateFrom_cons, evaluate_withJoiner, evaluateFrom_nil,
    joiner_withJoiner, Verdict.join_none, Verdict.join_some]
  rfl

theorem accepts_pair (candidate : Condition) (j k : Option Connective) (c d : Condition) :
    (group none [c.withJoiner j, d.withJoiner k]).accepts candidate =
      (k.getD .and).apply (c.accepts candidate) (d.accepts candidate) := by
  rw [accepts_eq_truth, accepts_eq_truth, accepts_eq_truth, truth_group]
  simp only [List.map_cons, List.map_nil, truth_withJoiner, joiner_withJoiner]
  rfl

end Condition

/-! ## The composed query -/

open Token in
theorem tokenize_compose {u v : String} (hu : IsBalanced u) (hv : IsBalanced v) (k : Connective) :
    tokenize (k.compose u v) =
      (.openParen :: (tokenize u ++ [.closeParen])) ++
        .connective k :: .openParen :: (tokenize v ++ [.closeParen]) := by
  have hblank : delimiter? ' ' = some [] := by decide
  have hleft : Spells u.toList (tokenize u) := ⟨rfl, hu.quotes⟩
  have hright : Spells v.toList (tokenize v) := ⟨rfl, hv.quotes⟩
  have hall := (Condition.spells_parenthesized hleft).delimit hblank
    ((spells_symbol k).delimit hblank (Condition.spells_parenthesized hright))
  have hchars : (k.compose u v).toList =
      '(' :: (u.toList ++ [')']) ++ ' ' :: (k.symbol.toList ++ ' ' :: '(' :: (v.toList ++ [')'])) := by
    simp [Connective.compose]
  rw [tokenize, hchars, hall.reads]
  simp

theorem parse_compose {u v : String} (hu : IsBalanced u) (hv : IsBalanced v) (k : Connective) :
    parse (k.compose u v) =
      .group none [(parse u).withJoiner none, (parse v).withJoiner (some k)] := by
  have hadds := (adds_balanced hu).connect (adds_balanced hv) k
  rw [parse, tokenize_compose hu hv, hadds.terms]
  rfl

/-- **Queries compose.** Whatever the two balanced queries are, the query made of them is parsed
as the group of the two conditions. It is evaluated against a record as both of them and the
connective say, or to the error of the first that has one, and it accepts the candidates
that the two references accept, as the connective says. -/
theorem meaning_of_compose {u v : String} (hu : IsBalanced u) (hv : IsBalanced v)
    (k : Connective) :
    parse (k.compose u v) =
        .group none [(parse u).withJoiner none, (parse v).withJoiner (some k)] ∧
      (∀ r : Record, (parse (k.compose u v)).evaluate r = do
        let left ← (parse u).evaluate r
        let right ← (parse v).evaluate r
        return k.apply left right) ∧
      (∀ candidate : Condition, (parse (k.compose u v)).accepts candidate =
        k.apply ((parse u).accepts candidate) ((parse v).accepts candidate)) := by
  have hparse := parse_compose hu hv k
  refine ⟨hparse, ?_, ?_⟩
  · intro r
    rw [hparse, Condition.evaluate_pair]
    rfl
  · intro candidate
    rw [hparse, Condition.accepts_pair]
    rfl

/-- A query that begins and ends with a connective, and has a parenthesis in quotes. -/
def looseQuery : String := "|| x \"a)(\" = (b<5) &&"

/-- A query with a name at its end that waits for its value. -/
def waitingQuery : String := "c>=2 d"

theorem meaning_of_compose_loose :
    IsBalanced looseQuery ∧ IsBalanced waitingQuery ∧
      parse (Connective.or.compose looseQuery waitingQuery) =
        .group none [(parse looseQuery).withJoiner none,
          (parse waitingQuery).withJoiner (some .or)] ∧
      (∀ r : Record, (parse (Connective.or.compose looseQuery waitingQuery)).evaluate r = do
        let left ← (parse looseQuery).evaluate r
        let right ← (parse waitingQuery).evaluate r
        return Connective.or.apply left right) ∧
      (∀ candidate : Condition,
        (parse (Connective.or.compose looseQuery waitingQuery)).accepts candidate =
          Connective.or.apply ((parse looseQuery).accepts candidate)
            ((parse waitingQuery).accepts candidate)) := by
  have hloose : IsBalanced looseQuery := ⟨by decide +kernel, by decide +kernel⟩
  have hwaiting : IsBalanced waitingQuery := ⟨by decide +kernel, by decide +kernel⟩
  exact ⟨hloose, hwaiting, meaning_of_compose hloose hwaiting .or⟩

end FilterQuery
