/-
# FilterQuery.Proofs.Evaluation.Running -- the running result of a list of siblings

A group is evaluated from left to right with a running result, which is unset before
the first sibling. `Condition.evaluateFrom` names that walk from any running result on,
so that a statement about siblings is an induction on the list with the running result
generalized (`evaluateFrom_cons` is its step, and the only place where errors are
looked at).
-/
import FilterQuery.Evaluation
import FilterQuery.Proofs.Condition.Joining

namespace FilterQuery

/-! ## Leaves that look nothing up -/

theorem Comparison.evaluate_of_operator_eq_none {l : Comparison} (h : l.operator = none)
    (r : Record) : l.evaluate r = .ok false := by
  rw [Comparison.evaluate, h]

theorem Comparison.evaluate_of_isVoid {l : Comparison} (h : l.isVoid = true) (r : Record) :
    l.evaluate r = .ok false := by
  rw [Comparison.evaluate]
  cases l.operator with
  | none => rfl
  | some op => simp [h]

namespace Condition

/-! ## Siblings behind a running result -/

/-- **The truth of siblings behind a running result**, or the first error among them. -/
def evaluateFrom (r : Record) (running : Option Bool) (cs : List Condition) :
    Except DataError Bool := do
  let vs ← verdicts r cs
  return (vs.foldl Verdict.join running).getD false

@[simp] theorem evaluateFrom_nil (r : Record) (running : Option Bool) :
    evaluateFrom r running [] = .ok (running.getD false) := by
  rw [evaluateFrom, verdicts]
  rfl

/-- The step of the walk: evaluate one sibling, join it, go on. -/
theorem evaluateFrom_cons (r : Record) (running : Option Bool) (c : Condition)
    (cs : List Condition) :
    evaluateFrom r running (c :: cs) =
      (c.evaluate r).bind fun holds => evaluateFrom r (Verdict.join running ⟨c.joiner, holds⟩) cs := by
  rw [evaluateFrom, verdicts]
  cases hc : c.evaluate r with
  | error e => rfl
  | ok holds =>
      cases hcs : verdicts r cs with
      | error e => simp [evaluateFrom, hcs, bind, Except.bind]
      | ok vs => simp [evaluateFrom, hcs, bind, Except.bind, pure, Except.pure]

@[simp] theorem evaluate_leaf (r : Record) (j : Option Connective) (l : Comparison) :
    (leaf j l).evaluate r = l.evaluate r := by
  rw [evaluate]

@[simp] theorem evaluate_group (r : Record) (j : Option Connective) (cs : List Condition) :
    (group j cs).evaluate r = evaluateFrom r none cs := by
  rw [evaluate, evaluateFrom]
  rfl

/-- What ties a condition to its siblings has no part in its own truth. -/
@[simp] theorem evaluate_withJoiner (r : Record) (j : Option Connective) (c : Condition) :
    (c.withJoiner j).evaluate r = c.evaluate r := by
  cases c <;> simp [withJoiner]

theorem evaluate_empty (r : Record) : empty.evaluate r = .ok false := by
  rw [empty, evaluate_leaf]
  exact Comparison.evaluate_of_isVoid rfl r

/-- The terms of a query are evaluated as siblings, also when there are none. -/
theorem evaluate_ofTerms (r : Record) (cs : List Condition) :
    (ofTerms cs).evaluate r = evaluateFrom r none cs := by
  cases cs with
  | nil => rw [ofTerms, evaluate_empty, evaluateFrom_nil]; rfl
  | cons c cs => rw [ofTerms, evaluate_group]; simp

end Condition

end FilterQuery
