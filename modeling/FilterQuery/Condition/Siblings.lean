/-
# FilterQuery.Condition.Siblings -- the truth of a list of siblings

Connectives have no precedence. Siblings are joined from left to right, each by
the connective it carries; the first one that has a truth value seeds the result
and its connective is not looked at. A missing connective reads as `&&`.

Every walk over a condition tree ends in this one fold.
-/
import FilterQuery.Condition.Basic

namespace FilterQuery

/-- **A sibling's verdict**: how it is joined to what stands before it, and
whether it holds. -/
structure Verdict where
  joiner : Option Connective
  holds : Bool
  deriving DecidableEq, Repr

namespace Verdict

/-- The connective of a sibling, where a missing one is `&&`. -/
def connective (v : Verdict) : Connective := v.joiner.getD .and

/-- Adds one sibling to the running result, which is `none` before the first. -/
def join (running : Option Bool) (v : Verdict) : Option Bool :=
  match running with
  | none => some v.holds
  | some result => some (v.connective.apply result v.holds)

/-- **The result of a list of siblings**; no siblings, no result. -/
def joinAll (vs : List Verdict) : Option Bool := vs.foldl join none

@[simp] theorem joinAll_nil : joinAll [] = none := rfl

/-- A list of siblings has a result as soon as it has a sibling. -/
theorem joinAll_eq_none_iff {vs : List Verdict} : joinAll vs = none ↔ vs = [] := by
  have seeded : ∀ (us : List Verdict) (b : Bool), us.foldl join (some b) ≠ none := by
    intro us
    induction us with
    | nil => simp
    | cons u us ih => intro b; exact ih _
  cases vs with
  | nil => simp
  | cons v vs => simpa [joinAll, join] using seeded vs v.holds

end Verdict

end FilterQuery
