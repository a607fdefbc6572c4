/-
# FilterQuery.Proofs.Condition.Joining -- joining siblings one at a time

Every walk over a condition joins siblings from left to right with a running result,
which is unset before the first of them. This module says what one step of the join
does and how two runs of it compare: `Verdict.RunsBelow` orders running results by
truth, and joining respects it (`RunsBelow.join`).

A connective matters only behind another sibling, and a missing one counts as `&&`
there (`join_none`, `join_getD`).
-/
import FilterQuery.Condition.Siblings
import Mathlib.Logic.Basic

namespace FilterQuery

/-! ## Connectives -/

/-- Either connective turns more true sides into a result at least as true. -/
theorem Connective.apply_mono (c : Connective) {a a' b b' : Bool} (ha : a = true → a' = true)
    (hb : b = true → b' = true) (h : c.apply a b = true) : c.apply a' b' = true := by
  cases c with
  | and =>
      simp only [Connective.apply, Bool.and_eq_true] at h ⊢
      exact ⟨ha h.1, hb h.2⟩
  | or =>
      simp only [Connective.apply, Bool.or_eq_true] at h ⊢
      exact h.imp ha hb

/-- A false sibling makes nothing true. -/
theorem Connective.apply_false (c : Connective) {a : Bool} (h : c.apply a false = true) :
    a = true := by
  cases c <;> simp_all [Connective.apply]

/-- Behind a false result, only the sibling itself counts. -/
theorem Connective.apply_of_false (c : Connective) {b : Bool} (h : c.apply false b = true) :
    b = true := by
  cases c <;> simp_all [Connective.apply]

theorem Connective.apply_self (c : Connective) (b : Bool) : c.apply b b = b := by
  cases c with
  | and => exact Bool.and_self b
  | or => exact Bool.or_self b

namespace Verdict

/-! ## One step -/

@[simp] theorem join_none (v : Verdict) : join none v = some v.holds := rfl

@[simp] theorem join_some (result : Bool) (v : Verdict) :
    join (some result) v = some (v.connective.apply result v.holds) := rfl

/-- A missing connective may as well be written out. -/
theorem join_getD (running : Option Bool) (j : Option Connective) (holds : Bool) :
    join running ⟨some (j.getD .and), holds⟩ = join running ⟨j, holds⟩ := by
  cases running <;> rfl

/-! ## Siblings of one kind -/

/-- Siblings that hold alike are as true as each of them. -/
theorem joinAll_of_forall_holds {vs : List Verdict} {b : Bool} (h : ∀ v ∈ vs, v.holds = b)
    (hne : vs ≠ []) : joinAll vs = some b := by
  -- behind the first one, `b` joined to `b` is all that happens
  have hstay : ∀ us : List Verdict, (∀ v ∈ us, v.holds = b) →
      us.foldl join (some b) = some b := by
    intro us hus
    induction us with
    | nil => rfl
    | cons u us ih =>
        obtain ⟨hu, hothers⟩ := List.forall_mem_cons.mp hus
        rw [List.foldl_cons, join_some, hu, Connective.apply_self]
        exact ih hothers
  cases vs with
  | nil => exact absurd rfl hne
  | cons v vs =>
      obtain ⟨rfl, hvs⟩ := List.forall_mem_cons.mp h
      exact hstay vs hvs

/-- Siblings behind `||` add to a result whether one of them holds. -/
theorem foldl_join_of_or {vs : List Verdict} (h : ∀ v ∈ vs, v.connective = .or) (b : Bool) :
    vs.foldl join (some b) = some (b || vs.any (·.holds)) := by
  induction vs generalizing b with
  | nil => simp
  | cons v vs ih =>
      obtain ⟨hv, hvs⟩ := List.forall_mem_cons.mp h
      rw [List.foldl_cons, join_some, hv, ih hvs, List.any_cons, ← Bool.or_assoc]
      rfl

/-- **Alternatives**: siblings of which all but the first are joined by `||` are as true as the
truest of them. -/
theorem joinAll_of_pairwise_or {vs : List Verdict}
    (h : vs.Pairwise fun _ v => v.connective = .or) (hne : vs ≠ []) :
    joinAll vs = some (vs.any (·.holds)) := by
  cases vs with
  | nil => exact absurd rfl hne
  | cons v vs => exact foldl_join_of_or (List.pairwise_cons.mp h).1 v.holds

/-! ## The order of running results -/

/-- **Running results of which the second is at least as true**; false siblings that were
taken out in front of all others leave the second unset. -/
def RunsBelow : Option Bool → Option Bool → Prop
  | none, none => True
  | some a, some b => a = true → b = true
  | some a, none => a = false
  | none, some _ => False

theorem RunsBelow.getD {running running' : Option Bool} (h : RunsBelow running running')
    (htrue : running.getD false = true) : running'.getD false = true := by
  cases running <;> cases running' <;> simp_all [RunsBelow]

/-- Joining the same sibling, or one that is more true, keeps the order. -/
theorem RunsBelow.join {running running' : Option Bool} (h : RunsBelow running running')
    (j : Option Connective) {a b : Bool} (hab : a = true → b = true) :
    RunsBelow (Verdict.join running ⟨j, a⟩) (Verdict.join running' ⟨j, b⟩) := by
  cases running with
  | none =>
      cases running' with
      | none => exact hab
      | some result => cases h
  | some result =>
      cases running' with
      | none =>
          -- on the right the sibling is the first one, so its connective does not count
          have hresult : result = false := h
          subst hresult
          exact fun htrue => hab (Connective.apply_of_false _ htrue)
      | some result' => exact Connective.apply_mono _ h hab

/-- Taking out a false sibling keeps the order. -/
theorem RunsBelow.skip {running running' : Option Bool} (h : RunsBelow running running')
    (j : Option Connective) : RunsBelow (Verdict.join running ⟨j, false⟩) running' := by
  cases running with
  | none =>
      cases running' with
      | none => rfl
      | some result => cases h
  | some result =>
      cases running' with
      | none =>
          have hresult : result = false := h
          subst hresult
          show (j.getD .and).apply false false = false
          cases j.getD .and <;> rfl
      | some result' => exact fun htrue => h (Connective.apply_false _ htrue)

end Verdict

end FilterQuery
