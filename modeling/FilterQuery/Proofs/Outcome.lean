/-
# FilterQuery.Proofs.Outcome -- results that may be errors

Reading, evaluating and compiling end in a result or in an error. This module takes such
outcomes apart: what a step behind another needs to have a result (`bind_eq_ok_iff`), which
error there was, if any (`errorOf?`), and the outcome of something that has its result ready
and waits only for what may have gone wrong (`okUnless`).
-/

namespace FilterQuery

variable {α β ε : Type}

/-! ## Steps behind one another -/

theorem bind_eq_ok_iff {x : Except ε α} {k : α → Except ε β} {b : β} :
    (x >>= k) = .ok b ↔ ∃ a, x = .ok a ∧ k a = .ok b := by
  cases x <;> simp [bind, Except.bind]

theorem map_eq_ok_iff {f : α → β} {x : Except ε α} {b : β} :
    f <$> x = .ok b ↔ ∃ a, x = .ok a ∧ f a = b := by
  cases x <;> simp [Functor.map, Except.map]

/-! ## The two kinds of outcome -/

/-- The error of an outcome, if it is one. -/
def errorOf? : Except ε α → Option ε
  | .ok _ => none
  | .error e => some e

theorem errorOf?_eq_none_iff {x : Except ε α} : errorOf? x = none ↔ ∃ a, x = .ok a := by
  cases x <;> simp [errorOf?]

theorem errorOf?_eq_some_iff {x : Except ε α} {e : ε} : errorOf? x = some e ↔ x = .error e := by
  cases x <;> simp [errorOf?]

/-- **Whether an outcome is the truth value true**; an error is not. -/
def isTrue : Except ε Bool → Bool
  | .ok holds => holds
  | .error _ => false

theorem isTrue_iff {x : Except ε Bool} : isTrue x = true ↔ x = .ok true := by
  cases x <;> simp [isTrue]

/-- **A result that stands unless there was an error.** -/
def okUnless (a : α) : Option ε → Except ε α
  | none => .ok a
  | some e => .error e

theorem okUnless_eq_ok_iff {error : Option ε} {a b : α} :
    okUnless a error = .ok b ↔ error = none ∧ a = b := by
  cases error <;> simp [okUnless]

theorem okUnless_eq_error_iff {error : Option ε} {a : α} {e : ε} :
    okUnless a error = .error e ↔ error = some e := by
  cases error <;> simp [okUnless]

end FilterQuery
