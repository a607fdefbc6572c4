/-
# FilterQuery.Proofs.Evaluation.FirstError -- runs that end in their first error

A condition is evaluated leaf by leaf, a collection is filtered item by item, and a rule set
is asked rule by rule. Each of these goes on to the end unless there is an error, and of the
errors only the first is heard of. So each of them has one law: the result that it would
have without errors, `okUnless` there is a `firstError`.

`keepWhere_eq_okUnless` is that law for filtering. Whether a run ends well depends on every
item, whatever the items before it gave.
-/
import FilterQuery.Evaluation
import FilterQuery.Proofs.Outcome

namespace FilterQuery

variable {α β ε : Type}

/-! ## The first error -/

/-- **The first error** of a run over some items, if any of them has one. -/
def firstError (run : α → Except ε β) (items : List α) : Option ε :=
  items.findSome? fun item => errorOf? (run item)

variable {run : α → Except ε β} {items : List α}

theorem firstError_cons (item : α) :
    firstError run (item :: items) = (errorOf? (run item)).or (firstError run items) := by
  rw [firstError, List.findSome?_cons]
  cases errorOf? (run item) <;> rfl

theorem firstError_append (before after : List α) :
    firstError run (before ++ after) = (firstError run before).or (firstError run after) :=
  List.findSome?_append

theorem firstError_map {γ : Type} (f : γ → α) (items : List γ) :
    firstError run (items.map f) = firstError (fun item => run (f item)) items :=
  List.findSome?_map

theorem firstError_congr {run' : α → Except ε β} (h : ∀ item ∈ items, run item = run' item) :
    firstError run items = firstError run' items := by
  induction items with
  | nil => rfl
  | cons item items ih =>
      obtain ⟨hitem, hitems⟩ := List.forall_mem_cons.mp h
      rw [firstError_cons, firstError_cons, hitem, ih hitems]

/-- There is no error if every item has a result. -/
theorem firstError_eq_none_iff :
    firstError run items = none ↔ ∀ item ∈ items, ∃ b, run item = .ok b := by
  rw [firstError, List.findSome?_eq_none_iff]
  exact forall₂_congr fun _ _ => errorOf?_eq_none_iff

/-- The first error is that of an item before which every item has a result. -/
theorem firstError_eq_some_iff {e : ε} :
    firstError run items = some e ↔
      ∃ before item after, items = before ++ item :: after ∧
        (∀ earlier ∈ before, ∃ b, run earlier = .ok b) ∧ run item = .error e := by
  simp only [firstError, List.findSome?_eq_some_iff, errorOf?_eq_some_iff, errorOf?_eq_none_iff]
  constructor
  · rintro ⟨before, item, after, hitems, herror, hbefore⟩
    exact ⟨before, item, after, hitems, hbefore, herror⟩
  · rintro ⟨before, item, after, hitems, hbefore, herror⟩
    exact ⟨before, item, after, hitems, herror, hbefore⟩

/-! ## Keeping items -/

/-- **Filtering keeps the items that hold, unless some item has an error**; then the first
error is all there is. -/
theorem keepWhere_eq_okUnless (holds : α → Except ε Bool) (items : List α) :
    keepWhere holds items =
      okUnless (items.filter fun item => isTrue (holds item)) (firstError holds items) := by
  induction items with
  | nil => rfl
  | cons item items ih =>
      rw [keepWhere, ih, firstError_cons, List.filter_cons]
      cases holds item with
      | error e => rfl
      | ok kept => cases firstError holds items <;> cases kept <;> rfl

end FilterQuery
