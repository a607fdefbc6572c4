/-
# FilterQuery.Proofs.Condition.Siblings -- what a list of siblings says

Siblings are joined from left to right, with a running result. This module says what comes
of it without the running result: a list of siblings is true just if one of them carries it
(`Verdict.IsCarried`). That one holds, it is the first or stands behind `||`, and of the
later ones those behind `&&` hold as well. So `&&` does not bind tighter than `||`, and the
connective of the first sibling counts for nothing.

The law goes by the last sibling: it carries a list itself, or it leaves the list to the
sibling that carried it before (`isCarried_append_singleton`). All three walks over a tree
join their siblings in this way. A candidate does so with the siblings that have an answer,
among which the first one has its connective ignored wherever it stands.
-/
import FilterQuery.Proofs.Evaluation.Leaves
import FilterQuery.Proofs.Matching.Completion
import Mathlib.Data.List.Induction

namespace FilterQuery

/-- A list with one more entry has, at each place, what it had there or the entry at its end. -/
theorem getElem?_append_singleton_eq_some_iff {α : Type} {entries : List α} {last entry : α}
    {i : Nat} : (entries ++ [last])[i]? = some entry ↔
      entries[i]? = some entry ∨ i = entries.length ∧ entry = last := by
  grind

/-! ## The sibling that carries a list -/

namespace Verdict

/-- **A list of siblings is carried** if one of them holds, is the first or stands behind
`||`, and every later one that stands behind `&&` holds as well. -/
def IsCarried (vs : List Verdict) : Prop :=
  ∃ k v, vs[k]? = some v ∧ v.holds = true ∧ (k = 0 ∨ v.connective = .or) ∧
    ∀ i w, k < i → vs[i]? = some w → w.connective = .and → w.holds = true

theorem not_isCarried_nil : ¬IsCarried [] := by
  rintro ⟨k, v, hv, -⟩
  simp at hv

/-- **The step**: with one more sibling, a list is carried by that sibling, or as it was
before unless the sibling fails behind `&&`. -/
theorem isCarried_append_singleton {vs : List Verdict} {v : Verdict} :
    IsCarried (vs ++ [v]) ↔
      v.holds = true ∧ (vs = [] ∨ v.connective = .or) ∨
        IsCarried vs ∧ (v.connective = .and → v.holds = true) := by
  constructor
  · rintro ⟨k, u, hu, hholds, hplace, hlater⟩
    rcases getElem?_append_singleton_eq_some_iff.mp hu with hu | ⟨rfl, rfl⟩
    · have hk : k < vs.length := (List.getElem?_eq_some_iff.mp hu).1
      refine .inr ⟨⟨k, u, hu, hholds, hplace, ?_⟩, ?_⟩
      · intro i w hki hw
        exact hlater i w hki (getElem?_append_singleton_eq_some_iff.mpr (.inl hw))
      · exact hlater vs.length v hk List.getElem?_concat_length
    · exact .inl ⟨hholds, hplace.imp_left List.eq_nil_of_length_eq_zero⟩
  · rintro (⟨hholds, hplace⟩ | ⟨⟨k, u, hu, hholds, hplace, hlater⟩, hv⟩)
    · -- nothing stands behind the last sibling
      refine ⟨vs.length, v, List.getElem?_concat_length, hholds, hplace.imp_left ?_, ?_⟩
      · rintro rfl
        rfl
      · intro i w hi hw
        have hlast : i < (vs ++ [v]).length := (List.getElem?_eq_some_iff.mp hw).1
        rw [List.length_append, List.length_singleton] at hlast
        omega
    · refine ⟨k, u, getElem?_append_singleton_eq_some_iff.mpr (.inl hu), hholds, hplace, ?_⟩
      intro i w hki hw
      rcases getElem?_append_singleton_eq_some_iff.mp hw with hw | ⟨-, rfl⟩
      · exact hlater i w hki hw
      · exact hv

theorem joinAll_append_singleton (vs : List Verdict) (v : Verdict) :
    joinAll (vs ++ [v]) = join (joinAll vs) v := by
  rw [joinAll, List.foldl_append]
  rfl

/-- **Siblings are true together just if one of them carries the list.** -/
theorem joinAll_eq_some_true_iff {vs : List Verdict} :
    joinAll vs = some true ↔ IsCarried vs := by
  induction vs using List.reverseRecOn with
  | nil => simp [not_isCarried_nil]
  | append_singleton vs v ih =>
      rw [joinAll_append_singleton, isCarried_append_singleton, ← ih]
      cases hjoin : joinAll vs with
      | none =>
          have hnil : vs = [] := joinAll_eq_none_iff.mp hjoin
          simp [hnil]
      | some result =>
          have hne : vs ≠ [] := by
            rintro rfl
            cases hjoin
          cases hconnective : v.connective with
          | and => simp [hconnective, hne, Connective.apply]
          | or => simp [hconnective, hne, Connective.apply, or_comm]

theorem getD_joinAll_iff {vs : List Verdict} :
    (joinAll vs).getD false = true ↔ IsCarried vs := by
  rw [← joinAll_eq_some_true_iff]
  cases joinAll vs <;> simp

end Verdict

/-! ## The three walks -/

namespace Condition

/-- A group whose children have results joins them. -/
theorem evaluate_group_of_forall {r : Record} {value : Condition → Bool} {cs : List Condition}
    (h : ∀ c ∈ cs, c.evaluate r = .ok (value c)) (j : Option Connective) :
    (group j cs).evaluate r =
      .ok ((Verdict.joinAll (cs.map fun c => ⟨c.joiner, value c⟩)).getD false) := by
  have hchildren : ∀ c ∈ cs, (∀ l ∈ c.leaves, ∃ b, l.evaluate r = .ok b) ∧
      (c.truth fun l => isTrue (l.evaluate r)) = value c :=
    fun c hc => evaluate_eq_ok_iff.mp (h c hc)
  have hverdicts :
      (cs.map fun c => (⟨c.joiner, c.truth fun l => isTrue (l.evaluate r)⟩ : Verdict)) =
        cs.map fun c => ⟨c.joiner, value c⟩ :=
    List.map_congr_left fun c hc => by rw [(hchildren c hc).2]
  rw [evaluate_eq_ok_iff, truth_group, hverdicts]
  exact ⟨forall_mem_leaves_group.mpr fun c hc => (hchildren c hc).1, rfl⟩

/-- **The meaning of a list of siblings.** A group whose children have results is evaluated to
true just if one child carries the list, and a group of the reference is true of a candidate
just if one child does so there. The answer of a candidate's group is true just if one child
carries the list of those that have an answer; and a candidate has none just if no leaf of it
has the name. -/
theorem group_true_iff_isCarried (j : Option Connective) (cs : List Condition) :
    (∀ (r : Record) (value : Condition → Bool), (∀ c ∈ cs, c.evaluate r = .ok (value c)) →
        ∃ holds, (group j cs).evaluate r = .ok holds ∧
          (holds = true ↔ Verdict.IsCarried (cs.map fun c => ⟨c.joiner, value c⟩))) ∧
      (∀ candidate : Condition, walk candidate (group j cs) = true ↔
        Verdict.IsCarried (cs.map fun c => ⟨c.joiner, walk candidate c⟩)) ∧
      (∀ l : Comparison, answers l (group j cs) = some true ↔ Verdict.IsCarried
        (cs.filterMap fun c => (answers l c).map fun holds => ⟨c.joiner, holds⟩)) ∧
      (∀ (l : Comparison) (candidate : Condition),
        answers l candidate = none ↔ ∀ own ∈ candidate.leaves, own.name ≠ l.name) := by
  refine ⟨?_, ?_, ?_, ?_⟩
  · intro r value hvalue
    exact ⟨_, evaluate_group_of_forall hvalue j, Verdict.getD_joinAll_iff⟩
  · intro candidate
    rw [walk, walkAll_eq_map]
    exact Verdict.getD_joinAll_iff
  · intro l
    rw [answers, answersAll_eq_filterMap]
    exact Verdict.joinAll_eq_some_true_iff
  · intro l candidate
    rw [answers_eq_none_iff, mentions]
    simp only [not_exists, not_and, ne_eq]

/-- `a=1 || b=1 && c=1`, as siblings. -/
def mixedSiblings : List Condition :=
  [.leaf none ⟨"a", some .eq, "1"⟩, .leaf (some .or) ⟨"b", some .eq, "1"⟩,
    .leaf (some .and) ⟨"c", some .eq, "1"⟩]

/-- An object of which only the first of `mixedSiblings` holds. -/
def onlyFirst : Record :=
  .ofObject [("a", .number (.int 1)), ("b", .number (.int 0)), ("c", .number (.int 0))]

/-- The `&&` at the end concerns the `||` before it as a whole: it fails, and so does the list. -/
theorem group_true_iff_isCarried_mixedSiblings :
    (∀ c ∈ mixedSiblings, c.evaluate onlyFirst = .ok (decide (c.mentions "a"))) ∧
      (group none mixedSiblings).evaluate onlyFirst = .ok false ∧
      ¬Verdict.IsCarried [⟨none, true⟩, ⟨some .or, false⟩, ⟨some .and, false⟩] := by
  have hvalue : ∀ c ∈ mixedSiblings,
      c.evaluate onlyFirst = .ok (decide (c.mentions "a")) := by decide +kernel
  have hfalse : (group none mixedSiblings).evaluate onlyFirst = .ok false := by decide +kernel
  obtain ⟨holds, hresult, hcarried⟩ :=
    (group_true_iff_isCarried none mixedSiblings).1 onlyFirst _ hvalue
  rw [hfalse] at hresult
  cases hresult
  exact ⟨hvalue, hfalse, fun h => Bool.false_ne_true (hcarried.mpr h)⟩

end Condition

end FilterQuery
