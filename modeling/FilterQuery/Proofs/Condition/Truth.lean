/-
# FilterQuery.Proofs.Condition.Truth -- a condition from the truth of its leaves

Evaluation, matching and every other walk differ in what a leaf is worth and agree in
what becomes of it. `Condition.truth` is the part they agree in: leaves have given truth
values, and a group joins its siblings from left to right, with no result counted as
false.

It looks at nothing but the values of the leaves (`truth_congr`), and since connectives
negate nothing, more true leaves make a condition at least as true (`truth_mono`).
-/
import FilterQuery.Proofs.Condition.Joining
import FilterQuery.Proofs.Condition.Tree

namespace FilterQuery.Condition

mutual

/-- **The truth of a condition** whose leaves have the given truth values. -/
def truth (value : Comparison → Bool) : Condition → Bool
  | .leaf _ comparison => value comparison
  | .group _ children => (Verdict.joinAll (truths value children)).getD false

/-- The verdicts of siblings under the given truth values. -/
def truths (value : Comparison → Bool) : List Condition → List Verdict
  | [] => []
  | c :: cs => ⟨c.joiner, c.truth value⟩ :: truths value cs

end

variable {value value' : Comparison → Bool}

@[simp] theorem truth_leaf (j : Option Connective) (l : Comparison) :
    (leaf j l).truth value = value l := by
  rw [truth]

theorem truths_eq_map (cs : List Condition) :
    truths value cs = cs.map fun c => ⟨c.joiner, c.truth value⟩ := by
  induction cs with
  | nil => rfl
  | cons c cs ih => rw [truths, ih, List.map_cons]

theorem truth_group (j : Option Connective) (cs : List Condition) :
    (group j cs).truth value =
      (Verdict.joinAll (cs.map fun c => ⟨c.joiner, c.truth value⟩)).getD false := by
  rw [truth, truths_eq_map]

/-- What ties a condition to its siblings has no part in its own truth. -/
@[simp] theorem truth_withJoiner (j : Option Connective) (c : Condition) :
    (c.withJoiner j).truth value = c.truth value := by
  cases c <;> simp [withJoiner, truth]

/-- **Only the values of its own leaves matter to a condition.** -/
theorem truth_congr {c : Condition} (h : ∀ l ∈ c.leaves, value l = value' l) :
    c.truth value = c.truth value' := by
  induction c using Condition.induction with
  | leaf j l =>
      rw [truth_leaf, truth_leaf]
      exact h l (by simp)
  | group j cs ih =>
      have hcs : ∀ c ∈ cs, c.truth value = c.truth value' := fun c hc =>
        ih c hc (forall_mem_leaves_group.mp h c hc)
      have hverdicts : (cs.map fun c => (⟨c.joiner, c.truth value⟩ : Verdict)) =
          cs.map fun c => ⟨c.joiner, c.truth value'⟩ :=
        List.map_congr_left fun c hc => by rw [hcs c hc]
      rw [truth_group, truth_group, hverdicts]

/-- Siblings that become more true keep running results in order. -/
theorem runsBelow_foldl_join {cs : List Condition}
    (hcs : ∀ c ∈ cs, c.truth value = true → c.truth value' = true)
    {running running' : Option Bool} (h : Verdict.RunsBelow running running') :
    Verdict.RunsBelow
      ((cs.map fun c => (⟨c.joiner, c.truth value⟩ : Verdict)).foldl Verdict.join running)
      ((cs.map fun c => (⟨c.joiner, c.truth value'⟩ : Verdict)).foldl Verdict.join running') := by
  induction cs generalizing running running' with
  | nil => exact h
  | cons c cs ih =>
      obtain ⟨hc, hcs⟩ := List.forall_mem_cons.mp hcs
      rw [List.map_cons, List.map_cons, List.foldl_cons, List.foldl_cons]
      exact ih hcs (h.join c.joiner hc)

/-- **More true leaves make a condition at least as true.** -/
theorem truth_mono {c : Condition} (h : ∀ l ∈ c.leaves, value l = true → value' l = true)
    (htrue : c.truth value = true) : c.truth value' = true := by
  induction c using Condition.induction with
  | leaf j l =>
      rw [truth_leaf] at htrue ⊢
      exact h l (by simp) htrue
  | group j cs ih =>
      have hcs : ∀ c ∈ cs, c.truth value = true → c.truth value' = true := fun c hc =>
        ih c hc (forall_mem_leaves_group.mp h c hc)
      have hstart : Verdict.RunsBelow none none := trivial
      rw [truth_group] at htrue ⊢
      exact (runsBelow_foldl_join hcs hstart).getD htrue

/-- **Leaves that all have one value** give it to the condition. An empty group is false, so that
there must be none if the value is true. -/
theorem truth_eq_of_forall {b : Bool} {c : Condition} (hleaves : ∀ l ∈ c.leaves, value l = b)
    (hinhabited : b = true → c.IsInhabited) : c.truth value = b := by
  induction c using Condition.induction with
  | leaf j l =>
      rw [truth_leaf]
      exact hleaves l (by simp)
  | group j cs ih =>
      have hchildren := forall_mem_leaves_group.mp hleaves
      rw [truth_group]
      by_cases hnil : cs = []
      · cases b with
        | true => exact absurd hnil (isInhabited_group_iff.mp (hinhabited rfl)).1
        | false => rw [hnil]; rfl
      · have hverdicts : ∀ v ∈ cs.map fun c => (⟨c.joiner, c.truth value⟩ : Verdict),
            v.holds = b := by
          intro v hv
          obtain ⟨c, hc, rfl⟩ := List.mem_map.mp hv
          apply ih c hc (hchildren c hc)
          intro hb
          exact (isInhabited_group_iff.mp (hinhabited hb)).2 c hc
        rw [Verdict.joinAll_of_forall_holds hverdicts (by simpa using hnil)]
        rfl

/-- A condition without empty groups whose leaves all hold is true. -/
theorem truth_of_forall {c : Condition} (hinhabited : c.IsInhabited)
    (hleaves : ∀ l ∈ c.leaves, value l = true) : c.truth value = true :=
  truth_eq_of_forall hleaves fun _ => hinhabited

/-- A condition none of whose leaves holds is false, also where a group is empty. -/
theorem truth_of_forall_false {c : Condition} (hleaves : ∀ l ∈ c.leaves, value l = false) :
    c.truth value = false :=
  truth_eq_of_forall hleaves nofun

end FilterQuery.Condition
