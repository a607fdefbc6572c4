/-
# FilterQuery.Proofs.Matching.Projection -- what a reference gets to see of a candidate

A reference sees of a candidate the leaves that have one of its names, and of these the
names, the values and how they are joined. `Condition.projection` is what remains when all
else is forgotten: leaves of other names, groups in which no leaf remains, comparison
operators, and the connectives of nodes that nothing remains before. Candidates with the same
projection are accepted alike (`accepts_eq_of_projection_eq`).

This is a statement about two candidates of any size and shape. It is reduced to one
candidate and one leaf of the reference: a leaf is answered by the projection as by the
candidate itself (`bind_answers_projection`), in two steps, one for what is taken out of the
tree and one for what is forgotten in it.
-/
import FilterQuery.Proofs.Matching.Direct

namespace FilterQuery.Condition

/-! ## Forgetting operators -/

mutual

/-- **The outline of a condition**: its comparison operators are forgotten, its own
connective, and that of the first child of each group. -/
def outline : Condition → Condition
  | .leaf _ l => .leaf none { l with operator := none }
  | .group _ [] => .group none []
  | .group _ (first :: others) => .group none (first.outline :: outlineOthers others)

/-- The outlines of the siblings after the first, which keep their connectives. -/
def outlineOthers : List Condition → List Condition
  | [] => []
  | c :: cs => c.outline.withJoiner c.joiner :: outlineOthers cs

end

theorem answers_withJoiner (l : Comparison) (j : Option Connective) (c : Condition) :
    answers l (c.withJoiner j) = answers l c := by
  cases c with
  | leaf k own => rw [withJoiner, answers, answers]
  | group k cs => rw [withJoiner, answers, answers]

/-- Siblings that keep their connectives answer as before. -/
theorem answersAll_outlineOthers {l : Comparison} {cs : List Condition}
    (hcs : ∀ c ∈ cs, answers l c.outline = answers l c) :
    answersAll l (outlineOthers cs) = answersAll l cs := by
  induction cs with
  | nil => rw [outlineOthers]
  | cons c cs ih =>
      obtain ⟨hc, hcs⟩ := List.forall_mem_cons.mp hcs
      rw [outlineOthers, answersAll, answersAll, answers_withJoiner, joiner_withJoiner, hc, ih hcs]

/-- **The outline answers as the condition does.** -/
theorem answers_outline (l : Comparison) (c : Condition) : answers l c.outline = answers l c := by
  induction c using Condition.induction with
  | leaf j own => rw [outline, answers, answers]; rfl
  | group j cs ih =>
      cases cs with
      | nil => rw [outline, answers, answers]
      | cons first others =>
          obtain ⟨hfirst, hothers⟩ := List.forall_mem_cons.mp ih
          rw [outline, answers, answers, answersAll, answersAll, hfirst,
            answersAll_outlineOthers hothers]
          -- the first sibling either is silent or seeds the result, whatever its connective
          cases answers l first <;> rfl

/-! ## The projection of a candidate -/

/-- **The projection of a condition** onto some names: the outline of the part that has
them, if any leaf has one of them. -/
def projection (names : List String) (c : Condition) : Option Condition :=
  (c.select names).map outline

/-- The projection answers as the candidate does. -/
theorem bind_answers_projection {l : Comparison} {names : List String} (hl : l.name ∈ names)
    (c : Condition) : (c.projection names).bind (answers l) = answers l c := by
  rw [projection, Option.bind_map, ← bind_answers_select hl c]
  congr 1
  funext part
  exact answers_outline l part

/-- **What a reference does not see does not matter**: candidates with the same projection
onto its names are accepted alike. -/
theorem accepts_eq_of_projection_eq {reference c d : Condition}
    (h : c.projection reference.names = d.projection reference.names) :
    reference.accepts c = reference.accepts d := by
  rw [accepts_eq_truth, accepts_eq_truth]
  apply truth_congr
  intro l hl
  cases hvoid : l.isVoid with
  | true => rfl
  | false =>
      have hname : l.name ≠ "" := Comparison.isVoid_eq_false_iff.mp hvoid
      have hnames : l.name ∈ reference.names :=
        mem_names.mpr (mem_leafNames.mpr ⟨hname, l, hl, rfl⟩)
      rw [← bind_answers_projection hnames c, h, bind_answers_projection hnames d]

/-- A reference with two names. -/
def twoNames : Condition := parse "a=1 && b>2"

/-- A candidate in which leaves of other names stand before, between and around those of the
two names, also in a group of their own. -/
def crowdedCandidate : Condition := parse "x=9 || (z=1 && w=2) || a<1 && (y=2 || b=3)"

/-- Only the leaves of the two names, one of them with another operator. -/
def bareCandidate : Condition := parse "a=1 && (b<3)"

theorem accepts_eq_of_projection_eq_crowded :
    crowdedCandidate.projection twoNames.names = bareCandidate.projection twoNames.names ∧
      twoNames.accepts crowdedCandidate = twoNames.accepts bareCandidate := by
  have hprojection :
      crowdedCandidate.projection twoNames.names = bareCandidate.projection twoNames.names := by
    decide +kernel
  exact ⟨hprojection, accepts_eq_of_projection_eq hprojection⟩

end FilterQuery.Condition
