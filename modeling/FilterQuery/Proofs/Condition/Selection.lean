/-
# FilterQuery.Proofs.Condition.Selection -- the part of a tree with given names

`Condition.select` cuts a tree down to the leaves that have one of some names. A group
that is left without children goes with its leaves, so that there may be nothing left at
all; what is left keeps its place and its connective.

The selection of a tree has no empty groups (`isInhabited_of_mem_select`) and no other
names than the given ones (`name_mem_of_mem_select`), and there is one just if some leaf
has such a name (`select_eq_none_iff`).
-/
import FilterQuery.Proofs.Matching.Completion

namespace FilterQuery.Condition

/-! ## Selecting leaves -/

/-- A group of the given children, unless there are none. -/
def groupOf? (j : Option Connective) : List Condition → Option Condition
  | [] => none
  | first :: others => some (.group j (first :: others))

theorem groupOf?_eq_none_iff {j : Option Connective} {cs : List Condition} :
    groupOf? j cs = none ↔ cs = [] := by
  cases cs <;> simp [groupOf?]

theorem mem_groupOf?_iff {part : Condition} {j : Option Connective} {cs : List Condition} :
    part ∈ groupOf? j cs ↔ cs ≠ [] ∧ part = group j cs := by
  cases cs with
  | nil => simp [groupOf?]
  | cons first others => simp [groupOf?, eq_comm]

mutual

/-- **The part of a condition with the given names**, if any leaf has one of them: leaves
of other names are taken out, and with them the groups that have no other leaves. -/
def select (names : List String) : Condition → Option Condition
  | .leaf j l => if l.name ∈ names then some (.leaf j l) else none
  | .group j cs => groupOf? j (selectAll names cs)

/-- The parts of several conditions, without those of which nothing is left. -/
def selectAll (names : List String) : List Condition → List Condition
  | [] => []
  | c :: cs => (c.select names).toList ++ selectAll names cs

end

variable {names : List String}

theorem select_leaf (j : Option Connective) (l : Comparison) :
    (leaf j l).select names = if l.name ∈ names then some (leaf j l) else none := by
  rw [select]

theorem select_group (j : Option Connective) (cs : List Condition) :
    (group j cs).select names = groupOf? j (cs.filterMap (select names)) := by
  have hall : selectAll names cs = cs.filterMap (select names) := by
    induction cs with
    | nil => rfl
    | cons c cs ih =>
        rw [selectAll, List.filterMap_cons, ih]
        cases c.select names <;> rfl
  rw [select, hall]

theorem mem_select_leaf_iff {part : Condition} {j : Option Connective} {l : Comparison} :
    part ∈ (leaf j l).select names ↔ l.name ∈ names ∧ part = leaf j l := by
  rw [select_leaf, Option.mem_ite_none_right, Option.mem_some, eq_comm]

theorem mem_select_group_iff {part : Condition} {j : Option Connective} {cs : List Condition} :
    part ∈ (group j cs).select names ↔
      cs.filterMap (select names) ≠ [] ∧ part = group j (cs.filterMap (select names)) := by
  rw [select_group, mem_groupOf?_iff]

/-! ## What is left -/

/-- What is left of a node is joined as the node was. -/
theorem joiner_of_mem_select {c part : Condition} (h : part ∈ c.select names) :
    part.joiner = c.joiner := by
  cases c with
  | leaf j l =>
      rw [(mem_select_leaf_iff.mp h).2]
  | group j cs =>
      rw [(mem_select_group_iff.mp h).2]
      rfl

theorem isInhabited_of_mem_select {c part : Condition} (h : part ∈ c.select names) :
    part.IsInhabited := by
  induction c using Condition.induction generalizing part with
  | leaf j l =>
      rw [(mem_select_leaf_iff.mp h).2]
      exact isInhabited_leaf j l
  | group j cs ih =>
      obtain ⟨hne, rfl⟩ := mem_select_group_iff.mp h
      refine isInhabited_group_iff.mpr ⟨hne, ?_⟩
      intro kept hkept
      obtain ⟨c, hc, hselect⟩ := List.mem_filterMap.mp hkept
      exact ih c hc hselect

/-- Every leaf that is left has one of the names. -/
theorem name_mem_of_mem_select {c part : Condition} (h : part ∈ c.select names) :
    ∀ l ∈ part.leaves, l.name ∈ names := by
  induction c using Condition.induction generalizing part with
  | leaf j l =>
      obtain ⟨hname, rfl⟩ := mem_select_leaf_iff.mp h
      intro own hown
      rw [mem_leaves_leaf.mp hown]
      exact hname
  | group j cs ih =>
      obtain ⟨-, rfl⟩ := mem_select_group_iff.mp h
      rw [forall_mem_leaves_group]
      intro kept hkept
      obtain ⟨c, hc, hselect⟩ := List.mem_filterMap.mp hkept
      exact ih c hc hselect

/-- **Nothing is left** of a condition just if it mentions none of the names. -/
theorem select_eq_none_iff {c : Condition} :
    c.select names = none ↔ ∀ name ∈ names, ¬c.mentions name := by
  induction c using Condition.induction with
  | leaf j l =>
      rw [select_leaf, ite_eq_right_iff]
      constructor
      · intro h name hname hmentions
        rw [mentions_leaf] at hmentions
        subst hmentions
        cases h hname
      · intro h hname
        exact absurd (mentions_leaf.mpr rfl) (h l.name hname)
  | group j cs ih =>
      rw [select_group, groupOf?_eq_none_iff, List.filterMap_eq_nil_iff]
      constructor
      · intro h name hname hmentions
        obtain ⟨c, hc, hname'⟩ := mentions_group.mp hmentions
        exact (ih c hc).mp (h c hc) name hname hname'
      · intro h c hc
        refine (ih c hc).mpr ?_
        intro name hname hmentions
        exact h name hname (mentions_group.mpr ⟨c, hc, hmentions⟩)

end FilterQuery.Condition
