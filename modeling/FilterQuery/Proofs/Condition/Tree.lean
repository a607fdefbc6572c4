/-
# FilterQuery.Proofs.Condition.Tree -- induction over condition trees

Statements about conditions go through the tree node by node: a leaf on its own, a
group from its children. `Condition.induction` is that principle once and for all, so
that a proof deals with a list of siblings by an ordinary induction on the list.

The module also lists what a tree consists of: its leaves, the sibling lists of its
groups (`siblingLists`), which is where every condition on the shape of a tree is stated,
and the names that its leaves have (`mentions`).
What holds throughout a group holds throughout each of its children
(`forall_mem_leaves_group`, `forall_mem_siblingLists_group`), and that is the form in
which such conditions meet the induction.
-/
import FilterQuery.Condition.Basic
import Mathlib.Logic.Basic

namespace FilterQuery.Condition

/-! ## Induction -/

mutual

theorem induction_node {motive : Condition → Prop}
    (leaf : ∀ joiner comparison, motive (.leaf joiner comparison))
    (group : ∀ joiner children, (∀ c ∈ children, motive c) → motive (.group joiner children)) :
    ∀ c : Condition, motive c
  | .leaf joiner comparison => leaf joiner comparison
  | .group joiner children => group joiner children (induction_list leaf group children)

theorem induction_list {motive : Condition → Prop}
    (leaf : ∀ joiner comparison, motive (.leaf joiner comparison))
    (group : ∀ joiner children, (∀ c ∈ children, motive c) → motive (.group joiner children)) :
    ∀ cs : List Condition, ∀ c ∈ cs, motive c
  | [] => fun _ hc => absurd hc List.not_mem_nil
  | first :: others =>
      List.forall_mem_cons.mpr
        ⟨induction_node leaf group first, induction_list leaf group others⟩

end

/-- **Induction over a condition**: what holds of every leaf, and of a group whenever
it holds of each of its children, holds of every tree. -/
@[elab_as_elim]
theorem induction {motive : Condition → Prop} (c : Condition)
    (leaf : ∀ joiner comparison, motive (.leaf joiner comparison))
    (group : ∀ joiner children, (∀ c ∈ children, motive c) → motive (.group joiner children)) :
    motive c :=
  induction_node leaf group c

/-! ## Leaves -/

theorem mem_leavesAll {l : Comparison} {cs : List Condition} :
    l ∈ leavesAll cs ↔ ∃ c ∈ cs, l ∈ c.leaves := by
  induction cs with
  | nil => simp [leavesAll]
  | cons c cs ih => simp [leavesAll, ih]

@[simp] theorem mem_leaves_leaf {l comparison : Comparison} {j : Option Connective} :
    l ∈ (Condition.leaf j comparison).leaves ↔ l = comparison := by
  simp [leaves]

@[simp] theorem mem_leaves_group {l : Comparison} {j : Option Connective} {cs : List Condition} :
    l ∈ (Condition.group j cs).leaves ↔ ∃ c ∈ cs, l ∈ c.leaves := by
  rw [leaves, mem_leavesAll]

theorem forall_mem_leaves_group {P : Comparison → Prop} {j : Option Connective}
    {cs : List Condition} :
    (∀ l ∈ (group j cs).leaves, P l) ↔ ∀ c ∈ cs, ∀ l ∈ c.leaves, P l := by
  constructor
  · intro h c hc l hl
    exact h l (mem_leaves_group.mpr ⟨c, hc, hl⟩)
  · intro h l hl
    obtain ⟨c, hc, hlc⟩ := mem_leaves_group.mp hl
    exact h c hc l hlc

@[simp] theorem leaves_withJoiner (j : Option Connective) (c : Condition) :
    (c.withJoiner j).leaves = c.leaves := by
  cases c <;> rfl

/-! ## Sibling lists -/

mutual

/-- The children of every group of a tree, one list for each group. -/
def siblingLists : Condition → List (List Condition)
  | .leaf _ _ => []
  | .group _ children => children :: siblingListsAll children

/-- The sibling lists of several conditions, one after the other. -/
def siblingListsAll : List Condition → List (List Condition)
  | [] => []
  | c :: cs => c.siblingLists ++ siblingListsAll cs

end

theorem mem_siblingListsAll {siblings : List Condition} {cs : List Condition} :
    siblings ∈ siblingListsAll cs ↔ ∃ c ∈ cs, siblings ∈ c.siblingLists := by
  induction cs with
  | nil => simp [siblingListsAll]
  | cons c cs ih => simp [siblingListsAll, ih]

@[simp] theorem not_mem_siblingLists_leaf {siblings : List Condition} {j : Option Connective}
    {comparison : Comparison} : siblings ∉ (Condition.leaf j comparison).siblingLists := by
  simp [siblingLists]

@[simp] theorem mem_siblingLists_group {siblings cs : List Condition} {j : Option Connective} :
    siblings ∈ (Condition.group j cs).siblingLists ↔
      siblings = cs ∨ ∃ c ∈ cs, siblings ∈ c.siblingLists := by
  rw [siblingLists, List.mem_cons, mem_siblingListsAll]

theorem forall_mem_siblingLists_group {P : List Condition → Prop} {j : Option Connective}
    {cs : List Condition} :
    (∀ siblings ∈ (group j cs).siblingLists, P siblings) ↔
      P cs ∧ ∀ c ∈ cs, ∀ siblings ∈ c.siblingLists, P siblings := by
  constructor
  · intro h
    refine ⟨h cs (by simp), ?_⟩
    intro c hc siblings hsiblings
    exact h siblings (mem_siblingLists_group.mpr (Or.inr ⟨c, hc, hsiblings⟩))
  · rintro ⟨hcs, h⟩ siblings hsiblings
    rcases mem_siblingLists_group.mp hsiblings with rfl | ⟨c, hc, hsiblings⟩
    · exact hcs
    · exact h c hc siblings hsiblings

/-- **A tree without empty groups.** -/
def IsInhabited (c : Condition) : Prop := ∀ siblings ∈ c.siblingLists, siblings ≠ []

@[simp] theorem isInhabited_leaf (j : Option Connective) (l : Comparison) :
    (leaf j l).IsInhabited := by
  simp [IsInhabited]

theorem isInhabited_group_iff {j : Option Connective} {cs : List Condition} :
    (group j cs).IsInhabited ↔ cs ≠ [] ∧ ∀ c ∈ cs, c.IsInhabited :=
  forall_mem_siblingLists_group

@[simp] theorem siblingLists_withJoiner (j : Option Connective) (c : Condition) :
    (c.withJoiner j).siblingLists = c.siblingLists := by
  cases c <;> simp [withJoiner, siblingLists]

/-! ## Names that a condition mentions -/

/-- **Whether some leaf has the name.** -/
def mentions (c : Condition) (name : String) : Prop := ∃ l ∈ c.leaves, l.name = name

instance (c : Condition) (name : String) : Decidable (c.mentions name) :=
  inferInstanceAs (Decidable (∃ l ∈ c.leaves, l.name = name))

@[simp] theorem mentions_leaf {j : Option Connective} {l : Comparison} {name : String} :
    (leaf j l).mentions name ↔ l.name = name := by
  simp [mentions]

@[simp] theorem mentions_group {j : Option Connective} {cs : List Condition} {name : String} :
    (group j cs).mentions name ↔ ∃ c ∈ cs, c.mentions name := by
  simp only [mentions, mem_leaves_group]
  constructor
  · rintro ⟨l, ⟨c, hc, hl⟩, hname⟩
    exact ⟨c, hc, l, hl, hname⟩
  · rintro ⟨c, hc, l, hl, hname⟩
    exact ⟨l, ⟨c, hc, hl⟩, hname⟩

theorem mem_leafNamesAll {name : String} {cs : List Condition} :
    name ∈ leafNamesAll cs ↔ ∃ c ∈ cs, name ∈ c.leafNames := by
  induction cs with
  | nil => simp [leafNamesAll]
  | cons c cs ih => simp [leafNamesAll, ih]

/-- The names of a condition are those it mentions, without the empty one. -/
theorem mem_leafNames {name : String} {c : Condition} :
    name ∈ c.leafNames ↔ name ≠ "" ∧ c.mentions name := by
  induction c using Condition.induction with
  | leaf j l =>
      rw [leafNames, mentions_leaf]
      by_cases hvoid : l.isVoid
      · have hname : l.name = "" := Comparison.isVoid_iff.mp hvoid
        simp only [hvoid, if_true, List.not_mem_nil, false_iff, not_and]
        intro hne heq
        exact hne (heq.symm.trans hname)
      · have hname : l.name ≠ "" := fun hempty => hvoid (Comparison.isVoid_iff.mpr hempty)
        rw [if_neg hvoid, List.mem_singleton]
        constructor
        · rintro rfl
          exact ⟨hname, rfl⟩
        · exact fun h => h.2.symm
  | group j cs ih =>
      rw [leafNames, mem_leafNamesAll, mentions_group]
      constructor
      · rintro ⟨c, hc, hname⟩
        obtain ⟨hne, hmentions⟩ := (ih c hc).mp hname
        exact ⟨hne, c, hc, hmentions⟩
      · rintro ⟨hne, c, hc, hmentions⟩
        exact ⟨c, hc, (ih c hc).mpr ⟨hne, hmentions⟩⟩

theorem name_mem_names {c : Condition} {l : Comparison} (hl : l ∈ c.leaves)
    (hname : l.isVoid = false) : l.name ∈ c.names :=
  mem_names.mpr (mem_leafNames.mpr ⟨Comparison.isVoid_eq_false_iff.mp hname, l, hl, rfl⟩)

end FilterQuery.Condition
