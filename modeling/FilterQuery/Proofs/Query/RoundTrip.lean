/-
# FilterQuery.Proofs.Query.RoundTrip -- the trees that writing and reading give back

Reading what was written gives a tree back exactly if the tree is canonical. Canonical
trees are the ones a well-formed query is parsed as: an unjoined root, groups that are
not empty, siblings of which the first carries no connective and every other one carries
one, and leaves that the language has a spelling for (`Comparison.IsLegible`).

Every other tree changes, and it changes for good: the text loses an unfinished leaf,
a quote or an operator behind an empty name, and the parser adds the connectives and
the parentheses that it does not find.
-/
import FilterQuery.Proofs.Query.Parsed

namespace FilterQuery

/-! ## Canonical trees -/

/-- **A leaf that the query language can spell**: the empty one, written `()`, or a
name with an operator or with a value behind it, and no double quotes. -/
def Comparison.IsLegible (c : Comparison) : Prop :=
  c = .empty ∨
    (c.name ≠ "" ∧ '"' ∉ c.name.toList ∧ '"' ∉ c.value.toList ∧
      (c.operator ≠ none ∨ c.value ≠ ""))

theorem Comparison.IsLegible.isQuoteFree {c : Comparison} (h : c.IsLegible) : c.IsQuoteFree := by
  rcases h with rfl | ⟨-, hname, hvalue, -⟩
  · decide
  · exact ⟨hname, hvalue⟩

/-- Without quotes, the leaves that cannot be spelled are the unfinished ones and
those that hold an operator or a value but no name. -/
theorem Comparison.isLegible_iff {c : Comparison} (hc : c.IsQuoteFree) :
    c.IsLegible ↔ c = .empty ∨ (c.isVoid = false ∧ c.isUnfinished = false) := by
  obtain ⟨hname, hvalue⟩ := hc
  rcases c with ⟨name, operator, value⟩
  simp only [IsLegible, isUnfinished, isVoid]
  by_cases hempty : name = ""
  · simp [hempty]
  · cases operator <;> simp_all

namespace Condition

/-- Siblings that are joined up: the first carries no connective and every later one
carries one. -/
def IsJoinedUp : List Condition → Prop
  | [] => True
  | first :: others => first.joiner = none ∧ ∀ c ∈ others, c.joiner ≠ none

/-- **A regular tree**, wherever it stands: its groups have children, their children
are joined up, and its leaves can be spelled. -/
structure IsRegular (c : Condition) : Prop where
  inhabited : ∀ cs ∈ c.siblingLists, cs ≠ []
  joinedUp : ∀ cs ∈ c.siblingLists, IsJoinedUp cs
  legible : ∀ l ∈ c.leaves, l.IsLegible

/-- **A canonical condition**: a regular tree that no connective ties to anything, and
that is a group unless it is the empty condition. -/
structure IsCanonical (c : Condition) : Prop extends c.IsRegular where
  unjoined : c.joiner = none
  rooted : c = empty ∨ c.isLeaf = false

theorem IsRegular.isQuoteFree {c : Condition} (h : c.IsRegular) : c.IsQuoteFree :=
  fun l hl => (h.legible l hl).isQuoteFree

theorem isRegular_leaf_iff {j : Option Connective} {l : Comparison} :
    (leaf j l).IsRegular ↔ l.IsLegible := by
  constructor
  · intro h
    exact h.legible l (by simp)
  · intro h
    exact ⟨by simp, by simp, by simpa using h⟩

theorem isRegular_group_iff {j : Option Connective} {cs : List Condition} :
    (group j cs).IsRegular ↔ cs ≠ [] ∧ IsJoinedUp cs ∧ ∀ c ∈ cs, c.IsRegular := by
  constructor
  · intro h
    obtain ⟨hne, hinhabited⟩ := forall_mem_siblingLists_group.mp h.inhabited
    obtain ⟨hjoined, hjoinedUp⟩ := forall_mem_siblingLists_group.mp h.joinedUp
    have hlegible := forall_mem_leaves_group.mp h.legible
    exact ⟨hne, hjoined, fun c hc => ⟨hinhabited c hc, hjoinedUp c hc, hlegible c hc⟩⟩
  · rintro ⟨hne, hjoined, hall⟩
    refine ⟨?_, ?_, ?_⟩
    · exact forall_mem_siblingLists_group.mpr ⟨hne, fun c hc => (hall c hc).inhabited⟩
    · exact forall_mem_siblingLists_group.mpr ⟨hjoined, fun c hc => (hall c hc).joinedUp⟩
    · exact forall_mem_leaves_group.mpr fun c hc => (hall c hc).legible

/-! ## What reading changes -/

theorem length_rereadSibling_le (j : Option Connective) (c : Condition) :
    (c.rereadSibling j).length ≤ 1 := by
  cases c with
  | leaf k l =>
      rw [rereadSibling]
      split_ifs <;> simp
  | group k cs => cases cs <;> simp [rereadSibling]

theorem length_rereadOthers_le (cs : List Condition) : (rereadOthers cs).length ≤ cs.length := by
  induction cs with
  | nil => simp [rereadOthers]
  | cons c cs ih =>
      have hc := length_rereadSibling_le (some (c.joiner.getD .and)) c
      rw [rereadOthers, List.length_append, List.length_cons]
      omega

/-- Siblings are only ever lost, so a list comes back whole exactly if each of its
members does. -/
theorem append_eq_cons_iff {j : Option Connective} {c d : Condition} {cs ds : List Condition}
    (hds : ds.length ≤ cs.length) :
    c.rereadSibling j ++ ds = d :: cs ↔ c.rereadSibling j = [d] ∧ ds = cs := by
  have hlength := length_rereadSibling_le j c
  constructor
  · intro h
    match hc : c.rereadSibling j with
    | [] =>
        rw [hc, List.nil_append] at h
        rw [h, List.length_cons] at hds
        omega
    | [x] =>
        rw [hc, List.singleton_append, List.cons.injEq] at h
        exact ⟨by rw [h.1], h.2⟩
    | x :: y :: rest =>
        rw [hc] at hlength
        simp at hlength
  · rintro ⟨hc, rfl⟩
    rw [hc, List.singleton_append]

theorem rereadOthers_eq_self_iff {cs : List Condition} :
    rereadOthers cs = cs ↔ ∀ c ∈ cs, c.rereadSibling (some (c.joiner.getD .and)) = [c] := by
  induction cs with
  | nil => simp [rereadOthers]
  | cons c cs ih =>
      rw [rereadOthers, append_eq_cons_iff (length_rereadOthers_le cs), ih, List.forall_mem_cons]

theorem rereadAll_eq_self_iff {cs : List Condition}
    (hcs : ∀ c ∈ cs, ∀ j, c.rereadSibling j = [c] ↔ c.joiner = j ∧ c.IsRegular) :
    rereadAll cs = cs ↔ IsJoinedUp cs ∧ ∀ c ∈ cs, c.IsRegular := by
  cases cs with
  | nil => simp [rereadAll, IsJoinedUp]
  | cons first others =>
      obtain ⟨hfirst, hothers⟩ := List.forall_mem_cons.mp hcs
      have hjoiner : ∀ c : Condition, c.joiner = some (c.joiner.getD .and) ↔ c.joiner ≠ none := by
        intro c
        cases c.joiner <;> simp
      have hrest : (∀ c ∈ others, c.rereadSibling (some (c.joiner.getD .and)) = [c]) ↔
          ∀ c ∈ others, c.joiner ≠ none ∧ c.IsRegular := by
        refine forall₂_congr fun c hc => ?_
        rw [hothers c hc, hjoiner]
      rw [rereadAll, append_eq_cons_iff (length_rereadOthers_le others), hfirst none,
        rereadOthers_eq_self_iff, hrest, IsJoinedUp, List.forall_mem_cons]
      simp only [forall₂_and]
      tauto

theorem ofTerms_eq_group_iff {ds cs : List Condition} {j k : Option Connective} :
    (ofTerms ds).withJoiner j = group k cs ↔ ds ≠ [] ∧ j = k ∧ ds = cs := by
  cases ds <;> simp [ofTerms, empty, withJoiner]

/-- **Among siblings** a tree is given back, behind the connective it carries, exactly
if it is regular. -/
theorem rereadSibling_eq_singleton_iff {c : Condition} (hc : c.IsQuoteFree)
    (j : Option Connective) : c.rereadSibling j = [c] ↔ c.joiner = j ∧ c.IsRegular := by
  induction c using Condition.induction generalizing j with
  | leaf k l =>
      have hl : l.IsQuoteFree := isQuoteFree_leaf_iff.mp hc
      rw [isRegular_leaf_iff, Comparison.isLegible_iff hl, rereadSibling, joiner]
      by_cases hvoid : l.isVoid
      · -- a void leaf comes back as the empty one, so it has to be the empty one
        rw [if_pos hvoid, List.cons.injEq, leaf.injEq, eq_comm (a := k), eq_comm (a := l)]
        simp [hvoid]
      · have hname : l ≠ .empty := by
          rintro rfl
          exact hvoid rfl
        by_cases hunfinished : l.isUnfinished
        · simp [hvoid, hunfinished, hname]
        · rw [if_neg hvoid, if_neg hunfinished, List.cons.injEq, leaf.injEq, eq_comm (a := k)]
          simp [hvoid, hunfinished]
  | group k cs ih =>
      have hfree : ∀ c ∈ cs, c.IsQuoteFree := isQuoteFree_group_iff.mp hc
      have hall := rereadAll_eq_self_iff fun c hmem => ih c hmem (hfree c hmem)
      rw [isRegular_group_iff, ← hall, joiner]
      cases cs with
      | nil => simp [rereadSibling]
      | cons first others =>
          -- reading back may leave the group without children, but a leaf is no group
          rw [rereadSibling_group, List.cons.injEq, ofTerms_eq_group_iff]
          constructor
          · rintro ⟨⟨-, rfl, heq⟩, -⟩
            exact ⟨rfl, by simp, heq⟩
          · rintro ⟨rfl, hne, heq⟩
            exact ⟨⟨by rw [heq]; exact hne, rfl, heq⟩, rfl⟩

theorem isCanonical_empty : empty.IsCanonical where
  inhabited := by simp [empty]
  joinedUp := by simp [empty]
  legible := by
    intro l hl
    exact Or.inl (by simpa [empty] using hl)
  unjoined := rfl
  rooted := Or.inl rfl

theorem isCanonical_leaf_iff {j : Option Connective} {l : Comparison} :
    (leaf j l).IsCanonical ↔ leaf j l = empty := by
  constructor
  · intro h
    exact h.rooted.resolve_right (by simp [isLeaf])
  · intro h
    rw [h]
    exact isCanonical_empty

theorem isCanonical_group_iff {j : Option Connective} {cs : List Condition} :
    (group j cs).IsCanonical ↔ j = none ∧ cs ≠ [] ∧ IsJoinedUp cs ∧ ∀ c ∈ cs, c.IsRegular := by
  rw [← isRegular_group_iff (j := j)]
  constructor
  · intro h
    exact ⟨h.unjoined, h.toIsRegular⟩
  · rintro ⟨hj, hregular⟩
    exact ⟨hregular, hj, Or.inr rfl⟩

/-- **On its own** a tree is given back exactly if it is canonical. -/
theorem reread_eq_self_iff {c : Condition} (hc : c.IsQuoteFree) : c.reread = c ↔ c.IsCanonical := by
  cases c with
  | leaf k l =>
      rw [isCanonical_leaf_iff, reread]
      by_cases hvoid : l.isVoid
      · rw [if_pos hvoid, eq_comm]
      · -- a leaf with a name is written alone and comes back inside a group, or not at all
        rw [if_neg hvoid, rereadSibling, if_neg hvoid]
        split_ifs with hunfinished
        · rw [ofTerms, eq_comm]
        · have hname : leaf k l ≠ empty := by
            rintro ⟨⟩
            exact hvoid rfl
          simp [ofTerms, hname]
  | group k cs =>
      have hfree : ∀ c ∈ cs, c.IsQuoteFree := isQuoteFree_group_iff.mp hc
      have hall := rereadAll_eq_self_iff fun c hmem => rereadSibling_eq_singleton_iff (hfree c hmem)
      have hroot : (ofTerms (rereadAll cs)).withJoiner none = ofTerms (rereadAll cs) := by
        cases rereadAll cs <;> rfl
      rw [isCanonical_group_iff, reread, ← hroot, ofTerms_eq_group_iff, ← hall]
      constructor
      · rintro ⟨hne, rfl, heq⟩
        exact ⟨rfl, by rw [← heq]; exact hne, heq⟩
      · rintro ⟨rfl, hne, heq⟩
        exact ⟨by rw [heq]; exact hne, rfl, heq⟩

/-! ## The round trip -/

/-- **Writing and reading give back exactly the canonical conditions.** -/
theorem parse_render_eq_self_iff (c : Condition) : parse c.render = c ↔ c.IsCanonical := by
  constructor
  · intro h
    -- what the parser returns holds no quotes, so neither does `c`
    have hc : c.IsQuoteFree := by
      rw [← h]
      exact isQuoteFree_parse c.render
    rw [← reread_eq_self_iff hc, ← parse_render hc]
    exact h
  · intro h
    have hc : c.IsQuoteFree := h.toIsRegular.isQuoteFree
    rw [parse_render hc]
    exact (reread_eq_self_iff hc).mpr h

end Condition

end FilterQuery
