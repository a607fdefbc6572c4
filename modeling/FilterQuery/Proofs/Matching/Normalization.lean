/-
# FilterQuery.Proofs.Matching.Normalization -- what a completed candidate consists of

`Condition.normalize` looks at two trees through the names that their leaves have. The names of
a tree are one list for one set of names: each name once, ascending by code point
(`pairwise_names`). So the names that a candidate lacks are determined by membership alone, and
the completed candidate is the candidate with one placeholder for each of them, in that order.

A completed candidate mentions every name of the reference (`mem_names_normalize`), and that is
what a candidate has to do to be left alone (`normalize_eq_self_iff`). Completing it again, or
matching it after it was completed, is therefore the same as doing so once
(`normalize_completes`): placeholders do not pile up over repeated calls.
-/
import FilterQuery.Proofs.Matching.Completion
import FilterQuery.Query.Parse
import Mathlib.Data.String.Basic

namespace FilterQuery

/-! ## Ascending names -/

/-- A name is put in its place, and a name that is there already is not put there again. -/
theorem pairwise_insertName {name : String} {names : List String}
    (h : names.Pairwise (· < ·)) : (insertName name names).Pairwise (· < ·) := by
  induction names with
  | nil => simp [insertName]
  | cons other rest ih =>
      obtain ⟨hother, hrest⟩ := List.pairwise_cons.mp h
      unfold insertName
      -- before the first name, at it, or somewhere behind it
      split
      · next hbefore =>
        refine List.pairwise_cons.mpr ⟨?_, h⟩
        intro later hlater
        rcases List.mem_cons.mp hlater with rfl | hlater
        · exact hbefore
        · exact lt_trans hbefore (hother later hlater)
      · next hnotBefore =>
        split
        · exact h
        · next hne =>
          refine List.pairwise_cons.mpr ⟨?_, ih hrest⟩
          intro later hlater
          rcases mem_insertName.mp hlater with rfl | hlater
          · exact lt_of_le_of_ne (not_lt.mp hnotBefore) (Ne.symm hne)
          · exact hother later hlater

namespace Condition

/-- **The names of a condition ascend**, so that none of them is there twice. -/
theorem pairwise_names (c : Condition) : c.names.Pairwise (· < ·) := by
  unfold names
  induction c.leafNames with
  | nil => exact List.Pairwise.nil
  | cons name rest ih => exact pairwise_insertName ih

theorem pairwise_missingNames (reference candidate : Condition) :
    (missingNames reference candidate).Pairwise (· < ·) :=
  (pairwise_names reference).filter _

/-! ## Which names are missing -/

theorem mem_missingNames_iff_names {name : String} {reference candidate : Condition} :
    name ∈ missingNames reference candidate ↔ name ∈ reference.names ∧ name ∉ candidate.names := by
  simp [missingNames]

theorem missingNames_eq_nil_iff {reference candidate : Condition} :
    missingNames reference candidate = [] ↔ ∀ name ∈ reference.names, name ∈ candidate.names := by
  rw [List.eq_nil_iff_forall_not_mem]
  simp only [mem_missingNames_iff_names, not_and, not_not]

/-! ## The names of a completed candidate -/

/-- The leaves of a candidate are those of its siblings. -/
theorem mentions_group_siblings {j : Option Connective} {c : Condition} {name : String} :
    (group j c.siblings).mentions name ↔ c.mentions name := by
  cases c <;> simp [siblings]

theorem mentions_group_append {j : Option Connective} {cs ds : List Condition} {name : String} :
    (group j (cs ++ ds)).mentions name ↔
      (group j cs).mentions name ∨ (group j ds).mentions name := by
  simp only [mentions_group, List.mem_append, or_and_right, exists_or]

theorem mentions_placeholder {own name : String} :
    (placeholder own).mentions name ↔ own = name := by
  simp [placeholder]

/-- **A completed candidate mentions what it did before, and the missing names.** -/
theorem mentions_normalize {reference candidate : Condition} {name : String} :
    (normalize reference candidate).mentions name ↔
      candidate.mentions name ∨ name ∈ missingNames reference candidate := by
  by_cases hnil : missingNames reference candidate = []
  · simp [normalize_of_missing_eq_nil hnil, hnil]
  · rw [normalize_of_missing_ne_nil hnil, mentions_group_append, mentions_group_siblings]
    simp [mentions_placeholder]

/-- Its names are those of the candidate and those of the reference. -/
theorem mem_names_normalize {reference candidate : Condition} {name : String} :
    name ∈ (normalize reference candidate).names ↔
      name ∈ candidate.names ∨ name ∈ reference.names := by
  simp only [mem_names, mem_leafNames, mentions_normalize, mem_missingNames]
  constructor
  · rintro ⟨hne, hmentions | ⟨-, hmentions, -⟩⟩
    · exact .inl ⟨hne, hmentions⟩
    · exact .inr ⟨hne, hmentions⟩
  · rintro (⟨hne, hmentions⟩ | ⟨hne, hmentions⟩)
    · exact ⟨hne, .inl hmentions⟩
    · refine ⟨hne, ?_⟩
      by_cases hown : candidate.mentions name
      · exact .inl hown
      · exact .inr ⟨hne, hmentions, hown⟩

/-! ## Completing once and for all -/

/-- **A candidate that mentions every name of the reference is complete.** -/
theorem normalize_eq_self {reference candidate : Condition}
    (h : ∀ name ∈ reference.names, name ∈ candidate.names) :
    normalize reference candidate = candidate :=
  normalize_of_missing_eq_nil (missingNames_eq_nil_iff.mpr h)

/-- A completed candidate is complete. -/
theorem normalize_normalize (reference candidate : Condition) :
    normalize reference (normalize reference candidate) = normalize reference candidate := by
  apply normalize_eq_self
  intro name hname
  exact mem_names_normalize.mpr (.inr hname)

/-- The siblings of a candidate are its children, or a leaf itself without its connective. -/
theorem siblings_eq (c : Condition) :
    c.siblings = if c.isLeaf then [c.withJoiner none] else c.children := by
  cases c <;> rfl

/-- **What completing a candidate does.** Its names become those of both conditions. A candidate
that has them all is left as it is. Any other keeps its connective and its children, or itself
without the connective if it is a leaf, and behind these comes one leaf for each missing name,
ascending, which equates it with the empty text. A second time there is nothing left to do, and
a match does not tell the completed candidate from the candidate. -/
theorem normalize_completes (reference candidate : Condition) :
    (∀ name, name ∈ (normalize reference candidate).names ↔
        name ∈ candidate.names ∨ name ∈ reference.names) ∧
      ((∀ name ∈ reference.names, name ∈ candidate.names) →
        normalize reference candidate = candidate) ∧
      ((∃ name ∈ reference.names, name ∉ candidate.names) →
        ∃ missing : List String, missing.Pairwise (· < ·) ∧
          (∀ name, name ∈ missing ↔ name ∈ reference.names ∧ name ∉ candidate.names) ∧
          normalize reference candidate = .group candidate.joiner
            ((if candidate.isLeaf then [candidate.withJoiner none] else candidate.children) ++
              missing.map fun name => .leaf (some .and) ⟨name, some .eq, ""⟩)) ∧
      normalize reference (normalize reference candidate) = normalize reference candidate ∧
      reference.accepts (normalize reference candidate) = reference.accepts candidate := by
  refine ⟨fun name => mem_names_normalize, normalize_eq_self, ?_,
    normalize_normalize reference candidate, ?_⟩
  · rintro ⟨name, hname, habsent⟩
    have hmissing : missingNames reference candidate ≠ [] :=
      List.ne_nil_of_mem (mem_missingNames_iff_names.mpr ⟨hname, habsent⟩)
    refine ⟨missingNames reference candidate, pairwise_missingNames reference candidate,
      fun name => mem_missingNames_iff_names, ?_⟩
    rw [normalize_of_missing_ne_nil hmissing, siblings_eq]
    rfl
  · unfold accepts
    rw [normalize_normalize]

/-- A reference with three names, one of which occurs twice. -/
def threeNames : Condition := parse "c=1 && b>2 && (a<5 || c=\"\")"

/-- A leaf with one of the names, which is joined to something before it. -/
def loneLeaf : Condition := .leaf (some .or) ⟨"b", some .ge, "7"⟩

/-- A candidate with all three names and one more. -/
def fullCandidate : Condition := parse "(c=2 || x=1) && a=1 && b=3"

/-- The lone leaf is wrapped together with placeholders for `a` and `c`; the full candidate is
left as it is. -/
theorem normalize_completes_loneLeaf :
    (∃ name ∈ threeNames.names, name ∉ loneLeaf.names) ∧
      (∀ name ∈ threeNames.names, name ∈ fullCandidate.names) ∧
      (∃ missing : List String, missing.Pairwise (· < ·) ∧
        (∀ name, name ∈ missing ↔ name ∈ threeNames.names ∧ name ∉ loneLeaf.names) ∧
        normalize threeNames loneLeaf = .group (some .or)
          ([.leaf none ⟨"b", some .ge, "7"⟩] ++
            missing.map fun name => .leaf (some .and) ⟨name, some .eq, ""⟩)) ∧
      (normalize threeNames loneLeaf).children.length = 3 ∧
      normalize threeNames fullCandidate = fullCandidate := by
  have hmissing : ∃ name ∈ threeNames.names, name ∉ loneLeaf.names := by decide +kernel
  have hfull : ∀ name ∈ threeNames.names, name ∈ fullCandidate.names := by decide +kernel
  refine ⟨hmissing, hfull, ?_, by decide +kernel, ?_⟩
  · exact (normalize_completes threeNames loneLeaf).2.2.1 hmissing
  · exact (normalize_completes threeNames fullCandidate).2.1 hfull

end Condition

end FilterQuery
