/-
# FilterQuery.Proofs.Matching.Absence -- leaves that the candidate does not mention

A placeholder is meant to fail, and under `=` it does unless the literal is itself empty.
But the orderings read the empty text as the number zero or as the first second of year 1,
and so a leaf such as `a<5` holds of a candidate that says nothing about `a`.

`Comparison.holdsOfAbsence` says for which operators and literals this happens. It is the
exact condition: leaf by leaf (`accepts_leaf_of_not_mentions`), and in the truth of the
whole reference, where such leaves can make more candidates match than the reference
allows if missing attributes failed, and never fewer.
-/
import FilterQuery.Proofs.Matching.Completion
import FilterQuery.Query.Parse

namespace FilterQuery

/-! ## The empty text -/

theorem lowercase_ne_nil (c : Char) : lowercase c ≠ [] := by
  unfold lowercase
  split
  · simp
  · split
    · simp
    · split <;> simp

/-- Without regard to letter case, only the empty text is equal to the empty text. -/
theorem equalButCase_empty (text : String) : equalButCase "" text = (text == "") := by
  rw [Bool.eq_iff_iff, equalButCase, beq_iff_eq, beq_iff_eq]
  constructor
  · intro h
    have hnil : text.toList.flatMap lowercase = [] := h.symm
    rw [List.flatMap_eq_nil_iff] at hnil
    rw [← String.toList_eq_nil_iff, List.eq_nil_iff_forall_not_mem]
    exact fun c hc => lowercase_ne_nil c (hnil c hc)
  · rintro rfl
    rfl

theorem floatOrZero_empty : floatOrZero "" = .zero := rfl

theorem timeOrZero_empty : timeOrZero "" = .zero := rfl

/-- **Whether a comparison holds of an attribute that is missing.** Equality does if the
literal is empty, and an ordering if zero, or the first second of year 1, stands to the
literal as it says. -/
def Comparison.holdsOfAbsence (l : Comparison) : Bool :=
  match l.operator with
  | none => false
  | some .eq => l.value == ""
  | some op =>
    match classify l.value with
    | .temporal => op.holds (some (Timestamp.zero.order (timeOrZero l.value)))
    | _ => op.holds (Double.zero.compare? (floatOrZero l.value))

/-- A placeholder is accepted in just these cases. -/
theorem Comparison.accepts_empty (l : Comparison) (name : String) (op : Option CompareOp) :
    l.accepts ⟨name, op, ""⟩ = l.holdsOfAbsence := by
  unfold accepts holdsOfAbsence
  cases l.operator with
  | none => rfl
  | some op =>
      cases op with
      | eq => exact equalButCase_empty l.value
      | _ => cases classify l.value <;> simp only [floatOrZero_empty, timeOrZero_empty]

namespace Condition

/-! ## Missing attributes in a match -/

/-- **What a leaf of the reference is worth if missing attributes fail**: what the
candidate answers, and false if it does not mention the name. -/
def strictValue (candidate : Condition) (l : Comparison) : Bool :=
  if candidate.mentions l.name then !l.isVoid && (answers l candidate).getD false else false

/-- **What a leaf of the reference is worth**: what the candidate answers, and whether it
holds of absence if the candidate does not mention the name. -/
def lenientValue (candidate : Condition) (l : Comparison) : Bool :=
  if candidate.mentions l.name then !l.isVoid && (answers l candidate).getD false
  else !l.isVoid && l.holdsOfAbsence

theorem lenientValue_of_strictValue {candidate : Condition} {l : Comparison}
    (h : strictValue candidate l = true) : lenientValue candidate l = true := by
  unfold strictValue at h
  unfold lenientValue
  by_cases hmentions : candidate.mentions l.name
  · rw [if_pos hmentions] at h ⊢
    exact h
  · rw [if_neg hmentions] at h
    cases h

/-- The two differ in the leaves that hold of absence only. -/
theorem lenientValue_eq_strictValue {candidate : Condition} {l : Comparison}
    (h : ¬candidate.mentions l.name → l.isVoid = true ∨ l.holdsOfAbsence = false) :
    lenientValue candidate l = strictValue candidate l := by
  unfold lenientValue strictValue
  by_cases hmentions : candidate.mentions l.name
  · rw [if_pos hmentions, if_pos hmentions]
  · rw [if_neg hmentions, if_neg hmentions]
    rcases h hmentions with hvoid | hfails
    · rw [hvoid]
      rfl
    · rw [hfails, Bool.and_false]

theorem accepts_eq_truth_lenientValue (reference candidate : Condition) :
    reference.accepts candidate = reference.truth (lenientValue candidate) := by
  rw [accepts_eq_truth]
  apply truth_congr
  intro l _
  unfold lenientValue
  by_cases hmentions : candidate.mentions l.name
  · rw [if_pos hmentions]
    cases hanswer : answers l candidate with
    | none => exact absurd hmentions (answers_eq_none_iff.mp hanswer)
    | some holds => rfl
  · rw [if_neg hmentions, answers_eq_none_iff.mpr hmentions, Option.getD_none, l.accepts_empty]

/-- A single leaf is satisfied by a candidate that does not mention its name just if it
names something and holds of absence. -/
theorem accepts_leaf_of_not_mentions {candidate : Condition} {l : Comparison}
    (h : ¬candidate.mentions l.name) (j : Option Connective) :
    (leaf j l).accepts candidate = true ↔ l.isVoid = false ∧ l.holdsOfAbsence = true := by
  rw [accepts_eq_truth_lenientValue, truth_leaf, lenientValue, if_neg h]
  simp

/-- **What a match makes of missing attributes.** A leaf whose name the candidate does not
mention counts as true if it holds of absence. The match is thereby at least as true as
if missing attributes failed, and the same if no leaf of the reference whose name is
missing holds of absence; a leaf on its own differs in just these cases. -/
theorem accepts_of_missing (reference candidate : Condition) :
    reference.accepts candidate = reference.truth (lenientValue candidate) ∧
      (reference.truth (strictValue candidate) = true → reference.accepts candidate = true) ∧
      ((∀ l ∈ reference.leaves, ¬candidate.mentions l.name →
          l.isVoid = true ∨ l.holdsOfAbsence = false) →
        reference.accepts candidate = reference.truth (strictValue candidate)) ∧
      (∀ j l, ¬candidate.mentions l.name →
        ((leaf j l).accepts candidate = true ↔ l.isVoid = false ∧ l.holdsOfAbsence = true)) := by
  have hlenient := accepts_eq_truth_lenientValue reference candidate
  refine ⟨hlenient, ?_, ?_, ?_⟩
  · intro hstrict
    rw [hlenient]
    exact truth_mono (fun l _ => lenientValue_of_strictValue) hstrict
  · intro hfail
    rw [hlenient]
    exact truth_congr fun l hl => lenientValue_eq_strictValue (hfail l hl)
  · intro j l habsent
    exact accepts_leaf_of_not_mentions habsent j

/-- Equality with a literal that is not empty fails when the attribute is missing. -/
theorem accepts_of_missing_eq :
    (∀ l ∈ (parse "a=1 && b=2").leaves, ¬(parse "a=1").mentions l.name →
        l.isVoid = true ∨ l.holdsOfAbsence = false) ∧
      (∃ l ∈ (parse "a=1 && b=2").leaves, ¬(parse "a=1").mentions l.name) ∧
      (parse "a=1 && b=2").accepts (parse "a=1") =
        (parse "a=1 && b=2").truth (strictValue (parse "a=1")) := by
  have hreference : parse "a=1 && b=2" =
      .group none [.leaf none ⟨"a", some .eq, "1"⟩, .leaf (some .and) ⟨"b", some .eq, "2"⟩] := rfl
  have hcandidate : parse "a=1" = .group none [.leaf none ⟨"a", some .eq, "1"⟩] := rfl
  have hfail : ∀ l ∈ (parse "a=1 && b=2").leaves, ¬(parse "a=1").mentions l.name →
      l.isVoid = true ∨ l.holdsOfAbsence = false := by
    rw [hreference, hcandidate]
    intro l hl _
    simp only [mem_leaves_group, List.mem_cons, List.not_mem_nil, or_false, exists_eq_or_imp,
      exists_eq_left, mem_leaves_leaf] at hl
    rcases hl with rfl | rfl
    · exact .inr rfl
    · exact .inr rfl
  refine ⟨hfail, ?_, (accepts_of_missing _ _).2.2.1 hfail⟩
  rw [hreference, hcandidate]
  exact ⟨⟨"b", some .eq, "2"⟩, by simp, by simp⟩

/-- An ordering may hold: `a<5` is satisfied by a candidate that does not mention `a`. -/
theorem accepts_of_missing_ne :
    ¬∀ reference candidate : Condition,
      reference.accepts candidate = reference.truth (strictValue candidate) := by
  intro h
  have hreference : parse "a<5" = .group none [.leaf none ⟨"a", some .lt, "5"⟩] := rfl
  have hcandidate : parse "b=1" = .group none [.leaf none ⟨"b", some .eq, "1"⟩] := rfl
  have hstrict : (parse "a<5").truth (strictValue (parse "b=1")) = false := by
    rw [hreference, hcandidate]
    rfl
  have hmatch : (parse "a<5").accepts (parse "b=1") = true := by
    rw [hreference, hcandidate]
    decide +kernel
  have heq := h (parse "a<5") (parse "b=1")
  rw [hmatch, hstrict] at heq
  cases heq

end Condition

end FilterQuery
