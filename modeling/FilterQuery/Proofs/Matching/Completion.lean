/-
# FilterQuery.Proofs.Matching.Completion -- what completing a candidate adds

Before the walk a candidate gets a placeholder, the empty text, for each name of the
reference that none of its leaves has. This module removes that step: a leaf of the
reference that the candidate mentions is answered as the candidate itself answers it,
and any other leaf is held against the empty text (`answers_normalize`). So matching is
the truth of the reference under values that are read off the candidate as it stands
(`accepts_eq_truth`).

Placeholders of one name may stand next to placeholders of another, and only those of
the name are looked at; they are all alike, so it does not matter how many of them there
are.
-/
import FilterQuery.Matching
import FilterQuery.Proofs.Condition.Truth

namespace FilterQuery.Condition

/-! ## Missing names -/

theorem mem_missingNames {name : String} {reference candidate : Condition} :
    name ∈ missingNames reference candidate ↔
      name ≠ "" ∧ reference.mentions name ∧ ¬candidate.mentions name := by
  rw [missingNames, List.mem_filter, mem_names, mem_leafNames, Bool.not_eq_true',
    ← Bool.not_eq_true, List.contains_iff_mem, mem_names, mem_leafNames, and_assoc]
  refine and_congr_right fun hne => and_congr_right fun _ => not_congr ?_
  exact and_iff_right hne

/-! ## Answers of a candidate -/

theorem answersAll_eq_filterMap (l : Comparison) (cs : List Condition) :
    answersAll l cs =
      cs.filterMap fun c => (answers l c).map fun holds => ⟨c.joiner, holds⟩ := by
  induction cs with
  | nil => rfl
  | cons c cs ih =>
      rw [answersAll, List.filterMap_cons, ih]
      cases answers l c <;> rfl

theorem answersAll_append (l : Comparison) (cs ds : List Condition) :
    answersAll l (cs ++ ds) = answersAll l cs ++ answersAll l ds := by
  simp only [answersAll_eq_filterMap, List.filterMap_append]

theorem answersAll_eq_nil_iff {l : Comparison} {cs : List Condition} :
    answersAll l cs = [] ↔ ∀ c ∈ cs, answers l c = none := by
  rw [answersAll_eq_filterMap, List.filterMap_eq_nil_iff]
  simp only [Option.map_eq_none_iff]

/-- A candidate answers a leaf as soon as it mentions its name. -/
theorem answers_eq_none_iff {l : Comparison} {c : Condition} :
    answers l c = none ↔ ¬c.mentions l.name := by
  induction c using Condition.induction with
  | leaf j comparison => simp [answers]
  | group j cs ih =>
      rw [answers, Verdict.joinAll_eq_none_iff, answersAll_eq_nil_iff, mentions_group]
      simp only [not_exists, not_and]
      exact forall₂_congr ih

theorem answers_ne_none_iff {l : Comparison} {c : Condition} :
    answers l c ≠ none ↔ c.mentions l.name := by
  rw [ne_eq, answers_eq_none_iff, not_not]

/-- The siblings of a candidate answer as it does itself. -/
theorem joinAll_answersAll_siblings (l : Comparison) (c : Condition) :
    Verdict.joinAll (answersAll l c.siblings) = answers l c := by
  cases c with
  | leaf j comparison =>
      rw [siblings, answersAll_eq_filterMap]
      by_cases hname : comparison.name = l.name
      · simp [answers, hname, Verdict.joinAll]
      · simp [answers, hname]
  | group j cs => rw [siblings, answers]

/-! ## Placeholders -/

theorem answers_placeholder (l : Comparison) (name : String) :
    answers l (placeholder name) =
      if name = l.name then some (l.accepts ⟨name, some .eq, ""⟩) else none := by
  rw [placeholder, answers]

/-- Placeholders of other names do not answer. -/
theorem answersAll_placeholder_of_not_mem {l : Comparison} {names : List String}
    (h : l.name ∉ names) : answersAll l (names.map placeholder) = [] := by
  rw [answersAll_eq_nil_iff]
  intro c hc
  obtain ⟨name, hname, rfl⟩ := List.mem_map.mp hc
  have hne : name ≠ l.name := by
    rintro rfl
    exact h hname
  rw [answers_placeholder, if_neg hne]

/-- Those of the name answer with the empty text. -/
theorem joinAll_answersAll_placeholder {l : Comparison} {names : List String}
    (h : l.name ∈ names) :
    Verdict.joinAll (answersAll l (names.map placeholder)) =
      some (l.accepts ⟨l.name, some .eq, ""⟩) := by
  refine Verdict.joinAll_of_forall_holds ?_ ?_
  · intro v hv
    rw [answersAll_eq_filterMap, List.filterMap_map, List.mem_filterMap] at hv
    obtain ⟨name, -, hverdict⟩ := hv
    rw [Function.comp_apply, answers_placeholder] at hverdict
    split at hverdict
    · next heq =>
        subst heq
        rw [← Option.some.inj hverdict]
    · cases hverdict
  · rw [ne_eq, answersAll_eq_nil_iff]
    intro hnone
    have hanswer := hnone (placeholder l.name) (List.mem_map_of_mem h)
    rw [answers_placeholder, if_pos rfl] at hanswer
    cases hanswer

/-! ## The completed candidate -/

theorem normalize_of_missing_eq_nil {reference candidate : Condition}
    (h : missingNames reference candidate = []) : normalize reference candidate = candidate := by
  unfold normalize
  rw [h]

/-- A candidate that lacks a name is a group of what it was and the placeholders. -/
theorem normalize_of_missing_ne_nil {reference candidate : Condition}
    (h : missingNames reference candidate ≠ []) :
    normalize reference candidate = .group candidate.joiner
      (candidate.siblings ++ (missingNames reference candidate).map placeholder) := by
  unfold normalize
  split
  · next hnil => exact absurd hnil h
  · rfl

theorem answers_normalize_of_missing {reference candidate : Condition} (l : Comparison)
    (h : missingNames reference candidate ≠ []) :
    answers l (normalize reference candidate) =
      Verdict.joinAll (answersAll l candidate.siblings ++
        answersAll l ((missingNames reference candidate).map placeholder)) := by
  rw [normalize_of_missing_ne_nil h, answers, answersAll_append]

/-- No placeholder answers for a name that the candidate mentions. -/
theorem answers_normalize_of_mentions {reference candidate : Condition} {l : Comparison}
    (h : candidate.mentions l.name) :
    answers l (normalize reference candidate) = answers l candidate := by
  by_cases hnil : missingNames reference candidate = []
  · rw [normalize_of_missing_eq_nil hnil]
  · have hpresent : l.name ∉ missingNames reference candidate := by
      intro hmem
      exact (mem_missingNames.mp hmem).2.2 h
    rw [answers_normalize_of_missing l hnil, answersAll_placeholder_of_not_mem hpresent,
      List.append_nil, joinAll_answersAll_siblings]

/-- **What a completed candidate answers**: what the candidate itself does, and else what
the empty text does. -/
theorem answers_normalize {reference candidate : Condition} {l : Comparison}
    (hl : l ∈ reference.leaves) (hvoid : l.isVoid = false) :
    answers l (normalize reference candidate) =
      some ((answers l candidate).getD (l.accepts ⟨l.name, some .eq, ""⟩)) := by
  have hname : l.name ≠ "" := Comparison.isVoid_eq_false_iff.mp hvoid
  cases hanswer : answers l candidate with
  | none =>
      -- only the placeholders of the name are left to answer
      have habsent : l.name ∈ missingNames reference candidate :=
        mem_missingNames.mpr ⟨hname, ⟨l, hl, rfl⟩, answers_eq_none_iff.mp hanswer⟩
      have hsilent : answersAll l candidate.siblings = [] := by
        rw [← Verdict.joinAll_eq_none_iff, joinAll_answersAll_siblings, hanswer]
      rw [answers_normalize_of_missing l (List.ne_nil_of_mem habsent), hsilent, List.nil_append,
        joinAll_answersAll_placeholder habsent, Option.getD_none]
  | some holds =>
      have hmentions : candidate.mentions l.name := answers_ne_none_iff.mp (by simp [hanswer])
      rw [answers_normalize_of_mentions hmentions, hanswer, Option.getD_some]

/-! ## The walk -/

theorem walkAll_eq_map (candidate : Condition) (cs : List Condition) :
    walkAll candidate cs = cs.map fun c => ⟨c.joiner, walk candidate c⟩ := by
  induction cs with
  | nil => rfl
  | cons c cs ih => rw [walkAll, ih, List.map_cons]

/-- The walk gives each leaf of the reference the value that the candidate answers. -/
theorem walk_eq_truth (candidate reference : Condition) :
    walk candidate reference =
      reference.truth fun l => !l.isVoid && (answers l candidate).getD false := by
  induction reference using Condition.induction with
  | leaf j l => rw [walk, truth_leaf]
  | group j cs ih =>
      rw [walk, walkAll_eq_map, truth_group]
      congr 2
      exact List.map_congr_left fun c hc => by rw [ih c hc]

/-- **Matching without completing the candidate.** -/
theorem accepts_eq_truth (reference candidate : Condition) :
    reference.accepts candidate = reference.truth fun l =>
      !l.isVoid && (answers l candidate).getD (l.accepts ⟨l.name, some .eq, ""⟩) := by
  rw [accepts, walk_eq_truth]
  apply truth_congr
  intro l hl
  cases hvoid : l.isVoid with
  | true => rfl
  | false => rw [answers_normalize hl hvoid, Option.getD_some]

end FilterQuery.Condition
