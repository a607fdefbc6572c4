/-
# FilterQuery.Proofs.Matching.Direct -- matching read off the candidate as it stands

A leaf of the reference concerns a part of the candidate only: the leaves of its name, with
the groups around them. `Condition.directValue` values the leaf on that part, as if the
rest of the candidate were not there, and on the empty text where there is no such part.
A match is the truth of the reference under these values
(`accepts_eq_truth_directValue`), so that the candidate need not be completed at all.

What carries it is that a candidate answers a leaf as its part with the name does
(`bind_answers_select`), and that such a part, in which every leaf has the name and no group
is empty, answers with its truth (`answers_eq_some_truth`). So the answer of a candidate is
the truth of a part of it (`answers_eq_map_select`).
-/
import FilterQuery.Proofs.Condition.Selection
import FilterQuery.Query.Parse
import Mathlib.Data.List.Basic

namespace FilterQuery.Condition

/-! ## Parts that answer -/

/-- The siblings that a selection leaves answer as all of them did. -/
theorem answersAll_filterMap_select {l : Comparison} {names : List String} {cs : List Condition}
    (hcs : ∀ c ∈ cs, (c.select names).bind (answers l) = answers l c) :
    answersAll l (cs.filterMap (select names)) = answersAll l cs := by
  rw [answersAll_eq_filterMap, answersAll_eq_filterMap, List.filterMap_filterMap]
  refine List.filterMap_congr fun c hc => ?_
  rw [← hcs c hc]
  cases hselect : c.select names with
  | none => rfl
  | some part =>
      rw [Option.bind_some, Option.bind_some, joiner_of_mem_select hselect]

/-- **A candidate answers as its part does**: what has other names than the selected ones
never has a say. -/
theorem bind_answers_select {l : Comparison} {names : List String} (hl : l.name ∈ names)
    (c : Condition) : (c.select names).bind (answers l) = answers l c := by
  induction c using Condition.induction with
  | leaf j own =>
      rw [select_leaf]
      split
      · rfl
      · next hown =>
        have hne : own.name ≠ l.name := by
          intro hname
          exact hown (hname ▸ hl)
        rw [answers, if_neg hne]
        rfl
  | group j cs ih =>
      rw [select_group, answers, ← answersAll_filterMap_select ih]
      -- a group that is left answers by its siblings, and one that is not would be silent
      cases cs.filterMap (select names) with
      | nil => rfl
      | cons first others => rw [groupOf?, Option.bind_some, answers]

/-- **A part in which every leaf has the name** answers with its truth. -/
theorem answers_eq_some_truth {l : Comparison} {c : Condition} (hinhabited : c.IsInhabited)
    (hnames : ∀ own ∈ c.leaves, own.name = l.name) :
    answers l c = some (c.truth l.accepts) := by
  induction c using Condition.induction with
  | leaf j own =>
      have hname : own.name = l.name := hnames own (by simp)
      rw [answers, if_pos hname, truth_leaf]
  | group j cs ih =>
      obtain ⟨hne, hinner⟩ := isInhabited_group_iff.mp hinhabited
      have hchildren := forall_mem_leaves_group.mp hnames
      have hverdicts : answersAll l cs = cs.map fun c => ⟨c.joiner, c.truth l.accepts⟩ := by
        rw [answersAll_eq_filterMap, ← List.filterMap_eq_map]
        refine List.filterMap_congr fun c hc => ?_
        rw [ih c hc (hinner c hc) (hchildren c hc)]
        rfl
      rw [answers, hverdicts, truth_group]
      cases hjoin : Verdict.joinAll (cs.map fun c => ⟨c.joiner, c.truth l.accepts⟩) with
      | none => exact absurd (List.map_eq_nil_iff.mp (Verdict.joinAll_eq_none_iff.mp hjoin)) hne
      | some holds => rfl

/-- **The answer of a candidate is the truth of its part with the name**, if it has one. -/
theorem answers_eq_map_select (l : Comparison) (c : Condition) :
    answers l c = (c.select [l.name]).map fun part => part.truth l.accepts := by
  rw [← bind_answers_select (List.mem_singleton_self l.name) c]
  cases hselect : c.select [l.name] with
  | none => rfl
  | some part =>
      have hnames : ∀ own ∈ part.leaves, own.name = l.name := fun own hown =>
        List.mem_singleton.mp (name_mem_of_mem_select hselect own hown)
      rw [Option.bind_some, Option.map_some,
        answers_eq_some_truth (isInhabited_of_mem_select hselect) hnames]

/-! ## Values without completion -/

/-- **What a leaf of the reference is worth on a candidate as it stands.** A leaf that names
nothing is false. Any other is compared with the leaves of its name, joined as the candidate
joins them when all else is taken out of it, and with the empty text if there are none. -/
def directValue (candidate : Condition) (l : Comparison) : Bool :=
  if l.isVoid then false
  else
    match candidate.select [l.name] with
    | some part => part.truth l.accepts
    | none => l.accepts ⟨l.name, some .eq, ""⟩

theorem directValue_eq_answers (candidate : Condition) (l : Comparison) :
    directValue candidate l =
      (!l.isVoid && (answers l candidate).getD (l.accepts ⟨l.name, some .eq, ""⟩)) := by
  rw [directValue, answers_eq_map_select]
  cases l.isVoid with
  | true => rfl
  | false => cases candidate.select [l.name] <;> rfl

/-- **Matching needs no completed candidate.** It is the truth of the reference under the
values that its leaves have on the candidate as it stands. About a name that the candidate
mentions the completed candidate says what the candidate says, which is the truth of the part
with that name; and it leaves no leaf that names something without an answer. -/
theorem accepts_eq_truth_directValue (reference candidate : Condition) :
    reference.accepts candidate = reference.truth (directValue candidate) ∧
      (∀ l, candidate.mentions l.name → ∃ part ∈ candidate.select [l.name],
        answers l candidate = some (part.truth l.accepts) ∧
          answers l (normalize reference candidate) = answers l candidate) ∧
      (∀ l ∈ reference.leaves, l.name ≠ "" →
        answers l (normalize reference candidate) = some (directValue candidate l)) := by
  refine ⟨?_, ?_, ?_⟩
  · rw [accepts_eq_truth]
    exact truth_congr fun l _ => (directValue_eq_answers candidate l).symm
  · intro l hmentions
    have hpart : candidate.select [l.name] ≠ none := by
      rw [ne_eq, select_eq_none_iff]
      intro hnone
      exact hnone l.name (List.mem_singleton_self l.name) hmentions
    obtain ⟨part, hselect⟩ := Option.ne_none_iff_exists'.mp hpart
    refine ⟨part, hselect, ?_, answers_normalize_of_mentions hmentions⟩
    rw [answers_eq_map_select, hselect, Option.map_some]
  · intro l hl hname
    have hvoid : l.isVoid = false := Comparison.isVoid_eq_false_iff.mpr hname
    rw [answers_normalize hl hvoid, directValue_eq_answers, hvoid]
    rfl

/-- Two leaves, of which `scatteredLeaves` lacks the name of the second. -/
def wantedLeaves : Condition := parse "a=1 && b<5"

/-- Leaves of the name `a` in different groups, behind leaves of other names. -/
def scatteredLeaves : Condition := parse "x=9 && a=2 || (y=2 && a=1)"

theorem accepts_eq_truth_directValue_scattered :
    scatteredLeaves.mentions "a" ∧ ⟨"b", some .lt, "5"⟩ ∈ wantedLeaves.leaves ∧
      wantedLeaves.accepts scatteredLeaves = wantedLeaves.truth (directValue scatteredLeaves) ∧
      (∃ part ∈ scatteredLeaves.select ["a"],
        answers ⟨"a", some .eq, "1"⟩ scatteredLeaves =
            some (part.truth (Comparison.accepts ⟨"a", some .eq, "1"⟩)) ∧
          answers ⟨"a", some .eq, "1"⟩ (normalize wantedLeaves scatteredLeaves) =
            answers ⟨"a", some .eq, "1"⟩ scatteredLeaves) ∧
      answers ⟨"b", some .lt, "5"⟩ (normalize wantedLeaves scatteredLeaves) =
        some (directValue scatteredLeaves ⟨"b", some .lt, "5"⟩) := by
  have hscattered : scatteredLeaves =
      .group none [.leaf none ⟨"x", some .eq, "9"⟩, .leaf (some .and) ⟨"a", some .eq, "2"⟩,
        .group (some .or) [.leaf none ⟨"y", some .eq, "2"⟩,
          .leaf (some .and) ⟨"a", some .eq, "1"⟩]] := rfl
  have hwanted : wantedLeaves =
      .group none [.leaf none ⟨"a", some .eq, "1"⟩, .leaf (some .and) ⟨"b", some .lt, "5"⟩] := rfl
  have hmentions : scatteredLeaves.mentions "a" := by simp [hscattered]
  have hleaf : ⟨"b", some .lt, "5"⟩ ∈ wantedLeaves.leaves := by simp [hwanted]
  obtain ⟨htruth, hsame, hanswered⟩ :=
    accepts_eq_truth_directValue wantedLeaves scatteredLeaves
  exact ⟨hmentions, hleaf, htruth, hsame ⟨"a", some .eq, "1"⟩ hmentions,
    hanswered _ hleaf (by simp)⟩

end FilterQuery.Condition
