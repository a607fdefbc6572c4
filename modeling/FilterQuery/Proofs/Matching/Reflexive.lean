/-
# FilterQuery.Proofs.Matching.Reflexive -- conditions that accept themselves

A condition need not accept itself. As a candidate it answers each of its leaves with all
leaves of the same name, and these may contradict each other, as in `a=1 && a=2`; and of a
leaf such as `a<1` only the value counts, which the leaf itself excludes.

`Condition.accepts_self` says where neither happens. A leaf has to include its own value
(`Comparison.IsInclusive`), and siblings that share a name have to be alternatives
(`SharesByOr`). Then a leaf's own match is carried up through all groups around it
(`answers_eq_some_true`): wherever other leaves of the name come in, they come in by `||`.
-/
import FilterQuery.Proofs.Matching.Completion
import FilterQuery.Query.Parse

namespace FilterQuery

/-! ## Leaves that include their value -/

/-- **A comparison that includes its own value**: equality, or an ordering that admits
equality and has a value that is not read as a NaN. -/
def Comparison.IsInclusive (l : Comparison) : Prop :=
  l.operator = some .eq ∨
    (l.operator = some .le ∨ l.operator = some .ge) ∧ floatOrZero l.value ≠ .nan

instance (l : Comparison) : Decidable l.IsInclusive := inferInstanceAs (Decidable (_ ∨ _))

theorem Comparison.accepts_of_isInclusive {l : Comparison} (h : l.IsInclusive) :
    l.accepts l = true := by
  rcases h with heq | ⟨hordering, hnumber⟩
  · rw [accepts, heq]
    exact equalButCase_self l.value
  · have hsame : (floatOrZero l.value).compare? (floatOrZero l.value) = some .eq :=
      Double.compare?_self hnumber
    rcases hordering with hle | hge
    · simp only [accepts, hle, Timestamp.order_self, hsame]
      cases classify l.value <;> rfl
    · simp only [accepts, hge, Timestamp.order_self, hsame]
      cases classify l.value <;> rfl

namespace Condition

/-! ## Siblings that share a name -/

/-- Whether two conditions have leaves of one name. -/
def SharesName (c d : Condition) : Prop := ∃ l ∈ c.leaves, d.mentions l.name

instance (c d : Condition) : Decidable (SharesName c d) :=
  inferInstanceAs (Decidable (∃ l ∈ c.leaves, d.mentions l.name))

/-- **Siblings that share names as alternatives**: of any two that share a name, the later is
joined by `||`. -/
def SharesByOr (cs : List Condition) : Prop :=
  cs.Pairwise fun c d => SharesName c d → d.joiner = some .or

instance (cs : List Condition) : Decidable (SharesByOr cs) :=
  inferInstanceAs (Decidable (cs.Pairwise fun c d => SharesName c d → d.joiner = some .or))

/-- What such siblings answer is joined by `||`, behind the first answer. -/
theorem SharesByOr.pairwise_answersAll {cs : List Condition} (h : SharesByOr cs)
    (l : Comparison) : (answersAll l cs).Pairwise fun _ v => v.connective = .or := by
  rw [answersAll_eq_filterMap, List.pairwise_filterMap]
  refine h.imp ?_
  intro c d hshare u hu v hv
  obtain ⟨first, hfirst, -⟩ := Option.map_eq_some_iff.mp hu
  obtain ⟨second, hsecond, rfl⟩ := Option.map_eq_some_iff.mp hv
  -- both answer, so both have a leaf of the name
  obtain ⟨own, hown, hname⟩ := answers_ne_none_iff.mp (by simp [hfirst] : answers l c ≠ none)
  have hmentions : d.mentions own.name := by
    rw [hname]
    exact answers_ne_none_iff.mp (by simp [hsecond])
  show d.joiner.getD .and = .or
  rw [hshare ⟨own, hown, hmentions⟩]
  rfl

/-- **A leaf's own match is carried up** to the whole of a condition in which siblings share
names as alternatives. -/
theorem answers_eq_some_true {c : Condition} (hshared : ∀ cs ∈ c.siblingLists, SharesByOr cs)
    {l : Comparison} (hl : l ∈ c.leaves) (haccepts : l.accepts l = true) :
    answers l c = some true := by
  induction c using Condition.induction with
  | leaf j own =>
      rw [← mem_leaves_leaf.mp hl, answers, if_pos rfl, haccepts]
  | group j cs ih =>
      obtain ⟨hcs, hinner⟩ := forall_mem_siblingLists_group.mp hshared
      obtain ⟨c, hc, hlc⟩ := mem_leaves_group.mp hl
      -- the child with the leaf answers, and what it answers is one of the alternatives
      have hown : ⟨c.joiner, true⟩ ∈ answersAll l cs := by
        rw [answersAll_eq_filterMap, List.mem_filterMap]
        exact ⟨c, hc, by rw [ih c hc (hinner c hc) hlc]; rfl⟩
      rw [answers, Verdict.joinAll_of_pairwise_or (hcs.pairwise_answersAll l)
        (List.ne_nil_of_mem hown), List.any_eq_true.mpr ⟨_, hown, rfl⟩]

/-! ## Conditions as their own candidates -/

/-- **A condition accepts itself** if it has no empty groups, its leaves all name something
and include their values, and siblings that share a name are alternatives. -/
theorem accepts_self {c : Condition} (hinhabited : c.IsInhabited)
    (hnamed : ∀ l ∈ c.leaves, l.name ≠ "") (hinclusive : ∀ l ∈ c.leaves, l.IsInclusive)
    (hshared : ∀ cs ∈ c.siblingLists, SharesByOr cs) : c.accepts c = true := by
  rw [accepts_eq_truth]
  refine truth_of_forall hinhabited ?_
  intro l hl
  have hvoid : l.isVoid = false := Comparison.isVoid_eq_false_iff.mpr (hnamed l hl)
  have hanswer := answers_eq_some_true hshared hl
    (Comparison.accepts_of_isInclusive (hinclusive l hl))
  rw [hvoid, hanswer]
  rfl

/-- Two names that occur twice, one of them in the same group and one in the group below. -/
def sharedNames : Condition :=
  parse "name=Budi && (score>=10 || score<=7.5 && since>=\"2020-02-02 12:12:12\") || name=ani"

theorem accepts_self_sharedNames :
    sharedNames.IsInhabited ∧ (∀ l ∈ sharedNames.leaves, l.name ≠ "") ∧
      (∀ l ∈ sharedNames.leaves, l.IsInclusive) ∧
      (∀ cs ∈ sharedNames.siblingLists, SharesByOr cs) ∧
      sharedNames.accepts sharedNames = true := by
  have hparse : sharedNames =
      .group none [.leaf none ⟨"name", some .eq, "Budi"⟩,
        .group (some .and) [.leaf none ⟨"score", some .ge, "10"⟩,
          .leaf (some .or) ⟨"score", some .le, "7.5"⟩,
          .leaf (some .and) ⟨"since", some .ge, "2020-02-02 12:12:12"⟩],
        .leaf (some .or) ⟨"name", some .eq, "ani"⟩] := rfl
  have hinhabited : sharedNames.IsInhabited := by
    rw [hparse]
    simp [isInhabited_group_iff]
  have hnamed : ∀ l ∈ sharedNames.leaves, l.name ≠ "" := by
    rw [hparse]
    decide +kernel
  have hinclusive : ∀ l ∈ sharedNames.leaves, l.IsInclusive := by
    rw [hparse]
    decide +kernel
  have hshared : ∀ cs ∈ sharedNames.siblingLists, SharesByOr cs := by
    rw [hparse]
    decide +kernel
  exact ⟨hinhabited, hnamed, hinclusive, hshared,
    accepts_self hinhabited hnamed hinclusive hshared⟩

/-- Two leaves that share a name by `&&` exclude each other. -/
example : (parse "a=1 && a=2").accepts (parse "a=1 && a=2") = false := by decide +kernel

end Condition

end FilterQuery
