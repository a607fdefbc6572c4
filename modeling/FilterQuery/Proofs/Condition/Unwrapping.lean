/-
# FilterQuery.Proofs.Condition.Unwrapping -- parentheses that do not matter

Siblings are joined from left to right, so the parentheses of a group say nothing where
that order is kept anyway: in front of all its siblings, and in a chain of one connective,
because `&&` and `||` are associative. `Unwraps` takes such parentheses away, anywhere in a
tree, and the tree stays what it was in every use: against records, errors included, as a
reference, and as a candidate (`interchangeable_of_unwraps`).

The law is proved of the survey that the three uses have in common. What carries it is that
joining a sibling to what a group says, and joining the result to what stands before the
group, is the same as joining both in turn (`Verdict.joinAnswer_joinAnswer`). In front of
all siblings that is so for any connectives, since nothing stands before.
-/
import FilterQuery.Proofs.Condition.Survey
import FilterQuery.Query.Parse

namespace FilterQuery

/-! ## Joining in turn -/

theorem Connective.apply_assoc (k : Connective) (a b c : Bool) :
    k.apply (k.apply a b) c = k.apply a (k.apply b c) := by
  cases k with
  | and => exact Bool.and_assoc a b c
  | or => exact Bool.or_assoc a b c

namespace Verdict

/-- **Joining in turn**: behind `running`, an inner result and one more sibling may be joined
one after the other if the sibling has the connective of the inner result, or if nothing
stands before. -/
theorem joinAnswer_joinAnswer {running : Option Bool} {j k : Option Connective}
    (h : running = none ∨ j.getD .and = k.getD .and) (inner answer : Option Bool) :
    joinAnswer (joinAnswer running k inner) j answer =
      joinAnswer running k (joinAnswer inner j answer) := by
  cases running with
  | none => rw [none_joinAnswer, none_joinAnswer]
  | some before =>
      have hsame : j.getD .and = k.getD .and := h.resolve_left (by simp)
      cases answer with
      | none => rfl
      | some holds =>
          cases inner with
          | none => exact congrArg (fun c => some (Connective.apply c before holds)) hsame
          | some result =>
              simp only [joinAnswer_some, join_some, connective, hsame, Connective.apply_assoc]

end Verdict

namespace Condition

/-! ## Taking parentheses away -/

/-- Siblings that may stand behind `before` without their parentheses, which `k` joins: they
come first, or all but the first of them have the connective of the parentheses. -/
def MayOpen (before : List Condition) (k : Option Connective) (others : List Condition) : Prop :=
  before = [] ∨ ∀ c ∈ others, c.joiner.getD .and = k.getD .and

/-- **Trees that differ in one pair of parentheses.** Some group of the first has a child that
is a group itself, and the second has the children of that child in its place, the first of
them behind the connective of the parentheses. -/
inductive Unwraps : Condition → Condition → Prop where
  | here {j k : Option Connective} {before after others : List Condition} {first : Condition} :
      MayOpen before k others →
      Unwraps (.group j (before ++ .group k (first :: others) :: after))
        (.group j (before ++ (first.withJoiner k :: others) ++ after))
  | inside {j : Option Connective} {before after : List Condition} {c d : Condition} :
      Unwraps c d → Unwraps (.group j (before ++ c :: after)) (.group j (before ++ d :: after))

theorem Unwraps.joiner_eq {c d : Condition} (h : Unwraps c d) : d.joiner = c.joiner := by
  cases h <;> rfl

/-! ## The law of the survey -/

section Walk

variable {ε : Type} {value : Comparison → Except ε (Option Bool)} {blank : Option Bool}

/-- Siblings with the connective `k` join what stands before them as one: what they say on
their own, behind `k`. -/
theorem surveyFrom_joinAnswer {running : Option Bool} {k : Option Connective}
    {cs : List Condition}
    (h : running = none ∨ ∀ c ∈ cs, c.joiner.getD .and = k.getD .and) (inner : Option Bool) :
    surveyFrom value blank (Verdict.joinAnswer running k inner) cs =
      (surveyFrom value blank inner cs).map (Verdict.joinAnswer running k) := by
  induction cs generalizing inner with
  | nil => rw [surveyFrom_nil, surveyFrom_nil]; rfl
  | cons c cs ih =>
      have hfirst : running = none ∨ c.joiner.getD .and = k.getD .and :=
        h.imp_right fun hcs => hcs c (by simp)
      have hothers : running = none ∨ ∀ c ∈ cs, c.joiner.getD .and = k.getD .and :=
        h.imp_right fun hcs d hd => hcs d (List.mem_cons_of_mem c hd)
      rw [surveyFrom_cons, surveyFrom_cons]
      cases survey value blank c with
      | error e => rfl
      | ok answer =>
          show surveyFrom value blank _ cs = (surveyFrom value blank _ cs).map _
          rw [Verdict.joinAnswer_joinAnswer hfirst]
          exact ih hothers _

/-- Once something has been said, siblings do not unsay it. -/
theorem surveyFrom_some_ne_none (result : Bool) (cs : List Condition) :
    surveyFrom value blank (some result) cs ≠ .ok none := by
  induction cs generalizing result with
  | nil => rw [surveyFrom_nil]; simp
  | cons c cs ih =>
      rw [surveyFrom_cons]
      cases survey value blank c with
      | error e => simp [Except.bind]
      | ok answer =>
          show surveyFrom value blank
            (Verdict.joinAnswer (some result) c.joiner (answer.or blank)) cs ≠ .ok none
          cases answer.or blank with
          | none => exact ih result
          | some holds => exact ih _

/-- Siblings, of which there is one at least, say what they say also when nothing counts as
`blank`: their own blanks have been counted already. -/
theorem or_blank_of_surveyFrom {c : Condition} {cs : List Condition} {answer : Option Bool}
    (h : surveyFrom value blank none (c :: cs) = .ok answer) : answer.or blank = answer := by
  cases answer with
  | some holds => rfl
  | none =>
      rw [surveyFrom_cons] at h
      cases hc : survey value blank c with
      | error e => rw [hc] at h; cases h
      | ok first =>
          rw [hc] at h
          cases hblank : first.or blank with
          | some holds =>
              have hsome : surveyFrom value blank (some holds) cs = .ok none := by
                simpa [Except.bind, hblank] using h
              exact absurd hsome (surveyFrom_some_ne_none holds cs)
          | none => exact (Option.or_eq_none_iff.mp hblank).2

/-- **Parentheses that may open** are walked as the siblings inside them. -/
theorem surveyFrom_group {running : Option Bool} {k : Option Connective} {first : Condition}
    {others : List Condition}
    (h : running = none ∨ ∀ c ∈ others, c.joiner.getD .and = k.getD .and)
    (after : List Condition) :
    surveyFrom value blank running (.group k (first :: others) :: after) =
      surveyFrom value blank running ((first.withJoiner k :: others) ++ after) := by
  have hall : running = none ∨
      ∀ c ∈ first.withJoiner k :: others, c.joiner.getD .and = k.getD .and :=
    h.imp_right fun hothers => List.forall_mem_cons.mpr ⟨by rw [joiner_withJoiner], hothers⟩
  have hchain : surveyFrom value blank (Verdict.joinAnswer running k none)
      (first.withJoiner k :: others) =
        (surveyFrom value blank none (first.withJoiner k :: others)).map
          (Verdict.joinAnswer running k) := surveyFrom_joinAnswer hall none
  have hfirst : surveyFrom value blank none (first.withJoiner k :: others) =
      surveyFrom value blank none (first :: others) := by
    simp only [surveyFrom_cons, survey_withJoiner, Verdict.none_joinAnswer]
  rw [Verdict.joinAnswer_none, hfirst] at hchain
  rw [surveyFrom_append, hchain, surveyFrom_cons, survey_group]
  cases hinner : surveyFrom value blank none (first :: others) with
  | error e => rfl
  | ok answer =>
      show surveyFrom value blank (Verdict.joinAnswer running k (answer.or blank)) after = _
      rw [or_blank_of_surveyFrom hinner]
      rfl

/-- **Unwrapped trees are surveyed alike.** -/
theorem survey_eq_of_unwraps {c d : Condition} (h : Unwraps c d) :
    survey value blank c = survey value blank d := by
  induction h with
  | @here j k before after others first hopen =>
      rw [survey_group, survey_group, List.append_assoc, surveyFrom_append, surveyFrom_append]
      rcases hopen with rfl | hsame
      · -- with nothing before it, the group is the first to say something
        rw [surveyFrom_nil]
        exact surveyFrom_group (Or.inl rfl) after
      · congr 1
        funext running
        exact surveyFrom_group (Or.inr hsame) after
  | @inside j before after c d hcd ih =>
      rw [survey_group, survey_group, surveyFrom_append, surveyFrom_append]
      congr 1
      funext running
      rw [surveyFrom_cons, surveyFrom_cons, ih, hcd.joiner_eq]

end Walk

/-! ## The three uses of a tree -/

theorem truth_eq_of_unwraps {c d : Condition} (h : Unwraps c d) (value : Comparison → Bool) :
    c.truth value = d.truth value := by
  have htruth : (Except.ok (c.truth value) : Except Empty Bool) = .ok (d.truth value) := by
    rw [truth_eq_survey, truth_eq_survey, survey_eq_of_unwraps h]
  exact Except.ok.inj htruth

theorem answers_eq_of_unwraps {c d : Condition} (h : Unwraps c d) (l : Comparison) :
    answers l c = answers l d := by
  have hanswers : (Except.ok (answers l c) : Except Empty (Option Bool)) = .ok (answers l d) := by
    rw [answers_eq_survey, answers_eq_survey, survey_eq_of_unwraps h]
  exact Except.ok.inj hanswers

/-- **Parentheses that do not matter**: trees of which one unwraps the other are the same
against every record, errors included, as a reference for every candidate, and as a
candidate for every reference. -/
theorem interchangeable_of_unwraps {c d : Condition} (h : Unwraps c d) :
    (∀ r : Record, c.evaluate r = d.evaluate r) ∧
      (∀ candidate : Condition, c.accepts candidate = d.accepts candidate) ∧
      (∀ reference : Condition, reference.accepts c = reference.accepts d) := by
  refine ⟨?_, ?_, ?_⟩
  · intro r
    rw [evaluate_eq_survey, evaluate_eq_survey, survey_eq_of_unwraps h]
  · intro candidate
    rw [accepts_eq_truth, accepts_eq_truth]
    exact truth_eq_of_unwraps h _
  · intro reference
    rw [accepts_eq_truth, accepts_eq_truth]
    -- the candidate is only looked at through its answers
    simp only [answers_eq_of_unwraps h]

/-- A chain of `||` inside another one, below an `&&`. -/
def wrappedChain : Condition := parse "x=1 && (a=1 || (b=2 || c>3) || d=4)"

/-- The same without the inner parentheses. -/
def openChain : Condition := parse "x=1 && (a=1 || b=2 || c>3 || d=4)"

theorem unwraps_wrappedChain : Unwraps wrappedChain openChain := by
  let x : Condition := .leaf none ⟨"x", some .eq, "1"⟩
  let a : Condition := .leaf none ⟨"a", some .eq, "1"⟩
  let b : Condition := .leaf none ⟨"b", some .eq, "2"⟩
  let c : Condition := .leaf (some .or) ⟨"c", some .gt, "3"⟩
  let d : Condition := .leaf (some .or) ⟨"d", some .eq, "4"⟩
  have hwrapped : wrappedChain =
      .group none ([x] ++ .group (some .and) ([a] ++ .group (some .or) [b, c] :: [d]) :: []) := rfl
  have hopen : openChain =
      .group none ([x] ++ .group (some .and) ([a] ++ [b.withJoiner (some .or), c] ++ [d]) :: []) :=
    rfl
  have hchain : MayOpen [a] (some .or) [c] := Or.inr (by simp [c, joiner])
  rw [hwrapped, hopen]
  exact .inside (.here hchain)

theorem interchangeable_of_unwraps_chain :
    Unwraps wrappedChain openChain ∧
      (∀ r : Record, wrappedChain.evaluate r = openChain.evaluate r) ∧
      (∀ candidate : Condition, wrappedChain.accepts candidate = openChain.accepts candidate) ∧
      (∀ reference : Condition, reference.accepts wrappedChain = reference.accepts openChain) :=
  ⟨unwraps_wrappedChain, interchangeable_of_unwraps unwraps_wrappedChain⟩

end Condition

end FilterQuery
