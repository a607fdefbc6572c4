/-
# FilterQuery.Proofs.Condition.Survey -- the one walk behind every reading of a tree

A tree is walked in three ways: it is evaluated against a record, walked as a reference,
and searched as a candidate for the leaves of a name. The walks differ in what a leaf has
to say, which may be an error or nothing at all, and in what a node counts as that has
nothing to say: a candidate passes it over, the others take it as false.

`Condition.survey` has these two points as parameters and is otherwise the common walk, so
a law that is proved of it holds of all three (`evaluate_eq_survey`, `truth_eq_survey`,
`answers_eq_survey`).
-/
import FilterQuery.Proofs.Evaluation.Running
import FilterQuery.Proofs.Matching.Completion

namespace FilterQuery

namespace Verdict

/-- Adds what one sibling has to say, if anything, behind the connective `j`. -/
def joinAnswer (running : Option Bool) (j : Option Connective) : Option Bool → Option Bool
  | none => running
  | some holds => join running ⟨j, holds⟩

@[simp] theorem joinAnswer_none (running : Option Bool) (j : Option Connective) :
    joinAnswer running j none = running := rfl

@[simp] theorem joinAnswer_some (running : Option Bool) (j : Option Connective) (holds : Bool) :
    joinAnswer running j (some holds) = join running ⟨j, holds⟩ := rfl

/-- In front of all others a sibling's connective does not count. -/
@[simp] theorem none_joinAnswer (j : Option Connective) (answer : Option Bool) :
    joinAnswer none j answer = answer := by
  cases answer <;> rfl

end Verdict

namespace Condition

section Walk

variable {ε : Type} (value : Comparison → Except ε (Option Bool)) (blank : Option Bool)

mutual

/-- **A walk over a tree.** A leaf says what `value` gives, and a group what its children
say when they are joined; a child with nothing to say counts as `blank`. -/
def survey : Condition → Except ε (Option Bool)
  | .leaf _ l => value l
  | .group _ cs => surveyFrom none cs

/-- The walk over siblings behind a running result. -/
def surveyFrom : Option Bool → List Condition → Except ε (Option Bool)
  | running, [] => .ok running
  | running, c :: cs => do
    let answer ← survey c
    surveyFrom (Verdict.joinAnswer running c.joiner (answer.or blank)) cs

end

theorem survey_leaf (j : Option Connective) (l : Comparison) :
    survey value blank (leaf j l) = value l := by
  rw [survey]

theorem survey_group (j : Option Connective) (cs : List Condition) :
    survey value blank (group j cs) = surveyFrom value blank none cs := by
  rw [survey]

theorem surveyFrom_nil (running : Option Bool) :
    surveyFrom value blank running [] = .ok running := by
  rw [surveyFrom]

theorem surveyFrom_cons (running : Option Bool) (c : Condition) (cs : List Condition) :
    surveyFrom value blank running (c :: cs) =
      (survey value blank c).bind fun answer =>
        surveyFrom value blank (Verdict.joinAnswer running c.joiner (answer.or blank)) cs := by
  rw [surveyFrom]
  rfl

/-- Siblings are walked one part after the other. -/
theorem surveyFrom_append (running : Option Bool) (cs ds : List Condition) :
    surveyFrom value blank running (cs ++ ds) =
      (surveyFrom value blank running cs).bind fun result =>
        surveyFrom value blank result ds := by
  induction cs generalizing running with
  | nil => rw [surveyFrom_nil]; rfl
  | cons c cs ih =>
      rw [List.cons_append, surveyFrom_cons, surveyFrom_cons]
      cases survey value blank c with
      | error e => rfl
      | ok answer => exact ih _

@[simp] theorem survey_withJoiner (j : Option Connective) (c : Condition) :
    survey value blank (c.withJoiner j) = survey value blank c := by
  cases c <;> simp [withJoiner, survey]

end Walk

/-! ## The three walks -/

/-- What a leaf says about a record. -/
def recordValue (r : Record) (l : Comparison) : Except DataError (Option Bool) :=
  (l.evaluate r).map some

/-- **Evaluation is a survey** in which a group without a result is false. -/
theorem evaluate_eq_survey (r : Record) (c : Condition) :
    c.evaluate r = (survey (recordValue r) (some false) c).map (·.getD false) := by
  induction c using Condition.induction with
  | leaf j l =>
      rw [evaluate_leaf, survey_leaf, recordValue]
      cases l.evaluate r <;> rfl
  | group j cs ih =>
      have hfrom : ∀ running : Option Bool, evaluateFrom r running cs =
          (surveyFrom (recordValue r) (some false) running cs).map (·.getD false) := by
        induction cs with
        | nil => intro running; rw [evaluateFrom_nil, surveyFrom_nil]; rfl
        | cons c cs ihcs =>
            intro running
            obtain ⟨hc, hcs⟩ := List.forall_mem_cons.mp ih
            rw [evaluateFrom_cons, surveyFrom_cons, hc]
            cases survey (recordValue r) (some false) c with
            | error e => rfl
            | ok answer => cases answer <;> exact ihcs hcs _
      rw [evaluate_group, survey_group, hfrom none]

/-- What a leaf says when its truth is given. -/
def givenValue (value : Comparison → Bool) (l : Comparison) : Except Empty (Option Bool) :=
  .ok (some (value l))

/-- **The truth from given leaves is a survey.** -/
theorem truth_eq_survey (value : Comparison → Bool) (c : Condition) :
    .ok (c.truth value) = (survey (givenValue value) (some false) c).map (·.getD false) := by
  induction c using Condition.induction with
  | leaf j l => rw [truth_leaf, survey_leaf]; rfl
  | group j cs ih =>
      have hfrom : ∀ running : Option Bool,
          .ok (((cs.map fun c => (⟨c.joiner, c.truth value⟩ : Verdict)).foldl Verdict.join
            running).getD false) =
          (surveyFrom (givenValue value) (some false) running cs).map (·.getD false) := by
        induction cs with
        | nil => intro running; rw [surveyFrom_nil]; rfl
        | cons c cs ihcs =>
            intro running
            obtain ⟨hc, hcs⟩ := List.forall_mem_cons.mp ih
            rw [List.map_cons, List.foldl_cons, surveyFrom_cons]
            cases hsurvey : survey (givenValue value) (some false) c with
            | error e => exact e.elim
            | ok answer =>
                rw [hsurvey] at hc
                have htruth : c.truth value = answer.getD false := Except.ok.inj hc
                rw [htruth]
                cases answer <;> exact ihcs hcs _
      rw [truth_group, survey_group, ← hfrom none]
      rfl

/-- What a leaf of a candidate says to a leaf of the reference: nothing if it has another
name. -/
def replyTo (l : Comparison) (own : Comparison) : Except Empty (Option Bool) :=
  .ok (if own.name = l.name then some (l.accepts own) else none)

/-- **The answer of a candidate is a survey** in which nothing counts as nothing. -/
theorem answers_eq_survey (l : Comparison) (c : Condition) :
    .ok (answers l c) = survey (replyTo l) none c := by
  induction c using Condition.induction with
  | leaf j own => rw [answers, survey_leaf, replyTo]
  | group j cs ih =>
      have hfrom : ∀ running : Option Bool,
          .ok ((answersAll l cs).foldl Verdict.join running) =
            surveyFrom (replyTo l) none running cs := by
        induction cs with
        | nil => intro running; rw [surveyFrom_nil]; rfl
        | cons c cs ihcs =>
            intro running
            obtain ⟨hc, hcs⟩ := List.forall_mem_cons.mp ih
            rw [answersAll, surveyFrom_cons, ← hc]
            cases answers l c <;> exact ihcs hcs _
      rw [answers, survey_group, ← hfrom none]
      rfl

end Condition

end FilterQuery
