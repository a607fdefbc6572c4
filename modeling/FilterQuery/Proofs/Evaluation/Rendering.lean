/-
# FilterQuery.Proofs.Evaluation.Rendering -- what a rendered query selects

A query can end a term with an empty literal and no operator, as in `a ""`. The leaf
this makes is unfinished: it never holds, and it is written as its name alone, which
is no term when it is read again. Rendering a query and parsing the text takes its
unfinished leaves out and changes nothing else that evaluation looks at
(`evaluate_reread`).

Taking out a leaf that never holds can matter. Behind an `&&` the leaf made its group
false, and in front of its siblings it kept the connective of the next one. So the
rendered query may select more records than the query itself, but it never loses one and
never changes an error (`entails_prune`); and where every unfinished leaf is idle, joined
by `||` or alone, it selects the same (`evaluate_prune`).
-/
import FilterQuery.Proofs.Evaluation.Running
import FilterQuery.Proofs.Query.Parsed

namespace FilterQuery

namespace Condition

/-! ## Taking out unfinished leaves -/

/-- Whether a node is an unfinished leaf. -/
def isUnfinished : Condition → Bool
  | .leaf _ l => l.isUnfinished
  | .group _ _ => false

mutual

/-- **The condition without its unfinished leaves**; a condition that is one itself
stays. -/
def prune : Condition → Condition
  | .leaf j l => .leaf j l
  | .group j cs => .group j (pruneAll cs)

/-- The siblings that are not unfinished leaves, without those inside them. -/
def pruneAll : List Condition → List Condition
  | [] => []
  | c :: cs => if c.isUnfinished then pruneAll cs else c.prune :: pruneAll cs

end

@[simp] theorem joiner_prune (c : Condition) : c.prune.joiner = c.joiner := by
  cases c <;> simp [prune, joiner]

/-- An unfinished leaf holds of no record, and looks nothing up. -/
theorem evaluate_of_isUnfinished {c : Condition} (h : c.isUnfinished = true) (r : Record) :
    c.evaluate r = .ok false := by
  cases c with
  | leaf j l =>
      simp only [isUnfinished, Comparison.isUnfinished, Bool.and_eq_true, beq_iff_eq] at h
      exact (evaluate_leaf r j l).trans (Comparison.evaluate_of_operator_eq_none h.1.2 r)
  | group j cs => cases h

theorem evaluateFrom_of_isUnfinished {c : Condition} (h : c.isUnfinished = true) (r : Record)
    (running : Option Bool) (cs : List Condition) :
    evaluateFrom r running (c :: cs) =
      evaluateFrom r (Verdict.join running ⟨c.joiner, false⟩) cs := by
  rw [evaluateFrom_cons, evaluate_of_isUnfinished h]
  rfl

/-! ## Reading back takes out unfinished leaves -/

theorem rereadSibling_of_isUnfinished {c : Condition} (h : c.isUnfinished = true)
    (j : Option Connective) : c.rereadSibling j = [] := by
  cases c with
  | leaf k l =>
      have hvoid : l.isVoid = false := by
        simp only [isUnfinished, Comparison.isUnfinished, Bool.and_eq_true] at h
        simpa using h.1.1
      have hunfinished : l.isUnfinished = true := h
      rw [rereadSibling, hvoid, hunfinished]
      rfl
  | group k cs => cases h

/-- **A sibling that comes back**: it is read back as one sibling, behind the connective
it was written with, that has the truth the sibling has without its unfinished leaves. -/
def ComesBack (r : Record) (c : Condition) : Prop :=
  ∀ j, ∃ d : Condition,
    c.rereadSibling j = [d] ∧ d.joiner = j ∧ d.evaluate r = c.prune.evaluate r

theorem evaluateFrom_rereadOthers {r : Record} {cs : List Condition}
    (hcs : ∀ c ∈ cs, c.isUnfinished = false → c.ComesBack r)
    (running : Option Bool) :
    evaluateFrom r running (rereadOthers cs) = evaluateFrom r running (pruneAll cs) := by
  induction cs generalizing running with
  | nil => rfl
  | cons c cs ih =>
      obtain ⟨hc, hcs⟩ := List.forall_mem_cons.mp hcs
      rw [rereadOthers, pruneAll]
      by_cases hunfinished : c.isUnfinished
      · rw [if_pos hunfinished, rereadSibling_of_isUnfinished hunfinished, List.nil_append]
        exact ih hcs running
      · rw [if_neg hunfinished]
        obtain ⟨d, hd, hjoiner, heval⟩ := hc (by simpa using hunfinished) (some (c.joiner.getD .and))
        rw [hd, List.singleton_append, evaluateFrom_cons, evaluateFrom_cons, heval, hjoiner,
          joiner_prune]
        congr 1
        funext holds
        rw [Verdict.join_getD]
        exact ih hcs _

theorem evaluateFrom_rereadAll {r : Record} {cs : List Condition}
    (hcs : ∀ c ∈ cs, c.isUnfinished = false → c.ComesBack r) :
    evaluateFrom r none (rereadAll cs) = evaluateFrom r none (pruneAll cs) := by
  cases cs with
  | nil => rfl
  | cons first others =>
      obtain ⟨hfirst, hothers⟩ := List.forall_mem_cons.mp hcs
      rw [rereadAll, pruneAll]
      by_cases hunfinished : first.isUnfinished
      · rw [if_pos hunfinished, rereadSibling_of_isUnfinished hunfinished, List.nil_append]
        exact evaluateFrom_rereadOthers hothers none
      · rw [if_neg hunfinished]
        obtain ⟨d, hd, hjoiner, heval⟩ := hfirst (by simpa using hunfinished) none
        rw [hd, List.singleton_append, evaluateFrom_cons, evaluateFrom_cons, heval]
        congr 1
        funext holds
        -- nothing precedes the first sibling, so its connective does not count
        rw [Verdict.join_none, Verdict.join_none]
        exact evaluateFrom_rereadOthers hothers (some holds)

/-- Every sibling but an unfinished leaf comes back. -/
theorem comesBack (r : Record) (c : Condition) (h : c.isUnfinished = false) : c.ComesBack r := by
  induction c using Condition.induction with
  | leaf k l =>
      intro j
      by_cases hvoid : l.isVoid
      · refine ⟨.leaf j .empty, by rw [rereadSibling, if_pos hvoid], rfl, ?_⟩
        rw [prune, evaluate_leaf, evaluate_leaf, Comparison.evaluate_of_isVoid hvoid]
        exact Comparison.evaluate_of_isVoid rfl r
      · refine ⟨.leaf j l, ?_, rfl, by simp [prune]⟩
        have hfinished : l.isUnfinished = false := h
        rw [rereadSibling, if_neg hvoid, hfinished]
        rfl
  | group k cs ih =>
      intro j
      have hall := evaluateFrom_rereadAll ih
      cases cs with
      | nil => exact ⟨.leaf j .empty, by rw [rereadSibling], rfl, by rw [prune, evaluate_group]; rfl⟩
      | cons first others =>
          refine ⟨(ofTerms (rereadAll (first :: others))).withJoiner j, ?_, ?_, ?_⟩
          · rw [rereadSibling_group]
          · rw [joiner_withJoiner]
          · rw [evaluate_withJoiner, evaluate_ofTerms, hall, prune, evaluate_group]

/-- **What is read back selects what is left without the unfinished leaves.** -/
theorem evaluate_reread (c : Condition) (r : Record) :
    c.reread.evaluate r = c.prune.evaluate r := by
  cases c with
  | leaf j l =>
      rw [prune, reread]
      by_cases hvoid : l.isVoid
      · rw [if_pos hvoid, evaluate_empty, evaluate_leaf, Comparison.evaluate_of_isVoid hvoid]
      · rw [if_neg hvoid, evaluate_ofTerms]
        by_cases hunfinished : (leaf none l).isUnfinished
        · rw [rereadSibling_of_isUnfinished hunfinished, evaluateFrom_nil]
          exact (evaluate_of_isUnfinished (c := leaf j l) hunfinished r).symm
        · -- the leaf comes back as the only child of a group
          obtain ⟨d, hd, -, heval⟩ := comesBack r (leaf none l) (by simpa using hunfinished) none
          rw [hd, evaluateFrom_cons, heval, prune, evaluate_leaf, evaluate_leaf]
          cases l.evaluate r <;> simp [Except.bind]
  | group j cs =>
      rw [reread, evaluate_ofTerms, prune, evaluate_group]
      exact evaluateFrom_rereadAll fun c _ => comesBack r c

/-! ## What taking them out can change -/

/-- **Two results of which the second is at least as true**: the same error, or a truth
value that the first one implies. -/
def Entails : Except DataError Bool → Except DataError Bool → Prop
  | .error e, .error f => e = f
  | .ok a, .ok b => a = true → b = true
  | _, _ => False

theorem entails_of_runsBelow {running running' : Option Bool}
    (h : Verdict.RunsBelow running running') :
    Entails (.ok (running.getD false)) (.ok (running'.getD false)) :=
  h.getD

theorem entails_evaluateFrom_pruneAll {r : Record} {cs : List Condition}
    (hcs : ∀ c ∈ cs, Entails (c.evaluate r) (c.prune.evaluate r))
    {running running' : Option Bool} (h : Verdict.RunsBelow running running') :
    Entails (evaluateFrom r running cs) (evaluateFrom r running' (pruneAll cs)) := by
  induction cs generalizing running running' with
  | nil =>
      rw [pruneAll, evaluateFrom_nil, evaluateFrom_nil]
      exact entails_of_runsBelow h
  | cons c cs ih =>
      obtain ⟨hc, hcs⟩ := List.forall_mem_cons.mp hcs
      rw [pruneAll]
      by_cases hunfinished : c.isUnfinished
      · rw [if_pos hunfinished, evaluateFrom_of_isUnfinished hunfinished]
        exact ih hcs (h.skip c.joiner)
      · rw [if_neg hunfinished, evaluateFrom_cons, evaluateFrom_cons, joiner_prune]
        cases hbefore : c.evaluate r with
        | error e =>
            cases hafter : c.prune.evaluate r with
            | error f =>
                rw [hbefore, hafter] at hc
                exact hc
            | ok b =>
                rw [hbefore, hafter] at hc
                cases hc
        | ok a =>
            cases hafter : c.prune.evaluate r with
            | error f =>
                rw [hbefore, hafter] at hc
                cases hc
            | ok b =>
                rw [hbefore, hafter] at hc
                exact ih hcs (h.join c.joiner hc)

/-- **Taking out unfinished leaves loses no record and changes no error.** -/
theorem entails_prune (c : Condition) (r : Record) :
    Entails (c.evaluate r) (c.prune.evaluate r) := by
  induction c using Condition.induction with
  | leaf j l =>
      rw [prune]
      cases (leaf j l).evaluate r with
      | error e => exact rfl
      | ok b => exact fun h => h
  | group j cs ih =>
      rw [prune, evaluate_group, evaluate_group]
      exact entails_evaluateFrom_pruneAll ih trivial

/-! ## Unfinished leaves that are idle -/

/-- **Unfinished leaves that decide nothing** among their siblings. Behind the first
sibling that is no unfinished leaf, they are joined by `||`; and if some stand in front
of it, it is joined by `||` itself. -/
def UnfinishedIdle (cs : List Condition) : Prop :=
  ∀ before first after, cs = before ++ first :: after →
    (∀ c ∈ before, c.isUnfinished = true) → first.isUnfinished = false →
    (before = [] ∨ first.joiner = some .or) ∧
      ∀ c ∈ after, c.isUnfinished = true → c.joiner = some .or

/-- Behind a first sibling that is no unfinished leaf, `||` is all that idle leaves need. -/
theorem unfinishedIdle_of_or {first : Condition} {after : List Condition}
    (hfirst : first.isUnfinished = false)
    (hor : ∀ c ∈ after, c.isUnfinished = true → c.joiner = some .or) :
    UnfinishedIdle (first :: after) := by
  intro before first' after' heq hbefore _
  cases before with
  | nil =>
      obtain ⟨-, rfl⟩ := List.cons.inj heq
      exact ⟨Or.inl rfl, hor⟩
  | cons c before =>
      obtain ⟨rfl, -⟩ := List.cons.inj heq
      rw [hbefore first (by simp)] at hfirst
      cases hfirst

theorem evaluateFrom_pruneAll_of_or {r : Record} {cs : List Condition}
    (hcs : ∀ c ∈ cs, c.prune.evaluate r = c.evaluate r)
    (hor : ∀ c ∈ cs, c.isUnfinished = true → c.joiner = some .or) (result : Bool) :
    evaluateFrom r (some result) (pruneAll cs) = evaluateFrom r (some result) cs := by
  induction cs generalizing result with
  | nil => rfl
  | cons c cs ih =>
      obtain ⟨hc, hcs⟩ := List.forall_mem_cons.mp hcs
      obtain ⟨horc, hor⟩ := List.forall_mem_cons.mp hor
      rw [pruneAll]
      by_cases hunfinished : c.isUnfinished
      · -- a false sibling behind `||` leaves the result as it is
        have hskip : Verdict.join (some result) ⟨c.joiner, false⟩ = some result := by
          rw [horc hunfinished]
          exact congrArg some (Bool.or_false result)
        rw [if_pos hunfinished, evaluateFrom_of_isUnfinished hunfinished, hskip]
        exact ih hcs hor result
      · rw [if_neg hunfinished, evaluateFrom_cons, evaluateFrom_cons, hc, joiner_prune]
        congr 1
        funext holds
        exact ih hcs hor _

/-- Unfinished leaves leave a false result false. -/
theorem evaluateFrom_false_append {r : Record} {before : List Condition}
    (h : ∀ c ∈ before, c.isUnfinished = true) (cs : List Condition) :
    evaluateFrom r (some false) (before ++ cs) = evaluateFrom r (some false) cs := by
  induction before with
  | nil => rfl
  | cons c before ih =>
      obtain ⟨hc, hbefore⟩ := List.forall_mem_cons.mp h
      have hskip : Verdict.join (some false) ⟨c.joiner, false⟩ = some false := by
        show some ((c.joiner.getD .and).apply false false) = some false
        cases c.joiner.getD .and <;> rfl
      rw [List.cons_append, evaluateFrom_of_isUnfinished hc, hskip]
      exact ih hbefore

/-- Unfinished leaves in front of all other siblings make the running result false. -/
theorem evaluateFrom_none_append {r : Record} {before : List Condition}
    (h : ∀ c ∈ before, c.isUnfinished = true) (hne : before ≠ []) (cs : List Condition) :
    evaluateFrom r none (before ++ cs) = evaluateFrom r (some false) cs := by
  cases before with
  | nil => exact absurd rfl hne
  | cons c before =>
      obtain ⟨hc, hbefore⟩ := List.forall_mem_cons.mp h
      rw [List.cons_append, evaluateFrom_of_isUnfinished hc, Verdict.join_none]
      exact evaluateFrom_false_append hbefore cs

theorem pruneAll_append {before : List Condition} (h : ∀ c ∈ before, c.isUnfinished = true)
    (cs : List Condition) : pruneAll (before ++ cs) = pruneAll cs := by
  induction before with
  | nil => rfl
  | cons c before ih =>
      obtain ⟨hc, hbefore⟩ := List.forall_mem_cons.mp h
      rw [List.cons_append, pruneAll, if_pos hc]
      exact ih hbefore

theorem evaluateFrom_pruneAll_of_idle {r : Record} {cs : List Condition}
    (hcs : ∀ c ∈ cs, c.prune.evaluate r = c.evaluate r) (hidle : UnfinishedIdle cs) :
    evaluateFrom r none (pruneAll cs) = evaluateFrom r none cs := by
  cases hfind : cs.find? fun c => !c.isUnfinished with
  | none =>
      -- nothing is left of the siblings, and none of them held
      have hall : ∀ c ∈ cs, c.isUnfinished = true := by
        simpa using hfind
      have hnone : pruneAll cs = [] := by
        simpa [pruneAll] using pruneAll_append hall []
      rw [hnone]
      by_cases hnil : cs = []
      · rw [hnil]
      · have hfalse := evaluateFrom_none_append (r := r) hall hnil []
        rw [List.append_nil] at hfalse
        rw [hfalse, evaluateFrom_nil, evaluateFrom_nil]
        rfl
  | some first =>
      obtain ⟨hfirst, before, after, rfl, hbefore⟩ := List.find?_eq_some_iff_append.mp hfind
      have hfinished : first.isUnfinished = false := by simpa using hfirst
      have hleading : ∀ c ∈ before, c.isUnfinished = true := by simpa using hbefore
      obtain ⟨hjoiner, hor⟩ := hidle before first after rfl hleading hfinished
      have hafter : ∀ c ∈ after, c.prune.evaluate r = c.evaluate r := fun c hc =>
        hcs c (List.mem_append_right before (List.mem_cons_of_mem first hc))
      have hpruned : pruneAll (before ++ first :: after) = first.prune :: pruneAll after := by
        rw [pruneAll_append hleading, pruneAll, hfinished]
        rfl
      have hskip : evaluateFrom r none (before ++ first :: after) =
          evaluateFrom r none (first :: after) := by
        by_cases hnil : before = []
        · rw [hnil, List.nil_append]
        · -- those in front made the result false, and the first one left is joined by `||`
          have hfirstOr : first.joiner = some .or := hjoiner.resolve_left hnil
          rw [evaluateFrom_none_append hleading hnil, evaluateFrom_cons, evaluateFrom_cons, hfirstOr]
          rfl
      rw [hpruned, hskip, evaluateFrom_cons, evaluateFrom_cons, hcs first (by simp)]
      congr 1
      funext holds
      exact evaluateFrom_pruneAll_of_or hafter hor holds

/-- **Idle unfinished leaves may be taken out.** -/
theorem evaluate_prune {c : Condition} (h : ∀ cs ∈ c.siblingLists, UnfinishedIdle cs)
    (r : Record) : c.prune.evaluate r = c.evaluate r := by
  induction c using Condition.induction with
  | leaf j l => rw [prune]
  | group j cs ih =>
      obtain ⟨hidle, hinner⟩ := forall_mem_siblingLists_group.mp h
      have hcs : ∀ c ∈ cs, c.prune.evaluate r = c.evaluate r := fun c hc => ih c hc (hinner c hc)
      rw [prune, evaluate_group, evaluate_group]
      exact evaluateFrom_pruneAll_of_idle hcs hidle

/-! ## Rendered queries -/

theorem evaluate_parse_render (query : String) (r : Record) :
    (parse (parse query).render).evaluate r = (parse query).prune.evaluate r := by
  rw [parse_render (isQuoteFree_parse query), evaluate_reread]

theorem Entails.eq_iff {a b : Except DataError Bool} (h : Entails a b) :
    b = a ↔ ¬(a = .ok false ∧ b = .ok true) := by
  cases a with
  | error e =>
      cases b with
      | error f =>
          have herror : e = f := h
          simp [herror]
      | ok b => cases h
  | ok a =>
      cases b with
      | error f => cases h
      | ok b =>
          have htrue : a = true → b = true := h
          cases a <;> cases b <;> simp_all

/-- **What a rendered query selects.** It is evaluated as the query without its unfinished
leaves; it differs from the query only by holding of a record that the query does not
hold of, and not at all if the unfinished leaves are idle. -/
theorem evaluate_rendered_query (query : String) (r : Record) :
    (parse (parse query).render).evaluate r = (parse query).prune.evaluate r ∧
      ((parse (parse query).render).evaluate r = (parse query).evaluate r ↔
        ¬((parse query).evaluate r = .ok false ∧ (parse query).prune.evaluate r = .ok true)) ∧
      ((∀ cs ∈ (parse query).siblingLists, UnfinishedIdle cs) →
        (parse (parse query).render).evaluate r = (parse query).evaluate r) := by
  have hrendered := evaluate_parse_render query r
  refine ⟨hrendered, ?_, ?_⟩
  · rw [hrendered]
    exact (entails_prune (parse query) r).eq_iff
  · intro hidle
    rw [hrendered]
    exact evaluate_prune hidle r

/-- The record whose attribute `x` is the text `1`. -/
def sampleRecord : Record := .ofFields "record" [("x", some (.text "1"))]

/-- An unfinished leaf behind an `||` is idle. -/
theorem evaluate_rendered_query_idle :
    (∀ cs ∈ (parse "x=1 || a \"\"").siblingLists, UnfinishedIdle cs) ∧
      (parse (parse "x=1 || a \"\"").render).evaluate sampleRecord =
        (parse "x=1 || a \"\"").evaluate sampleRecord := by
  have hparse : parse "x=1 || a \"\"" =
      .group none [.leaf none ⟨"x", some .eq, "1"⟩, .leaf (some .or) ⟨"a", none, ""⟩] := rfl
  have hidle : ∀ cs ∈ (parse "x=1 || a \"\"").siblingLists, UnfinishedIdle cs := by
    rw [hparse]
    intro cs hcs
    have hsiblings : cs = [.leaf none ⟨"x", some .eq, "1"⟩, .leaf (some .or) ⟨"a", none, ""⟩] := by
      simpa using hcs
    rw [hsiblings]
    exact unfinishedIdle_of_or rfl (by simp [joiner])
  exact ⟨hidle, (evaluate_rendered_query _ sampleRecord).2.2 hidle⟩

/-- Behind an `&&` it is not: the rendered query holds of a record that the query does
not hold of. -/
theorem evaluate_rendered_query_ne :
    ¬∀ (query : String) (r : Record),
      (parse (parse query).render).evaluate r = (parse query).evaluate r := by
  intro h
  have hparse : parse "x=1 && a \"\"" =
      .group none [.leaf none ⟨"x", some .eq, "1"⟩, .leaf (some .and) ⟨"a", none, ""⟩] := rfl
  have hrender : (parse "x=1 && a \"\"").render = "x=1 && a" := by
    rw [hparse]
    rfl
  have hreparse : parse "x=1 && a" = .group none [.leaf none ⟨"x", some .eq, "1"⟩] := rfl
  have hquery : (parse "x=1 && a \"\"").evaluate sampleRecord = .ok false := by
    rw [hparse]
    rfl
  have hrendered : (parse "x=1 && a").evaluate sampleRecord = .ok true := by
    rw [hreparse]
    rfl
  have heq := h "x=1 && a \"\"" sampleRecord
  rw [hrender, hrendered, hquery] at heq
  cases heq

end Condition

end FilterQuery
