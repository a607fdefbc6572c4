/-
# FilterQuery.Proofs.Evaluation.Inquiry -- what a condition asks for

Evaluation has two parts: it asks for the values of names, and it judges what it gets. The names
are asked of a record, which is a pure function and does not tell whether it was asked at all.
`Condition.inquire` is evaluation with the asking left open, in any monad: a log of the names, a
store that changes, or the record itself, for which it is evaluation (`inquire_lookup`).

A leaf without a name or without an operator asks for nothing, and a group asks for what its
children ask for. So a condition whose leaves are all of this kind asks for nothing, and it is
false (`inquire_eq_pure_truth`). As a reference such a condition is false as well: a leaf without
a name is not held against the candidate, and one without an operator accepts no leaf of it
(`never_holds_of_unusable`).
-/
import FilterQuery.Proofs.Evaluation.Running
import FilterQuery.Proofs.Matching.Direct
import Mathlib.Control.Monad.Basic

namespace FilterQuery

section Inquiry

variable {m : Type → Type} [Monad m] (ask : String → m (Option Value))

/-! ## Leaves with the asking left open -/

namespace Comparison

/-- **A comparison against whatever is asked for its name.** -/
def inquire (l : Comparison) : m Bool :=
  match l.operator with
  | none => pure false
  | some op =>
    if l.isVoid then pure false
    else do
      match ← ask l.name with
      | none => return false
      | some v => return v.satisfies op l.value

/-- **A leaf without a name or without an operator** is false and asks for nothing. -/
theorem inquire_of_unusable {l : Comparison} (h : l.name = "" ∨ l.operator = none) :
    l.inquire ask = pure false := by
  unfold inquire
  rcases h with hname | hoperator
  · -- the operator is looked at first, but either way nothing is asked
    cases l.operator with
    | none => rfl
    | some op => exact if_pos (isVoid_iff.mpr hname)
  · rw [hoperator]

end Comparison

/-! ## Trees with the asking left open -/

namespace Condition

mutual

/-- **A condition against whatever is asked for its names**, from left to right. -/
def inquire : Condition → m Bool
  | .leaf _ l => l.inquire ask
  | .group _ cs => do
    let verdicts ← inquireAll cs
    return (Verdict.joinAll verdicts).getD false

/-- The verdicts of siblings. -/
def inquireAll : List Condition → m (List Verdict)
  | [] => pure []
  | c :: cs => do
    let holds ← inquire c
    let others ← inquireAll cs
    return ⟨c.joiner, holds⟩ :: others

end

theorem inquire_leaf (j : Option Connective) (l : Comparison) :
    (leaf j l).inquire ask = l.inquire ask := by
  rw [inquire]

/-- **A condition whose leaves ask for nothing** asks for nothing itself, and it is as true as its
leaves make it. -/
theorem inquire_eq_pure_truth [LawfulMonad m] {value : Comparison → Bool} {c : Condition}
    (h : ∀ l ∈ c.leaves, l.inquire ask = pure (value l)) :
    c.inquire ask = pure (c.truth value) := by
  induction c using Condition.induction with
  | leaf j l =>
      rw [inquire_leaf, truth_leaf]
      exact h l (by simp)
  | group j cs ih =>
      have hchildren := forall_mem_leaves_group.mp h
      -- the verdicts of the siblings are there without asking, one after the other
      have hverdicts : inquireAll ask cs = pure (truths value cs) := by
        clear h
        induction cs with
        | nil => rw [inquireAll, truths]
        | cons c cs ihcs =>
            obtain ⟨hc, hcs⟩ := List.forall_mem_cons.mp ih
            obtain ⟨hleaves, hothers⟩ := List.forall_mem_cons.mp hchildren
            rw [inquireAll, hc hleaves, pure_bind, ihcs hcs hothers, pure_bind, truths]
      rw [inquire, hverdicts, pure_bind, truth]

end Condition

end Inquiry

/-! ## A record is one who may be asked -/

theorem Comparison.inquire_lookup (r : Record) (l : Comparison) :
    l.inquire r.lookup = l.evaluate r := rfl

namespace Condition

/-- **Evaluation is inquiry of the record.** -/
theorem inquire_lookup (r : Record) (c : Condition) : c.inquire r.lookup = c.evaluate r := by
  induction c using Condition.induction with
  | leaf j l => rw [inquire_leaf, evaluate_leaf, l.inquire_lookup]
  | group j cs ih =>
      have hverdicts : inquireAll r.lookup cs = verdicts r cs := by
        induction cs with
        | nil => rw [inquireAll, verdicts]; rfl
        | cons c cs ihcs =>
            obtain ⟨hc, hcs⟩ := List.forall_mem_cons.mp ih
            rw [inquireAll, verdicts, hc, ihcs hcs]
      rw [inquire, evaluate, hverdicts]

/-! ## Leaves that accept nothing -/

/-- A leaf without a name or without an operator is worth nothing on any candidate. -/
theorem directValue_of_unusable {l : Comparison} (h : l.name = "" ∨ l.operator = none)
    (candidate : Condition) : directValue candidate l = false := by
  unfold directValue
  rcases h with hname | hoperator
  · rw [if_pos (Comparison.isVoid_iff.mpr hname)]
  · have haccepts : ∀ own, l.accepts own = false := by
      intro own
      unfold Comparison.accepts
      rw [hoperator]
    split
    · rfl
    · -- leaves of the name are held against the reference in vain, and so is the empty text
      split
      · exact truth_of_forall_false fun own _ => haccepts own
      · exact haccepts _

/-! ## Conditions that never hold -/

/-- **A condition without a usable leaf never holds.** If each of its leaves lacks a name or an
operator, then whatever it is asked about it is false: evaluated against any record it is false
and not an error, as a reference it accepts no candidate, and it asks for no name at all. -/
theorem never_holds_of_unusable {c : Condition}
    (h : ∀ l ∈ c.leaves, l.name = "" ∨ l.operator = none) :
    (∀ r : Record, c.evaluate r = .ok false) ∧
      (∀ candidate : Condition, c.accepts candidate = false) ∧
      ∀ (m : Type → Type) [Monad m] [LawfulMonad m] (ask : String → m (Option Value)),
        c.inquire ask = pure false := by
  have hasks : ∀ (m : Type → Type) [Monad m] [LawfulMonad m] (ask : String → m (Option Value)),
      c.inquire ask = pure false := by
    intro m _ _ ask
    rw [inquire_eq_pure_truth ask fun l hl => l.inquire_of_unusable ask (h l hl),
      truth_of_forall_false fun _ _ => rfl]
  refine ⟨?_, ?_, hasks⟩
  · intro r
    rw [← inquire_lookup]
    exact hasks (Except DataError) r.lookup
  · intro candidate
    rw [accepts_eq_truth]
    apply truth_of_forall_false
    intro l hl
    rw [← directValue_eq_answers]
    exact directValue_of_unusable (h l hl) candidate

/-- Leaves without a name or an operator, next to an empty group and in a group of their own. -/
def uselessTree : Condition :=
  .group none [.leaf none ⟨"a", none, "1"⟩, .group (some .or) [],
    .group (some .or) [.leaf (some .and) ⟨"", some .eq, ""⟩, .leaf (some .or) ⟨"b.c", none, "5"⟩]]

/-- A record that has no value under any name, and an error under every key. -/
def brokenRecord : Record := ⟨"broken", fun _ => none, fun key => .error (.notARecord key)⟩

/-- Finds nothing under any name, and notes the names. -/
def noteName (name : String) : StateM (List String) (Option Value) := do
  modify (name :: ·)
  return none

/-- No name is noted, and the record does not get to its error. -/
theorem never_holds_of_unusable_uselessTree :
    (∀ l ∈ uselessTree.leaves, l.name = "" ∨ l.operator = none) ∧
      uselessTree.evaluate brokenRecord = .ok false ∧
      uselessTree.accepts (parse "a=1 && b.c=5") = false ∧
      (uselessTree.inquire noteName).run [] = (false, []) := by
  have hunusable : ∀ l ∈ uselessTree.leaves, l.name = "" ∨ l.operator = none := by decide
  obtain ⟨hevaluate, haccepts, hasks⟩ := never_holds_of_unusable hunusable
  refine ⟨hunusable, hevaluate brokenRecord, haccepts _, ?_⟩
  rw [hasks (StateM (List String)) noteName]
  rfl

/-- A usable leaf is asked for its name, and its record gets to its error. -/
example : ((parse "b.c=5").inquire noteName).run [] = (false, ["b.c"]) ∧
    (parse "b.c=5").evaluate brokenRecord = .error (.notARecord "b") :=
  ⟨rfl, by decide +kernel⟩

end Condition

end FilterQuery
