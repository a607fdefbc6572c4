/-
# FilterQuery.Proofs.Evaluation.Leaves -- evaluation from the leaves alone

A condition looks at a record in its leaves and nowhere else. What the groups add is decided
before any record is there: errors come from left to right, and truth values are joined as
the connectives say. So evaluation has a normal form (`evaluate_eq_okUnless`), the truth of
the condition under the truth of its leaves, unless one of the leaves has an error.

Whatever is known of two runs leaf by leaf then holds of the whole: leaves with the same
results make conditions with the same result, also when the tree is relabelled on the way
(`evaluate_mapLeaves`), and leaves that become false at most make a condition that becomes
false at most (`exists_evaluate_eq_ok`).

Of a leaf it is the looked-up value that counts. Two leaves with one operator and one literal
agree if their lookups do (`Comparison.evaluate_eq_of_lookup`).
-/
import FilterQuery.Proofs.Condition.Truth
import FilterQuery.Proofs.Evaluation.FirstError
import FilterQuery.Proofs.Evaluation.Running

namespace FilterQuery

/-! ## One leaf -/

namespace Comparison

/-- A leaf that names something and has an operator is decided by what its name finds. -/
theorem evaluate_of_operator {l : Comparison} {op : CompareOp} (hop : l.operator = some op)
    (hname : l.isVoid = false) (r : Record) :
    l.evaluate r = (r.lookup l.name).map fun found => found.any (·.satisfies op l.value) := by
  simp only [evaluate, hop, hname]
  cases r.lookup l.name with
  | error e => rfl
  | ok found => cases found <;> rfl

/-- **Leaves that ask the same of what they find** agree on records in which they find the
same, be it a value, nothing, or an error. -/
theorem evaluate_eq_of_lookup {l l' : Comparison} {r r' : Record}
    (hop : l'.operator = l.operator) (hvalue : l'.value = l.value) (hvoid : l'.isVoid = l.isVoid)
    (hlookup : l.isVoid = false → r'.lookup l'.name = r.lookup l.name) :
    l'.evaluate r' = l.evaluate r := by
  cases hoperator : l.operator with
  | none =>
      rw [evaluate_of_operator_eq_none hoperator,
        evaluate_of_operator_eq_none (hop.trans hoperator)]
  | some op =>
      by_cases hname : l.isVoid
      · rw [evaluate_of_isVoid hname, evaluate_of_isVoid (hvoid.trans hname)]
      · rw [Bool.not_eq_true] at hname
        rw [evaluate_of_operator hoperator hname,
          evaluate_of_operator (hop.trans hoperator) (hvoid.trans hname), hlookup hname, hvalue]

end Comparison

namespace Condition

/-- A single comparison whose name finds a value says what the value says of its literal. -/
theorem evaluate_leaf_of_lookup {r : Record} {name : String} {v : Value} (hname : name ≠ "")
    (hlookup : r.lookup name = .ok (some v)) (j : Option Connective) (op : CompareOp)
    (literal : String) :
    (leaf j ⟨name, some op, literal⟩).evaluate r = .ok (v.satisfies op literal) := by
  have hvoid : (⟨name, some op, literal⟩ : Comparison).isVoid = false :=
    Comparison.isVoid_eq_false_iff.mpr hname
  rw [evaluate_leaf, Comparison.evaluate_of_operator rfl hvoid, hlookup]
  rfl

/-! ## The normal form -/

/-- **Evaluation is the truth of the condition under the truth of its leaves**, unless one of
the leaves has an error, of which the first is the error of the whole. -/
theorem evaluate_eq_okUnless (c : Condition) (r : Record) :
    c.evaluate r =
      okUnless (c.truth fun l => isTrue (l.evaluate r)) (firstError (·.evaluate r) c.leaves) := by
  induction c using Condition.induction with
  | leaf j l =>
      rw [evaluate_leaf, truth_leaf, leaves, firstError_cons]
      cases l.evaluate r <;> rfl
  | group j cs ih =>
      -- the siblings behind any running result, by the step of the walk
      have hfrom : ∀ running : Option Bool, evaluateFrom r running cs =
          okUnless (((cs.map fun c => (⟨c.joiner, c.truth fun l => isTrue (l.evaluate r)⟩ :
            Verdict)).foldl Verdict.join running).getD false)
            (firstError (·.evaluate r) (leavesAll cs)) := by
        induction cs with
        | nil => intro running; rw [evaluateFrom_nil]; rfl
        | cons c cs ihcs =>
            intro running
            obtain ⟨hc, hcs⟩ := List.forall_mem_cons.mp ih
            rw [evaluateFrom_cons, hc, leavesAll, firstError_append]
            cases firstError (·.evaluate r) c.leaves with
            | some e => rfl
            | none => exact ihcs hcs _
      rw [evaluate_group, truth_group, leaves, hfrom none]
      rfl

/-- **A condition has a result** just if each of its leaves has one. -/
theorem evaluate_eq_ok_iff {c : Condition} {r : Record} {holds : Bool} :
    c.evaluate r = .ok holds ↔
      (∀ l ∈ c.leaves, ∃ b, l.evaluate r = .ok b) ∧
        (c.truth fun l => isTrue (l.evaluate r)) = holds := by
  rw [evaluate_eq_okUnless, okUnless_eq_ok_iff, firstError_eq_none_iff]

/-! ## Two runs, leaf by leaf -/

theorem evaluate_congr {c : Condition} {r s : Record}
    (h : ∀ l ∈ c.leaves, l.evaluate r = l.evaluate s) : c.evaluate r = c.evaluate s := by
  have htruth : (c.truth fun l => isTrue (l.evaluate r)) =
      c.truth fun l => isTrue (l.evaluate s) :=
    truth_congr fun l hl => by rw [h l hl]
  rw [evaluate_eq_okUnless, evaluate_eq_okUnless, htruth, firstError_congr h]

/-- **Leaves that become false at most**, and get no error, make a condition that becomes
false at most and gets no error. -/
theorem exists_evaluate_eq_ok {c : Condition} {r s : Record}
    (h : ∀ l ∈ c.leaves, ∀ before, l.evaluate r = .ok before →
      ∃ after, l.evaluate s = .ok after ∧ (after = true → before = true))
    {before : Bool} (hbefore : c.evaluate r = .ok before) :
    ∃ after, c.evaluate s = .ok after ∧ (after = true → before = true) := by
  obtain ⟨hleaves, rfl⟩ := evaluate_eq_ok_iff.mp hbefore
  refine ⟨_, evaluate_eq_ok_iff.mpr ⟨?_, rfl⟩, truth_mono ?_⟩
  · intro l hl
    obtain ⟨b, hb⟩ := hleaves l hl
    obtain ⟨b', hb', -⟩ := h l hl b hb
    exact ⟨b', hb'⟩
  · intro l hl htrue
    obtain ⟨b, hb⟩ := hleaves l hl
    obtain ⟨b', hb', himp⟩ := h l hl b hb
    rw [hb'] at htrue
    rw [hb]
    exact himp htrue

/-! ## Relabelled trees -/

mutual

/-- The same tree with other comparisons in its leaves. -/
def mapLeaves (f : Comparison → Comparison) : Condition → Condition
  | .leaf j l => .leaf j (f l)
  | .group j cs => .group j (mapLeavesAll f cs)

/-- The same siblings with other comparisons in their leaves. -/
def mapLeavesAll (f : Comparison → Comparison) : List Condition → List Condition
  | [] => []
  | c :: cs => mapLeaves f c :: mapLeavesAll f cs

end

variable {f : Comparison → Comparison}

theorem mapLeavesAll_eq_map (cs : List Condition) :
    mapLeavesAll f cs = cs.map (mapLeaves f) := by
  induction cs with
  | nil => rfl
  | cons c cs ih => rw [mapLeavesAll, ih, List.map_cons]

@[simp] theorem joiner_mapLeaves (c : Condition) : (c.mapLeaves f).joiner = c.joiner := by
  cases c <;> simp [mapLeaves, joiner]

theorem leaves_mapLeaves (c : Condition) : (c.mapLeaves f).leaves = c.leaves.map f := by
  induction c using Condition.induction with
  | leaf j l => rw [mapLeaves, leaves, leaves, List.map_singleton]
  | group j cs ih =>
      rw [mapLeaves, leaves, leaves]
      induction cs with
      | nil => rfl
      | cons c cs ihcs =>
          obtain ⟨hc, hcs⟩ := List.forall_mem_cons.mp ih
          rw [mapLeavesAll, leavesAll, leavesAll, List.map_append, hc, ihcs hcs]

theorem truth_mapLeaves (value : Comparison → Bool) (c : Condition) :
    (c.mapLeaves f).truth value = c.truth fun l => value (f l) := by
  induction c using Condition.induction with
  | leaf j l => rw [mapLeaves, truth_leaf, truth_leaf]
  | group j cs ih =>
      have hverdicts :
          (cs.map (mapLeaves f)).map (fun c => (⟨c.joiner, c.truth value⟩ : Verdict)) =
            cs.map fun c => ⟨c.joiner, c.truth fun l => value (f l)⟩ := by
        rw [List.map_map]
        refine List.map_congr_left fun c hc => ?_
        rw [Function.comp_apply, joiner_mapLeaves, ih c hc]
      rw [mapLeaves, mapLeavesAll_eq_map, truth_group, truth_group, hverdicts]

/-- **A relabelled tree** is evaluated as the tree was, if its leaves are. -/
theorem evaluate_mapLeaves {c : Condition} {r s : Record}
    (h : ∀ l ∈ c.leaves, (f l).evaluate s = l.evaluate r) :
    (c.mapLeaves f).evaluate s = c.evaluate r := by
  have htruth : (c.truth fun l => isTrue ((f l).evaluate s)) =
      c.truth fun l => isTrue (l.evaluate r) :=
    truth_congr fun l hl => by rw [h l hl]
  rw [evaluate_eq_okUnless, evaluate_eq_okUnless, truth_mapLeaves, leaves_mapLeaves,
    firstError_map, htruth, firstError_congr h]

end Condition

end FilterQuery
