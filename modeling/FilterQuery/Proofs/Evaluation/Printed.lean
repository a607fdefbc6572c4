/-
# FilterQuery.Proofs.Evaluation.Printed -- values against their own text

What a record shows of a value can be asked for: a value is equal to the literal that it is
written as. This ties each printer to the coercion that reads literals for values of its kind,
digits to integers and timestamps to themselves (`Value.satisfies_eq_render`).

Doubles are left out. The text of a NaN is read as a NaN, which is equal to nothing.
-/
import FilterQuery.Proofs.Evaluation.Leaves
import FilterQuery.Proofs.Record.Lookup
import FilterQuery.Proofs.Timestamp

namespace FilterQuery

/-- **A value that is no double is equal to its own text.** -/
theorem Value.satisfies_eq_render {v : Value} (hfloat : ∀ x, v ≠ .float x) :
    v.satisfies .eq v.render = true := by
  cases v with
  | int n => simp [satisfies, render, readInt64_integerText]
  | float x => exact absurd rfl (hfloat x)
  | time t =>
      have hread : timeOrZero t.text = t := by
        rw [timeOrZero, Timestamp.read_text, Option.getD_some]
      simp [satisfies, render, hread, CompareOp.holds]
  | bool b => cases b <;> decide
  | text s => simp [satisfies, render]

namespace Condition

/-- **A leaf that asks for what a name finds holds**, whichever integer, truth value, text or
timestamp it is; and every timestamp is read back from its text. -/
theorem evaluate_render {r : Record} {name : String} {v : Value} (hname : name ≠ "")
    (hlookup : r.lookup name = .ok (some v)) (hfloat : ∀ x, v ≠ .float x)
    (j : Option Connective) :
    (leaf j ⟨name, some .eq, v.render⟩).evaluate r = .ok true ∧
      ∀ t : Timestamp, Timestamp.read t.text = some t := by
  refine ⟨?_, Timestamp.read_text⟩
  rw [evaluate_leaf_of_lookup hname hlookup, Value.satisfies_eq_render hfloat]

/-- A second 60 on a leap day long before year zero. -/
def ancientTime : Timestamp :=
  ⟨-262000, 2, 29, 23, 59, 60, by decide, by decide, by decide, by decide, by decide, by decide⟩

/-- A record that has the time in a part of its own. -/
def ancientRecord : Record :=
  Composite.toRecord [("era", .ofFields "Era" [("end", some (.time ancientTime))])]

theorem evaluate_render_ancient :
    "era.end" ≠ "" ∧ ancientRecord.lookup "era.end" = .ok (some (.time ancientTime)) ∧
      (∀ x, Value.time ancientTime ≠ .float x) ∧
      (Value.time ancientTime).render = "-262000-02-29 23:59:60" ∧
      (leaf none ⟨"era.end", some .eq, "-262000-02-29 23:59:60"⟩).evaluate ancientRecord =
        .ok true := by
  have hname : "era.end" ≠ "" := by decide
  have hlookup : ancientRecord.lookup "era.end" = .ok (some (.time ancientTime)) := by
    decide +kernel
  have hfloat : ∀ x, Value.time ancientTime ≠ .float x := fun _ => by simp
  have hrender : (Value.time ancientTime).render = "-262000-02-29 23:59:60" := by decide +kernel
  have hholds := (evaluate_render hname hlookup hfloat none).1
  rw [hrender] at hholds
  exact ⟨hname, hlookup, hfloat, hrender, hholds⟩

end Condition

end FilterQuery
