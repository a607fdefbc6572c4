/-
# FilterQuery.Proofs.Evaluation.Errors -- which conditions have an error on an object

A JSON object has an answer to every name but one kind: a name that it has no scalar for and
that is qualified by a key under which it has an entry, but no object. A leaf that looks up
such a name is stranded there (`Comparison.IsStrandedAt`). Leaves without an operator look
nothing up and are never stranded.

A condition has an error exactly if one of its leaves is stranded, and the error names the key
at which the leftmost of them is (`evaluateJson_eq_error_iff`). Neither the connectives nor the
nesting nor the truth of the other leaves has a part in it.
-/
import FilterQuery.Proofs.Evaluation.Leaves
import FilterQuery.Proofs.Record.Removal
import FilterQuery.Query.Parse
import Mathlib.Control.Monad.Basic

namespace FilterQuery

/-! ## What an object has under a name -/

/-- Whether a document is a truth value, a number or a string. -/
def Doc.isScalar {flaw : Type} : Doc flaw → Bool
  | .bool _ => true
  | .number _ => true
  | .string _ => true
  | _ => false

/-- Whether a document is null or an object, and a qualifier may lead to it. -/
def Doc.isNullOrObject {flaw : Type} : Doc flaw → Bool
  | .null => true
  | .object _ => true
  | _ => false

theorem Value.ofJson_eq_none_iff {json : Json} : ofJson json = none ↔ json.isScalar = false := by
  cases json with
  | number n => cases n <;> simp [ofJson, Doc.isScalar]
  | string s =>
      rw [ofJson]
      split <;> simp [Doc.isScalar]
  | _ => simp [ofJson, Doc.isScalar]

namespace Record

variable {members : List (String × Json)}

theorem value_ofObject_eq_none_iff {name : String} :
    (ofObject members).value name = none ↔
      ∀ json, members.lookup name = some json → json.isScalar = false := by
  show (members.lookup name).bind Value.ofJson = none ↔ _
  rw [Option.bind_eq_none_iff]
  exact forall₂_congr fun _ _ => Value.ofJson_eq_none_iff

theorem partOfEntry_eq_error_iff {key : String} {entry : Json} {e : DataError} :
    partOfEntry key entry = .error e ↔ entry.isNullOrObject = false ∧ e = .notARecord key := by
  cases entry <;> simp [partOfEntry, Doc.isNullOrObject, eq_comm]

theorem part_ofObject_eq_error_iff {key : String} {e : DataError} :
    (ofObject members).part key = .error e ↔
      ∃ entry, members.lookup key = some entry ∧ entry.isNullOrObject = false ∧
        e = .notARecord key := by
  rw [part_ofObject]
  cases members.lookup key with
  | none => simp
  | some entry =>
      rw [Option.map_some, Option.getD_some, partOfEntry_eq_error_iff]
      simp

/-- **A lookup has an error** exactly if the name is qualified, the record has no value under
the whole of it, and the qualifier leads to the error. -/
theorem lookup_eq_error_iff {r : Record} {name : String} {e : DataError} :
    r.lookup name = .error e ↔
      ∃ key rest, '.' ∉ key.toList ∧ name = key ++ "." ++ rest ∧ r.value name = none ∧
        r.part key = .error e := by
  constructor
  · intro herror
    rcases no_point_or_qualified name with hpoint | ⟨key, rest, hkey, rfl⟩
    · rw [lookup_of_no_point hpoint] at herror
      cases herror
    · cases hvalue : r.value (key ++ "." ++ rest) with
      | some v =>
          rw [lookup_of_value hvalue] at herror
          cases herror
      | none =>
          refine ⟨key, rest, hkey, rfl, rfl, ?_⟩
          rw [lookup_qualified hkey hvalue] at herror
          cases hpart : r.part key with
          | error e' =>
              rw [hpart] at herror
              exact congrArg Except.error (Except.error.inj herror)
          | ok part =>
              rw [hpart] at herror
              cases herror
  · rintro ⟨key, rest, hkey, rfl, hvalue, hpart⟩
    rw [lookup_qualified hkey hvalue, hpart]
    rfl

end Record

/-! ## Stranded leaves -/

namespace Comparison

/-- **A leaf that is stranded at a key of an object**: it has an operator, its name begins with
the key and a point, the object has no scalar under the name, and under the key it has an entry
that is neither null nor an object. -/
def IsStrandedAt (members : List (String × Json)) (key : String) (l : Comparison) : Prop :=
  l.operator ≠ none ∧
    (∃ rest, '.' ∉ key.toList ∧ l.name = key ++ "." ++ rest) ∧
    (∀ json, members.lookup l.name = some json → json.isScalar = false) ∧
    ∃ entry, members.lookup key = some entry ∧ entry.isNullOrObject = false

/-- A leaf has the error of its lookup, if it makes one. -/
theorem evaluate_eq_error_iff {l : Comparison} {r : Record} {e : DataError} :
    l.evaluate r = .error e ↔
      l.operator ≠ none ∧ l.isVoid = false ∧ r.lookup l.name = .error e := by
  cases hop : l.operator with
  | none => simp [evaluate_of_operator_eq_none hop]
  | some op =>
      by_cases hvoid : l.isVoid
      · simp [evaluate_of_isVoid hvoid, hvoid]
      · rw [Bool.not_eq_true] at hvoid
        rw [evaluate_of_operator hop hvoid]
        cases r.lookup l.name <;> simp [Except.map, hvoid]

/-- **The errors of one leaf.** -/
theorem evaluate_ofObject_eq_error_iff {l : Comparison} {members : List (String × Json)}
    {e : DataError} :
    l.evaluate (.ofObject members) = .error e ↔
      ∃ key, l.IsStrandedAt members key ∧ e = .notARecord key := by
  rw [evaluate_eq_error_iff, Record.lookup_eq_error_iff]
  simp only [Record.value_ofObject_eq_none_iff, Record.part_ofObject_eq_error_iff]
  constructor
  · rintro ⟨hop, -, key, rest, hkey, hname, hscalar, entry, hentry, hkind, rfl⟩
    exact ⟨key, ⟨hop, ⟨rest, hkey, hname⟩, hscalar, entry, hentry, hkind⟩, rfl⟩
  · rintro ⟨key, ⟨hop, ⟨rest, hkey, hname⟩, hscalar, entry, hentry, hkind⟩, rfl⟩
    have hfilled : l.name ≠ "" := by
      rw [hname]
      intro hempty
      simpa using congrArg String.toList hempty
    exact ⟨hop, isVoid_eq_false_iff.mpr hfilled, key, rest, hkey, hname, hscalar, entry, hentry,
      hkind, rfl⟩

/-- A leaf that is nowhere stranded has a result. -/
theorem exists_evaluate_ofObject_iff {l : Comparison} {members : List (String × Json)} :
    (∃ holds, l.evaluate (.ofObject members) = .ok holds) ↔
      ∀ key, ¬l.IsStrandedAt members key := by
  rw [← errorOf?_eq_none_iff]
  constructor
  · intro hnone key hstranded
    rw [evaluate_ofObject_eq_error_iff.mpr ⟨key, hstranded, rfl⟩] at hnone
    cases hnone
  · intro hnowhere
    cases hresult : l.evaluate (.ofObject members) with
    | ok holds => rfl
    | error e =>
        obtain ⟨key, hstranded, -⟩ := evaluate_ofObject_eq_error_iff.mp hresult
        exact absurd hstranded (hnowhere key)

end Comparison

/-! ## Conditions -/

namespace Condition

/-- The error of a condition on an object is that of its leftmost stranded leaf. -/
theorem evaluate_ofObject_eq_error_iff {c : Condition} {members : List (String × Json)}
    {e : DataError} :
    c.evaluate (.ofObject members) = .error e ↔
      ∃ before l after key, c.leaves = before ++ l :: after ∧
        (∀ earlier ∈ before, ∀ key', ¬earlier.IsStrandedAt members key') ∧
        l.IsStrandedAt members key ∧ e = .notARecord key := by
  rw [evaluate_eq_okUnless, okUnless_eq_error_iff, firstError_eq_some_iff]
  simp only [Comparison.exists_evaluate_ofObject_iff, Comparison.evaluate_ofObject_eq_error_iff]
  constructor
  · rintro ⟨before, l, after, hleaves, hbefore, key, hstranded, rfl⟩
    exact ⟨before, l, after, key, hleaves, hbefore, hstranded, rfl⟩
  · rintro ⟨before, l, after, key, hleaves, hbefore, hstranded, rfl⟩
    exact ⟨before, l, after, hleaves, hbefore, key, hstranded, rfl⟩

/-- **The errors of a condition on an object.** It has one exactly if a leaf is stranded, and
then the error is that the key is no record at which the leftmost stranded leaf is. -/
theorem evaluateJson_eq_error_iff (c : Condition) (members : List (String × Json)) :
    ((∃ e, c.evaluateJson (.object members) = .error e) ↔
        ∃ l ∈ c.leaves, ∃ key, l.IsStrandedAt members key) ∧
      ∀ e, c.evaluateJson (.object members) = .error e ↔
        ∃ before l after key, c.leaves = before ++ l :: after ∧
          (∀ earlier ∈ before, ∀ key', ¬earlier.IsStrandedAt members key') ∧
          l.IsStrandedAt members key ∧ e = .notARecord key := by
  refine ⟨?_, fun e => evaluate_ofObject_eq_error_iff⟩
  have hleftmost : ∀ e, c.evaluateJson (.object members) = .error e ↔
      firstError (·.evaluate (.ofObject members)) c.leaves = some e := by
    intro e
    show c.evaluate (.ofObject members) = .error e ↔ _
    rw [evaluate_eq_okUnless, okUnless_eq_error_iff]
  simp only [hleftmost, ← Option.ne_none_iff_exists']
  rw [Ne, firstError_eq_none_iff]
  simp only [Comparison.exists_evaluate_ofObject_iff, not_forall, not_not, exists_prop]

/-- A leaf that holds does not spare the others, and of two errors the left one is reported. -/
example : (parse "a=1 || (b.c=1 && d.e=2)").evaluateJson
    (.object [("a", .number (.int 1)), ("d", .string "x"), ("b.c", .null), ("b", .bool true)]) =
      .error (.notARecord "b") := by
  decide +kernel

end Condition

end FilterQuery
