/-
# FilterQuery.Proofs.Record.Lookup -- what a name finds in a record

A name is looked up as it stands, and if the record has no value for it, through its
qualifier. The qualifier is what stands before the first point, so that the rest may have
points of its own: `splitQualifier_eq_some_iff` says which way of cutting a name is meant,
and `splitQualifier_eq_none_iff` which names cannot be cut.

The laws of the lookup follow, one for each way through it.
-/
import FilterQuery.Record.Kinds
import Mathlib.Logic.Basic

namespace FilterQuery

/-! ## Cutting names -/

theorem splitAtPoint_eq_none_iff {cs : List Char} : splitAtPoint cs = none ↔ '.' ∉ cs := by
  induction cs with
  | nil => simp [splitAtPoint]
  | cons c cs ih =>
      rw [splitAtPoint, List.mem_cons, not_or]
      by_cases hc : c = '.'
      · simp [hc]
      · rw [if_neg hc, Option.map_eq_none_iff, ih]
        exact (and_iff_right (Ne.symm hc)).symm

theorem splitAtPoint_eq_some_iff {cs key rest : List Char} :
    splitAtPoint cs = some (key, rest) ↔ '.' ∉ key ∧ cs = key ++ '.' :: rest := by
  induction cs generalizing key with
  | nil => simp [splitAtPoint]
  | cons c cs ih =>
      rw [splitAtPoint]
      by_cases hc : c = '.'
      · subst hc
        cases key with
        | nil => simp [eq_comm]
        | cons k key =>
            -- a key that begins with something begins with another character than the point
            simp only [if_pos, Option.some.injEq, Prod.mk.injEq, reduceCtorEq, false_and, false_iff,
              List.mem_cons, not_or, List.cons_append, List.cons.injEq, not_and]
            exact fun hk hpoint => absurd hpoint hk.1
      · rw [if_neg hc, Option.map_eq_some_iff]
        constructor
        · rintro ⟨⟨key', rest'⟩, hsplit, heq⟩
          obtain ⟨rfl, rfl⟩ := Prod.mk.inj heq
          obtain ⟨hkey, rfl⟩ := ih.mp hsplit
          exact ⟨by simp [hkey, Ne.symm hc], rfl⟩
        · rintro ⟨hkey, heq⟩
          cases key with
          | nil => exact absurd (List.cons.inj heq).1 hc
          | cons k key =>
              obtain ⟨rfl, rfl⟩ := List.cons.inj heq
              rw [List.mem_cons, not_or] at hkey
              exact ⟨(key, rest), ih.mpr ⟨hkey.2, rfl⟩, rfl⟩

/-- A name without a point has no qualifier. -/
theorem splitQualifier_eq_none_iff {name : String} :
    splitQualifier name = none ↔ '.' ∉ name.toList := by
  rw [splitQualifier, Option.map_eq_none_iff, splitAtPoint_eq_none_iff]

/-- **A name is cut at its first point.** -/
theorem splitQualifier_eq_some_iff {name key rest : String} :
    splitQualifier name = some (key, rest) ↔ '.' ∉ key.toList ∧ name = key ++ "." ++ rest := by
  rw [splitQualifier, Option.map_eq_some_iff]
  constructor
  · rintro ⟨⟨before, after⟩, hsplit, heq⟩
    obtain ⟨rfl, rfl⟩ := Prod.mk.inj heq
    obtain ⟨hkey, hname⟩ := splitAtPoint_eq_some_iff.mp hsplit
    refine ⟨by rwa [String.toList_ofList], String.toList_inj.mp ?_⟩
    simp [hname]
  · rintro ⟨hkey, rfl⟩
    refine ⟨(key.toList, rest.toList), splitAtPoint_eq_some_iff.mpr ⟨hkey, by simp⟩, ?_⟩
    simp

namespace Record

/-! ## Ways through the lookup -/

variable {r : Record}

theorem lookup_of_value {name : String} {v : Value} (h : r.value name = some v) :
    r.lookup name = .ok (some v) := by
  rw [lookup, h]

/-- A name without a point has no second chance. -/
theorem lookup_of_no_point {name : String} (hname : '.' ∉ name.toList) :
    r.lookup name = .ok (r.value name) := by
  rw [lookup, splitQualifier_eq_none_iff.mpr hname]
  cases r.value name <;> rfl

/-- **A qualified name** without a value of its own is looked up in the part that its
qualifier leads to. -/
theorem lookup_qualified {key rest : String} (hkey : '.' ∉ key.toList)
    (hvalue : r.value (key ++ "." ++ rest) = none) :
    r.lookup (key ++ "." ++ rest) =
      (r.part key).map fun part => part.bind fun sub => sub.value rest := by
  simp only [lookup, hvalue, splitQualifier_eq_some_iff.mpr ⟨hkey, rfl⟩]
  cases r.part key with
  | error e => rfl
  | ok part => cases part <;> rfl

/-- A name either has no point or is a qualifier, a point and the rest. -/
theorem no_point_or_qualified (name : String) :
    '.' ∉ name.toList ∨ ∃ key rest, '.' ∉ key.toList ∧ name = key ++ "." ++ rest := by
  cases hsplit : splitQualifier name with
  | none => exact Or.inl (splitQualifier_eq_none_iff.mp hsplit)
  | some cut => exact Or.inr ⟨cut.1, cut.2, splitQualifier_eq_some_iff.mp hsplit⟩

/-! ## Records without parts -/

/-- **A record that no qualifier leads into.** -/
def HasNoParts (r : Record) : Prop := ∀ key, r.part key = .ok none

theorem hasNoParts_ofFields (typeName : String) (fields : List (String × Option Value)) :
    (ofFields typeName fields).HasNoParts := fun _ => rfl

/-- Such a record has under a name what it has there as the name stands. -/
theorem HasNoParts.lookup (h : r.HasNoParts) (name : String) :
    r.lookup name = .ok (r.value name) := by
  rcases no_point_or_qualified name with hname | ⟨key, rest, hkey, rfl⟩
  · exact lookup_of_no_point hname
  · cases hvalue : r.value (key ++ "." ++ rest) with
    | some v => exact lookup_of_value hvalue
    | none =>
        rw [lookup_qualified hkey hvalue, h key]
        rfl

end Record

end FilterQuery
