/-
# FilterQuery.Proofs.Evaluation.Composite -- several records at once

Several records are one composite, in which a name `T.n` means the attribute `n` of the first
record of type `T`. A condition that is meant for one of the records is put to all of them
by writing the type in front of its names (`Condition.qualify`), and nothing changes by that:
the qualified name is cut at its first point, which is the one behind the type as long as the
type has none, and the points within `n` stay where they are.

This needs the record to be the first of its type, since the others of that type cannot be
reached, and to have no parts, since a name reaches one level down only. When no type
occurs twice, every record can be reached and their order counts for nothing: the composites
are the same record (`several_eq_of_perm`).
-/
import FilterQuery.Proofs.Evaluation.Leaves
import FilterQuery.Proofs.Record.Lookup
import FilterQuery.Query.Parse
import Mathlib.Data.List.Find
import Mathlib.Data.List.Nodup

namespace FilterQuery

/-! ## The composite of several records -/

namespace Record

/-- **Several records as one**, each filed under its type. -/
def several (records : List Record) : Record :=
  Composite.toRecord (records.map fun r => (r.typeName, r))

/-- Under a key lies the first record of that type. -/
theorem part_several (records : List Record) (key : String) :
    (several records).part key = .ok (records.find? fun r => r.typeName == key) := by
  have hfiled : (records.map fun r => (r.typeName, r)).lookup key =
      records.find? fun r => r.typeName == key := by
    induction records with
    | nil => rfl
    | cons r records ih =>
        rw [List.map_cons, List.lookup_cons, List.find?_cons, ih, BEq.comm]
  exact congrArg Except.ok hfiled

/-- A name behind the type of a record is looked up in that record. -/
theorem lookup_several {records : List Record} {key : String} {r : Record}
    (hkey : '.' ∉ key.toList) (hfirst : records.find? (fun r => r.typeName == key) = some r)
    (name : String) : (several records).lookup (key ++ "." ++ name) = .ok (r.value name) := by
  rw [lookup_qualified hkey rfl, part_several, hfirst]
  rfl

/-- **The order of records of different types counts for nothing.** -/
theorem several_eq_of_perm {records reordered : List Record} (hperm : records.Perm reordered)
    (hnodup : (records.map Record.typeName).Nodup) : several records = several reordered := by
  have hpart : (several records).part = (several reordered).part := by
    funext key
    -- no two of them are of one type, so the first of a type is the only one
    have hunique : {r | r ∈ records ∧ (r.typeName == key) = true}.Subsingleton := by
      rintro r ⟨hr, hrkey⟩ s ⟨hs, hskey⟩
      refine List.inj_on_of_nodup_map hnodup hr hs ?_
      rw [beq_iff_eq.mp hrkey, beq_iff_eq.mp hskey]
    rw [part_several, part_several, List.find?_eq_find?_of_perm hperm hunique]
  exact congrArg (Record.mk "composite" fun _ => none) hpart

end Record

namespace Condition

theorem evaluateMany_of_two_le {records : List Record} (h : 2 ≤ records.length)
    (c : Condition) : c.evaluateMany records = c.evaluate (.several records) := by
  have hpush : ∀ all : Composite, records.foldl (fun all r => all.push r) all =
      all ++ records.map fun r => (r.typeName, r) := by
    clear h
    induction records with
    | nil => intro all; simp
    | cons r records ih => intro all; rw [List.foldl_cons, ih, Composite.push]; simp
  match records, h with
  | r :: s :: records, _ =>
      show c.evaluate (Composite.toRecord ((r :: s :: records).foldl _ [])) = _
      rw [hpush, List.nil_append, Record.several]

end Condition

/-! ## Qualified conditions -/

/-- The comparison about the attribute under a key; one that names nothing stays as it is. -/
def Comparison.qualify (key : String) (l : Comparison) : Comparison :=
  if l.isVoid then l else { l with name := key ++ "." ++ l.name }

/-- **A condition about what lies under a key**: the key stands in front of each name. -/
def Condition.qualify (key : String) (c : Condition) : Condition :=
  c.mapLeaves (Comparison.qualify key)

/-- **A qualified comparison** asks the composite what the comparison asks the record. -/
theorem Comparison.evaluate_qualify {records : List Record} {r : Record} (hparts : r.HasNoParts)
    (hpoint : '.' ∉ r.typeName.toList)
    (hfirst : records.find? (fun s => s.typeName == r.typeName) = some r) (l : Comparison) :
    (l.qualify r.typeName).evaluate (.several records) = l.evaluate r := by
  by_cases hvoid : l.isVoid
  · rw [qualify, if_pos hvoid, evaluate_of_isVoid hvoid, evaluate_of_isVoid hvoid]
  · have hnamed : r.typeName ++ "." ++ l.name ≠ "" := by
      intro hempty
      simpa using congrArg String.toList hempty
    rw [qualify, if_neg hvoid]
    refine evaluate_eq_of_lookup rfl rfl ?_ ?_
    · rw [Bool.not_eq_true] at hvoid
      rw [hvoid]
      exact isVoid_eq_false_iff.mpr hnamed
    · intro _
      rw [Record.lookup_several hpoint hfirst, hparts.lookup]

namespace Condition

theorem evaluateMany_perm {records reordered : List Record} (hperm : records.Perm reordered)
    (hnodup : (records.map Record.typeName).Nodup) (c : Condition) :
    c.evaluateMany records = c.evaluateMany reordered := by
  match records, hperm, hnodup with
  | [], hperm, _ => rw [List.nil_perm.mp hperm]
  | [r], hperm, _ => rw [List.singleton_perm.mp hperm]
  | r :: s :: records, hperm, hnodup =>
      have htwo : 2 ≤ (r :: s :: records).length := by simp
      rw [evaluateMany_of_two_le htwo, evaluateMany_of_two_le (hperm.length_eq ▸ htwo),
        Record.several_eq_of_perm hperm hnodup]

/-- **What several records make of a condition.** The first record of its type answers a
condition that is qualified by the type as it answers the condition on its own, whatever
the other records are, if its type has no point and it has no parts. Where no type occurs
twice, the order of the records changes no answer. -/
theorem evaluateMany_of_typeNames (c : Condition) :
    (∀ (before : List Record) (r : Record) (after : List Record),
        2 ≤ (before ++ r :: after).length → r.HasNoParts → '.' ∉ r.typeName.toList →
        (∀ earlier ∈ before, earlier.typeName ≠ r.typeName) →
        (c.qualify r.typeName).evaluateMany (before ++ r :: after) = c.evaluate r) ∧
      (∀ records reordered : List Record, (records.map Record.typeName).Nodup →
        records.Perm reordered → c.evaluateMany records = c.evaluateMany reordered) := by
  refine ⟨?_, ?_⟩
  · intro before r after htwo hparts hpoint hearlier
    have hfirst : (before ++ r :: after).find? (fun s => s.typeName == r.typeName) = some r := by
      rw [List.find?_eq_some_iff_append]
      refine ⟨by simp, before, after, rfl, ?_⟩
      intro earlier hmem
      simpa using hearlier earlier hmem
    rw [evaluateMany_of_two_le htwo]
    exact evaluate_mapLeaves fun l _ => l.evaluate_qualify hparts hpoint hfirst
  · intro records reordered hnodup hperm
    exact evaluateMany_perm hperm hnodup c

/-- A member, of whom an attribute has a point in its name. -/
def memberRecord : Record :=
  .ofFields "Member" [("id", some (.int 7)), ("account.id", some (.text "x")), ("left", none)]

/-- Another member, who is not reached behind the first. -/
def laterMember : Record := .ofFields "Member" [("id", some (.int 8))]

/-- A record of another type. -/
def profileRecord : Record := .ofFields "Profile" [("id", some (.int 9))]

/-- A condition that holds of `memberRecord` and of neither of the others. -/
def memberQuery : Condition := parse "(id>7 || account.id=x) && id=7"

theorem evaluateMany_of_typeNames_member :
    (2 ≤ ([profileRecord] ++ memberRecord :: [laterMember]).length ∧ memberRecord.HasNoParts ∧
        '.' ∉ memberRecord.typeName.toList ∧
        (∀ earlier ∈ [profileRecord], earlier.typeName ≠ memberRecord.typeName) ∧
        (memberQuery.qualify memberRecord.typeName).evaluateMany
          ([profileRecord] ++ memberRecord :: [laterMember]) = memberQuery.evaluate memberRecord) ∧
      ([profileRecord, memberRecord].map Record.typeName).Nodup ∧
        [profileRecord, memberRecord].Perm [memberRecord, profileRecord] ∧
        memberQuery.evaluateMany [profileRecord, memberRecord] =
          memberQuery.evaluateMany [memberRecord, profileRecord] := by
  have htwo : 2 ≤ ([profileRecord] ++ memberRecord :: [laterMember]).length := by decide
  have hparts : memberRecord.HasNoParts := Record.hasNoParts_ofFields _ _
  have hpoint : '.' ∉ memberRecord.typeName.toList := by decide
  have hearlier : ∀ earlier ∈ [profileRecord], earlier.typeName ≠ memberRecord.typeName := by
    intro earlier hmem
    rw [List.mem_singleton.mp hmem]
    decide
  have hnodup : ([profileRecord, memberRecord].map Record.typeName).Nodup := by decide
  have hperm : [profileRecord, memberRecord].Perm [memberRecord, profileRecord] := .swap _ _ _
  obtain ⟨hqualified, hordered⟩ := evaluateMany_of_typeNames memberQuery
  exact ⟨⟨htwo, hparts, hpoint, hearlier, hqualified _ _ _ htwo hparts hpoint hearlier⟩,
    hnodup, hperm, hordered _ _ hnodup hperm⟩

/-- The qualified condition is what the qualified names spell. -/
example : memberQuery.qualify "Member" =
    parse "(Member.id>7 || Member.account.id=x) && Member.id=7" := by decide +kernel

end Condition

end FilterQuery
