/-
# FilterQuery.Proofs.Evaluation.Removal -- what a condition notices of missing data

A condition looks up the names that it mentions, and nothing else, so that records in which
these names find the same are all one to it, errors included (`evaluate_of_lookup_eq`). Of a
JSON object it reads the keys `keysRead`: the names, and what stands before the first point
of each. The rest of the object can be deleted unnoticed.

Deleting a key that is read is noticed in one direction only. What finds nothing is false,
and no connective negates anything, so that a condition that holds of what is left has held
before, and where there was no error there is none now (`evaluateJson_withoutKeys`). This is said
of keys without a point. A key with one may hide what its name means without it, and the
examples at the end show both a match and an error that come to light in that way.
-/
import FilterQuery.Proofs.Evaluation.Leaves
import FilterQuery.Proofs.Record.Removal
import FilterQuery.Query.Parse
import Mathlib.Data.Set.Basic

namespace FilterQuery

/-! ## Records that find no more -/

/-- **A comparison that finds no more** is true of no more, and has no new error. -/
theorem Comparison.exists_evaluate_eq_ok {r s : Record} (h : s.FindsNoMore r) (l : Comparison)
    {before : Bool} (hbefore : l.evaluate r = .ok before) :
    ∃ after, l.evaluate s = .ok after ∧ (after = true → before = true) := by
  cases hop : l.operator with
  | none => exact ⟨false, evaluate_of_operator_eq_none hop s, by simp⟩
  | some op =>
      by_cases hvoid : l.isVoid
      · exact ⟨false, evaluate_of_isVoid hvoid s, by simp⟩
      · rw [Bool.not_eq_true] at hvoid
        rw [evaluate_of_operator hop hvoid] at hbefore ⊢
        cases hlookup : r.lookup l.name with
        | error e =>
            rw [hlookup] at hbefore
            cases hbefore
        | ok found =>
            rw [hlookup] at hbefore
            rcases h l.name found hlookup with hsame | hnothing
            · exact ⟨before, by rw [hsame]; exact hbefore, id⟩
            · exact ⟨false, by rw [hnothing]; rfl, by simp⟩

namespace Condition

/-! ## Names that are looked up -/

/-- **A condition looks up its names and nothing else.** -/
theorem evaluate_of_lookup_eq {c : Condition} {r s : Record}
    (h : ∀ name ∈ c.names, r.lookup name = s.lookup name) : c.evaluate r = c.evaluate s := by
  refine evaluate_congr fun l hl => ?_
  refine Comparison.evaluate_eq_of_lookup rfl rfl rfl ?_
  intro hname
  exact h l.name (name_mem_names hl hname)

/-- **The keys that a condition reads of an object**: its names, and of each name what stands
before the first point. -/
def keysRead (c : Condition) : List String :=
  c.names ++ c.names.filterMap fun name => (splitQualifier name).map Prod.fst

theorem mem_keysRead {c : Condition} {key : String} :
    key ∈ c.keysRead ↔
      key ∈ c.names ∨ ∃ rest, '.' ∉ key.toList ∧ key ++ "." ++ rest ∈ c.names := by
  rw [keysRead, List.mem_append, List.mem_filterMap]
  refine or_congr_right ?_
  constructor
  · rintro ⟨name, hname, hkey⟩
    obtain ⟨⟨key', rest⟩, hsplit, rfl⟩ := Option.map_eq_some_iff.mp hkey
    obtain ⟨hpoint, rfl⟩ := splitQualifier_eq_some_iff.mp hsplit
    exact ⟨rest, hpoint, hname⟩
  · rintro ⟨rest, hpoint, hname⟩
    exact ⟨_, hname, by rw [splitQualifier_eq_some_iff.mpr ⟨hpoint, rfl⟩]; rfl⟩

/-- Keys that are not read can be taken away. -/
theorem evaluate_withoutKeys_of_not_mem {c : Condition} {gone : Set String}
    [DecidablePred (· ∈ gone)] (hgone : ∀ key ∈ c.keysRead, key ∉ gone)
    (members : List (String × Json)) :
    c.evaluate (.ofObject (withoutKeys gone members)) = c.evaluate (.ofObject members) := by
  refine evaluate_of_lookup_eq fun name hname => ?_
  refine Record.lookup_withoutKeys_of_not_mem (hgone name (mem_keysRead.mpr (Or.inl hname))) ?_
  intro key rest hsplit
  obtain ⟨hpoint, rfl⟩ := splitQualifier_eq_some_iff.mp hsplit
  exact hgone key (mem_keysRead.mpr (Or.inr ⟨rest, hpoint, hname⟩))

/-- **Evaluation depends on what the names find.** Records in which the names of a condition
find the same, be it a value, nothing or an error, give it the same result. Of an object it
is enough to keep the keys that are such a name or stand before the first point of one. -/
theorem evaluate_of_names (c : Condition) :
    (∀ r s : Record, (∀ name ∈ c.names, r.lookup name = s.lookup name) →
        c.evaluate r = c.evaluate s) ∧
      (∀ key, key ∈ c.keysRead ↔
        key ∈ c.names ∨ ∃ rest, '.' ∉ key.toList ∧ key ++ "." ++ rest ∈ c.names) ∧
      (∀ members : List (String × Json),
        c.evaluateJson (.object (withoutKeys {key | key ∉ c.keysRead} members)) =
          c.evaluateJson (.object members)) := by
  refine ⟨fun r s h => evaluate_of_lookup_eq h, fun key => mem_keysRead, ?_⟩
  intro members
  refine evaluate_withoutKeys_of_not_mem ?_ members
  intro key hread hgone
  exact hgone hread

/-- A condition that mentions a qualified name and one without a point. -/
def accountQuery : Condition := parse "score>3 || account.id=1"

/-- An object in which the qualifier leads to a number. -/
def numberedAccount : Record := .ofObject [("account", .number (.int 5)), ("score", .number (.int 4))]

/-- An object in which the qualifier leads to a text, with a key that is not read. -/
def namedAccount : Record :=
  .ofObject [("id", .number (.int 1)), ("score", .number (.int 4)), ("account", .string "x")]

theorem evaluate_of_names_account :
    (∀ name ∈ accountQuery.names, numberedAccount.lookup name = namedAccount.lookup name) ∧
      accountQuery.evaluate numberedAccount = .error (.notARecord "account") ∧
      accountQuery.evaluate namedAccount = .error (.notARecord "account") := by
  have hagree : ∀ name ∈ accountQuery.names,
      numberedAccount.lookup name = namedAccount.lookup name := by decide +kernel
  have herror : accountQuery.evaluate numberedAccount = .error (.notARecord "account") := by
    decide +kernel
  exact ⟨hagree, herror, ((evaluate_of_names accountQuery).1 _ _ hagree).symm.trans herror⟩

/-! ## Keys that are read -/

/-- **Missing data makes nothing true**, and no error: without some keys that have no point, an
object on which a condition has a result still gives it one, and it is true only if it was
true before. -/
theorem evaluateJson_withoutKeys {gone : Set String} [DecidablePred (· ∈ gone)]
    (hgone : ∀ key ∈ gone, '.' ∉ key.toList) {c : Condition} {members : List (String × Json)}
    {before : Bool} (hbefore : c.evaluateJson (.object members) = .ok before) :
    ∃ after, c.evaluateJson (.object (withoutKeys gone members)) = .ok after ∧
      (after = true → before = true) := by
  have hless := Record.findsNoMore_withoutKeys hgone members
  refine exists_evaluate_eq_ok ?_ hbefore
  intro l _ found hfound
  exact l.exists_evaluate_eq_ok hless hfound

/-- An object with a part of its own under `account`, and a key with a point. -/
def accountMembers : List (String × Json) :=
  [("account", .object [("id", .number (.int 1))]), ("account.id", .number (.int 2)),
    ("account.kind", .string "x"), ("score", .number (.int 2))]

theorem evaluateJson_withoutKeys_account :
    (∀ key ∈ ({key | key = "account" ∨ key = "score"} : Set String), '.' ∉ key.toList) ∧
      accountQuery.evaluateJson (.object accountMembers) = .ok false ∧
      ∃ after, accountQuery.evaluateJson
          (.object (withoutKeys {key | key = "account" ∨ key = "score"} accountMembers)) =
            .ok after ∧ (after = true → false = true) := by
  have hgone : ∀ key ∈ ({key | key = "account" ∨ key = "score"} : Set String),
      '.' ∉ key.toList := by
    rintro key (rfl | rfl) <;> decide
  have hbefore : accountQuery.evaluateJson (.object accountMembers) = .ok false := by
    decide +kernel
  exact ⟨hgone, hbefore, evaluateJson_withoutKeys hgone hbefore⟩

/-- A key with a point may hide a match: `account.id=1` holds once `account.id` is gone. -/
example : (parse "account.id=1").evaluateJson (.object accountMembers) = .ok false ∧
    (parse "account.id=1").evaluateJson
      (.object (withoutKeys {key | key = "account.id"} accountMembers)) = .ok true := by
  decide +kernel

/-- It may hide an error as well. -/
example : (parse "x.y=1").evaluateJson
      (.object [("x", .bool true), ("x.y", .number (.int 2))]) = .ok false ∧
    (parse "x.y=1").evaluateJson (.object (withoutKeys {key | key = "x.y"}
      [("x", .bool true), ("x.y", .number (.int 2))])) = .error (.notARecord "x") := by
  decide +kernel

end Condition

end FilterQuery
