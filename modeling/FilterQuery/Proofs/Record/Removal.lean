/-
# FilterQuery.Proofs.Record.Removal -- JSON objects without some of their keys

A key of an object serves in two ways. It is an attribute, and it is the qualifier of every
name that begins with it and a point. `withoutKeys` takes keys away in both.

The lookup of a name uses two keys at most, the name and its qualifier, and so it finds what
it found if neither was taken away (`lookup_withoutKeys_of_not_mem`). If one was, it may find
more than before: without the key `account.id`, the name falls back on the member `id` of
`account`. Keys without a point have nothing to fall back on, and taking them away leaves a
name what it found, or nothing (`findsNoMore_withoutKeys`).
-/
import FilterQuery.Proofs.Record.Lookup
import Mathlib.Data.Set.Defs

namespace FilterQuery

/-- **An object without some of its keys.** -/
def withoutKeys (gone : Set String) [DecidablePred (· ∈ gone)] (members : List (String × Json)) :
    List (String × Json) :=
  members.filter fun member => member.1 ∉ gone

namespace Record

/-! ## What lies under a key -/

/-- The part under a key depends on the entry of that key only. -/
theorem part_ofObject (members : List (String × Json)) (key : String) :
    (ofObject members).part key =
      ((members.lookup key).map (partOfEntry key)).getD (.ok none) := by
  show partOfObject members key = _
  induction members with
  | nil => rfl
  | cons member members ih =>
      obtain ⟨name, json⟩ := member
      rw [partOfObject, List.lookup_cons]
      by_cases hname : name = key
      · rw [if_pos hname, hname, beq_self_eq_true]
        rfl
      · rw [if_neg hname, ih, beq_eq_false_iff_ne.mpr (Ne.symm hname)]

variable {gone : Set String} [DecidablePred (· ∈ gone)] {members : List (String × Json)}

theorem lookup_members_withoutKeys (key : String) :
    (withoutKeys gone members).lookup key =
      if key ∈ gone then none else members.lookup key := by
  induction members with
  | nil => simp [withoutKeys]
  | cons member members ih =>
      obtain ⟨name, json⟩ := member
      by_cases hgone : name ∈ gone
      · have hstep : withoutKeys gone ((name, json) :: members) = withoutKeys gone members := by
          simp [withoutKeys, hgone]
        rw [hstep, ih]
        -- only a key that is gone itself could have found the entry
        by_cases hkey : key ∈ gone
        · rw [if_pos hkey, if_pos hkey]
        · have hne : key ≠ name := fun heq => hkey (heq ▸ hgone)
          rw [List.lookup_cons, beq_eq_false_iff_ne.mpr hne]
      · have hstep : withoutKeys gone ((name, json) :: members) =
            (name, json) :: withoutKeys gone members := by
          simp [withoutKeys, hgone]
        rw [hstep, List.lookup_cons, List.lookup_cons, ih]
        by_cases hkey : key = name
        · subst hkey
          rw [if_neg hgone, if_neg hgone]
        · rw [beq_eq_false_iff_ne.mpr hkey]

theorem value_withoutKeys (name : String) :
    (ofObject (withoutKeys gone members)).value name =
      if name ∈ gone then none else (ofObject members).value name := by
  show ((withoutKeys gone members).lookup name).bind Value.ofJson = _
  rw [lookup_members_withoutKeys]
  split <;> rfl

theorem value_withoutKeys_of_not_mem {name : String} (hname : name ∉ gone)
    (members : List (String × Json)) :
    (ofObject (withoutKeys gone members)).value name = (ofObject members).value name := by
  rw [value_withoutKeys, if_neg hname]

theorem part_withoutKeys (key : String) :
    (ofObject (withoutKeys gone members)).part key =
      if key ∈ gone then .ok none else (ofObject members).part key := by
  rw [part_ofObject, part_ofObject, lookup_members_withoutKeys]
  split <;> rfl

/-! ## What a name finds -/

/-- **Keys that a name does not use** can be taken away. -/
theorem lookup_withoutKeys_of_not_mem {name : String} (hname : name ∉ gone)
    (hqualifier : ∀ key rest, splitQualifier name = some (key, rest) → key ∉ gone) :
    (ofObject (withoutKeys gone members)).lookup name = (ofObject members).lookup name := by
  have hvalue := value_withoutKeys_of_not_mem hname members
  rcases no_point_or_qualified name with hpoint | ⟨key, rest, hkey, rfl⟩
  · rw [lookup_of_no_point hpoint, lookup_of_no_point hpoint, hvalue]
  · cases hfound : (ofObject members).value (key ++ "." ++ rest) with
    | some v => rw [lookup_of_value (hvalue.trans hfound), lookup_of_value hfound]
    | none =>
        have hkept : key ∉ gone :=
          hqualifier key rest (splitQualifier_eq_some_iff.mpr ⟨hkey, rfl⟩)
        rw [lookup_qualified hkey (hvalue.trans hfound), lookup_qualified hkey hfound,
          part_withoutKeys, if_neg hkept]

/-- **A record that finds no more than another**: under every name what the other finds there,
or nothing. Where the other has an error, anything goes. -/
def FindsNoMore (s r : Record) : Prop :=
  ∀ name found, r.lookup name = .ok found → s.lookup name = .ok found ∨ s.lookup name = .ok none

/-- **Without keys that have no point**, an object finds no more than before. -/
theorem findsNoMore_withoutKeys (hgone : ∀ key ∈ gone, '.' ∉ key.toList)
    (members : List (String × Json)) :
    (ofObject (withoutKeys gone members)).FindsNoMore (ofObject members) := by
  intro name found hfound
  rcases no_point_or_qualified name with hpoint | ⟨key, rest, hkey, rfl⟩
  · rw [lookup_of_no_point hpoint] at hfound ⊢
    rw [value_withoutKeys]
    split
    · exact Or.inr rfl
    · exact Or.inl hfound
  · -- the name itself has a point, so it is not gone; its qualifier may be
    have hname : key ++ "." ++ rest ∉ gone := fun hmem => hgone _ hmem (by simp)
    by_cases hgonekey : key ∈ gone
    · have hvalue := value_withoutKeys_of_not_mem hname members
      cases hown : (ofObject members).value (key ++ "." ++ rest) with
      | some v =>
          rw [lookup_of_value hown] at hfound
          exact Or.inl ((lookup_of_value (hvalue.trans hown)).trans hfound)
      | none =>
          rw [lookup_qualified hkey (hvalue.trans hown), part_withoutKeys, if_pos hgonekey]
          exact Or.inr rfl
    · refine Or.inl ((lookup_withoutKeys_of_not_mem hname ?_).trans hfound)
      intro key' rest' hsplit
      rw [splitQualifier_eq_some_iff.mpr ⟨hkey, rfl⟩] at hsplit
      obtain ⟨rfl, -⟩ := Prod.mk.inj (Option.some.inj hsplit)
      exact hgonekey

end Record

end FilterQuery
