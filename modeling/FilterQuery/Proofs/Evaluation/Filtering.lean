/-
# FilterQuery.Proofs.Evaluation.Filtering -- what filtering keeps

Filtering a collection has one specification, `IsFiltered`, whatever the items are and whatever
decides about them. There is a result just if every item has one, and then it is made of the items
that hold, as often as they occur and in their order; otherwise the first item with an error has
the word, and nothing is kept.

It follows that filtering sees of an item only what is decided about it (`keepWhere_map`). So a
collection may be filtered through its positions, and that is how records and the JSON objects
they are made of can be compared: from both the same positions are selected. And what was kept is
kept again (`keepWhere_of_kept`), since its items have results and hold.
-/
import FilterQuery.Proofs.Evaluation.Errors
import Mathlib.Data.List.Sort

namespace FilterQuery

variable {α β ε : Type}

/-! ## The specification -/

/-- **What filtering a collection comes to**, where each item holds, does not hold, or has an
error. -/
structure IsFiltered (holds : α → Except ε Bool) (items : List α)
    (outcome : Except ε (List α)) : Prop where
  /-- There is a result if no item has an error, and then it is made of those that hold. -/
  ok_iff : ∀ kept, outcome = .ok kept ↔
    (∀ item ∈ items, ∃ b, holds item = .ok b) ∧ kept = items.filter fun item => isTrue (holds item)
  /-- The error is that of an item before which no item has one. -/
  error_iff : ∀ e, outcome = .error e ↔
    ∃ before item after, items = before ++ item :: after ∧
      (∀ earlier ∈ before, ∃ b, holds earlier = .ok b) ∧ holds item = .error e

/-- **The loop that keeps items meets the specification.** -/
theorem isFiltered_keepWhere (holds : α → Except ε Bool) (items : List α) :
    IsFiltered holds items (keepWhere holds items) where
  ok_iff kept := by
    rw [keepWhere_eq_okUnless, okUnless_eq_ok_iff, firstError_eq_none_iff, eq_comm (b := kept)]
  error_iff e := by
    rw [keepWhere_eq_okUnless, okUnless_eq_error_iff, firstError_eq_some_iff]

variable {holds : α → Except ε Bool} {items kept : List α}

theorem mem_of_kept (h : keepWhere holds items = .ok kept) {item : α} :
    item ∈ kept ↔ item ∈ items ∧ holds item = .ok true := by
  rw [(((isFiltered_keepWhere holds items).ok_iff kept).mp h).2, List.mem_filter, isTrue_iff]

/-- What is kept keeps its order. -/
theorem sublist_of_kept (h : keepWhere holds items = .ok kept) : kept.Sublist items := by
  rw [(((isFiltered_keepWhere holds items).ok_iff kept).mp h).2]
  exact List.filter_sublist

/-! ## Filtering again -/

/-- **What was kept is kept again.** -/
theorem keepWhere_of_kept (h : keepWhere holds items = .ok kept) :
    keepWhere holds kept = .ok kept := by
  rw [(isFiltered_keepWhere holds kept).ok_iff]
  constructor
  · intro item hitem
    exact ⟨true, ((mem_of_kept h).mp hitem).2⟩
  · symm
    rw [List.filter_eq_self]
    intro item hitem
    exact isTrue_iff.mpr ((mem_of_kept h).mp hitem).2

/-! ## Filtering through positions -/

/-- **Filtering sees of an item only what is decided about it**, so that items may be put in the
place of others about which the same is decided. -/
theorem keepWhere_map (holds : β → Except ε Bool) (f : α → β) (items : List α) :
    keepWhere holds (items.map f) =
      (keepWhere (fun item => holds (f item)) items).map (List.map f) := by
  rw [keepWhere_eq_okUnless, keepWhere_eq_okUnless, firstError_map, List.filter_map]
  cases firstError (fun item => holds (f item)) items <;> rfl

/-- A collection is filtered as its positions are. -/
theorem keepWhere_positions (holds : α → Except ε Bool) (items : List α) :
    keepWhere holds items =
      (keepWhere (fun i => holds (items.get i)) (List.finRange items.length)).map
        (List.map items.get) := by
  rw [← keepWhere_map, List.map_get_finRange]

/-- The positions that are kept ascend. -/
theorem pairwise_of_kept_positions {n : ℕ} {holds : Fin n → Except ε Bool}
    {positions : List (Fin n)} (h : keepWhere holds (List.finRange n) = .ok positions) :
    positions.Pairwise (· < ·) :=
  (List.sortedLT_finRange n).pairwise.sublist (sublist_of_kept h)

namespace Condition

/-! ## Elements of JSON arrays -/

/-- **The errors of an element**: it is null, or neither null nor an object, or an object in which
some leaf is stranded, of which the leftmost counts. -/
theorem evaluateJson_eq_error_iff_cases {c : Condition} {item : Json} {e : DataError} :
    c.evaluateJson item = .error e ↔
      (item = .null ∧ e = .missing) ∨ (item.isNullOrObject = false ∧ e = .objectRequired) ∨
        ∃ members before l after key, item = .object members ∧ c.leaves = before ++ l :: after ∧
          (∀ earlier ∈ before, ∀ key', ¬earlier.IsStrandedAt members key') ∧
          l.IsStrandedAt members key ∧ e = .notARecord key := by
  cases item with
  | hole f => exact f.elim
  | null => simp [evaluateJson, Doc.isNullOrObject, eq_comm]
  | object members =>
      rw [evaluateJson, evaluate_ofObject_eq_error_iff]
      simp [Doc.isNullOrObject]
  | bool b => simp [evaluateJson, Doc.isNullOrObject, eq_comm]
  | number n => simp [evaluateJson, Doc.isNullOrObject, eq_comm]
  | string s => simp [evaluateJson, Doc.isNullOrObject, eq_comm]
  | array items => simp [evaluateJson, Doc.isNullOrObject, eq_comm]

/-- An array of objects is filtered as the records are that they make. -/
theorem filterJson_objects (c : Condition) (objects : List (List (String × Json))) :
    c.filterJson (.array (objects.map .object)) =
      (c.filter .ofObject objects).map (List.map .object) :=
  keepWhere_map c.evaluateJson .object objects

/-- **What filtering keeps.** A JSON array and a collection of any items that are seen as records
are filtered by one law: the result has the items that hold, or there is the error of the first
item that has one. An element of an array has an error if it is null, no object, or an object in
which a leaf leads through an entry that is no record. If the elements are objects, then the same
positions are selected from the array as from the records; and what was kept is kept again. -/
theorem filter_keeps (c : Condition) :
    (∀ items : List Json, IsFiltered c.evaluateJson items (c.filterJson (.array items))) ∧
      (∀ (α : Type) (view : α → Record) (items : List α),
        IsFiltered (fun item => c.evaluate (view item)) items (c.filter view items)) ∧
      (∀ (item : Json) (e : DataError), c.evaluateJson item = .error e ↔
        (item = .null ∧ e = .missing) ∨ (item.isNullOrObject = false ∧ e = .objectRequired) ∨
          ∃ members before l after key, item = .object members ∧
            c.leaves = before ++ l :: after ∧
            (∀ earlier ∈ before, ∀ key', ¬earlier.IsStrandedAt members key') ∧
            l.IsStrandedAt members key ∧ e = .notARecord key) ∧
      (∀ objects : List (List (String × Json)),
        ∃ selected : Except DataError (List (Fin objects.length)),
          c.filter .ofObject objects = selected.map (List.map objects.get) ∧
          c.filterJson (.array (objects.map .object)) =
            selected.map (List.map fun i => .object (objects.get i)) ∧
          ∀ positions, selected = .ok positions →
            positions.Pairwise (· < ·) ∧
              ∀ i, i ∈ positions ↔ c.evaluate (.ofObject (objects.get i)) = .ok true) ∧
      (∀ items kept : List Json, c.filterJson (.array items) = .ok kept →
        c.filterJson (.array kept) = .ok kept) ∧
      ∀ (α : Type) (view : α → Record) (items kept : List α),
        c.filter view items = .ok kept → c.filter view kept = .ok kept := by
  refine ⟨isFiltered_keepWhere c.evaluateJson,
    fun α view => isFiltered_keepWhere fun item => c.evaluate (view item),
    fun item e => evaluateJson_eq_error_iff_cases, ?_, fun items kept => keepWhere_of_kept,
    fun α view items kept => keepWhere_of_kept⟩
  intro objects
  -- both are filtered as the positions are, each of which stands for its record
  have hrecords := keepWhere_positions (fun members => c.evaluate (.ofObject members)) objects
  refine ⟨keepWhere (fun i => c.evaluate (.ofObject (objects.get i)))
    (List.finRange objects.length), hrecords, ?_, ?_⟩
  · rw [filterJson_objects, filter, hrecords]
    cases keepWhere (fun i => c.evaluate (.ofObject (objects.get i)))
      (List.finRange objects.length) with
    | error e => rfl
    | ok positions => exact congrArg Except.ok List.map_map
  · intro positions hpositions
    refine ⟨pairwise_of_kept_positions hpositions, ?_⟩
    intro i
    rw [mem_of_kept hpositions]
    exact and_iff_right (List.mem_finRange i)

/-- A low price. -/
def cheapMembers : List (String × Json) := [("price", .number (.int 3))]

/-- A high price, and a number where a qualifier may lead. -/
def flatMembers : List (String × Json) := [("price", .number (.int 9)), ("account", .number (.int 1))]

/-- A condition with a qualified name. -/
def priceOrAccount : Condition := parse "price<5 || account.id=1"

/-- An object that occurs twice is kept twice, and of two errors the first one counts. -/
theorem filter_keeps_cheapMembers :
    priceOrAccount.filterJson (.array [.object cheapMembers, .object [], .object cheapMembers]) =
        .ok [.object cheapMembers, .object cheapMembers] ∧
      priceOrAccount.filterJson (.array [.object cheapMembers, .object cheapMembers]) =
        .ok [.object cheapMembers, .object cheapMembers] ∧
      priceOrAccount.filter .ofObject [cheapMembers, [], cheapMembers] =
        .ok [cheapMembers, cheapMembers] ∧
      priceOrAccount.filter .ofObject [cheapMembers, cheapMembers] =
        .ok [cheapMembers, cheapMembers] ∧
      priceOrAccount.filterJson (.array [.object cheapMembers, .object flatMembers, .null]) =
        .error (.notARecord "account") ∧
      priceOrAccount.filterJson (.array [.object cheapMembers, .null, .object flatMembers]) =
        .error .missing := by
  obtain ⟨hlaw, hrecords, herrors, -, hagain, hrecordsAgain⟩ := filter_keeps priceOrAccount
  have hcheap : priceOrAccount.evaluate (.ofObject cheapMembers) = .ok true := by decide +kernel
  have hempty : priceOrAccount.evaluate (.ofObject []) = .ok false := by decide +kernel
  have hflat : priceOrAccount.evaluate (.ofObject flatMembers) =
      .error (.notARecord "account") := by decide +kernel
  have hnull : priceOrAccount.evaluateJson .null = .error .missing :=
    (herrors .null .missing).mpr (.inl ⟨rfl, rfl⟩)
  have hkept :
      priceOrAccount.filterJson (.array [.object cheapMembers, .object [], .object cheapMembers]) =
        .ok [.object cheapMembers, .object cheapMembers] := by
    rw [(hlaw _).ok_iff]
    simp [evaluateJson, hcheap, hempty, isTrue]
  have hkeptRecords : priceOrAccount.filter .ofObject [cheapMembers, [], cheapMembers] =
      .ok [cheapMembers, cheapMembers] := by
    rw [(hrecords _ _ _).ok_iff]
    simp [hcheap, hempty, isTrue]
  refine ⟨hkept, hagain _ _ hkept, hkeptRecords, hrecordsAgain _ _ _ _ hkeptRecords, ?_, ?_⟩
  · rw [(hlaw _).error_iff]
    exact ⟨[.object cheapMembers], .object flatMembers, [.null], rfl,
      by simp [evaluateJson, hcheap], hflat⟩
  · rw [(hlaw _).error_iff]
    exact ⟨[.object cheapMembers], .null, [.object flatMembers], rfl,
      by simp [evaluateJson, hcheap], hnull⟩

end Condition

end FilterQuery
