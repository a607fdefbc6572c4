/-
# FilterQuery.Proofs.Condition.Written -- reading a condition that was written as JSON

A condition is read back from its JSON unless it has an empty group, which is written
without children and read as a node that says nothing. Through text there is a second
bound: every group takes two levels of nesting, the object of the node and the array of its
children, and every leaf takes two, its node and its comparison. A text nested deeper than
the reader follows is refused, so that a leaf may lie under 62 groups and no more.

Both ways of reading are one statement about what is kept of the written document
(`decode_kept_toJson_iff`): the document itself keeps everything, its text what lies above
the limit (`readDraft_compact`).
-/
import FilterQuery.Condition.Json
import FilterQuery.Proofs.Condition.Tree
import FilterQuery.Proofs.Json.Nesting
import FilterQuery.Proofs.Outcome

namespace FilterQuery

open Doc (kept keptItems keptMembers)

namespace Condition

/-! ## How deep the leaves lie -/

mutual

/-- For every leaf, from left to right, the number of groups that it lies under. -/
def leafDepths : Condition → List Nat
  | .leaf _ _ => [0]
  | .group _ children => (leafDepthsAll children).map (· + 1)

/-- The depths of the leaves of several conditions, one after the other. -/
def leafDepthsAll : List Condition → List Nat
  | [] => []
  | c :: cs => c.leafDepths ++ leafDepthsAll cs

end

theorem mem_leafDepthsAll {n : Nat} {cs : List Condition} :
    n ∈ leafDepthsAll cs ↔ ∃ c ∈ cs, n ∈ c.leafDepths := by
  induction cs with
  | nil => simp [leafDepthsAll]
  | cons c cs ih => simp [leafDepthsAll, ih]

theorem forall_mem_leafDepths_group {P : Nat → Prop} {j : Option Connective}
    {cs : List Condition} :
    (∀ n ∈ (group j cs).leafDepths, P n) ↔ ∀ c ∈ cs, ∀ n ∈ c.leafDepths, P (n + 1) := by
  rw [leafDepths, List.forall_mem_map]
  constructor
  · intro h c hc n hn
    exact h n (mem_leafDepthsAll.mpr ⟨c, hc, hn⟩)
  · intro h n hn
    obtain ⟨c, hc, hnc⟩ := mem_leafDepthsAll.mp hn
    exact h c hc n hnc

/-- A tree without empty groups has a leaf. -/
theorem IsInhabited.exists_mem_leafDepths {c : Condition} (h : c.IsInhabited) :
    ∃ n, n ∈ c.leafDepths := by
  induction c using Condition.induction with
  | leaf joiner comparison => exact ⟨0, by simp [leafDepths]⟩
  | group joiner children ih =>
      obtain ⟨hchildren, hall⟩ := isInhabited_group_iff.mp h
      obtain ⟨c, hc⟩ := List.exists_mem_of_ne_nil children hchildren
      obtain ⟨n, hn⟩ := ih c hc (hall c hc)
      exact ⟨n + 1, List.mem_map_of_mem (mem_leafDepthsAll.mpr ⟨c, hc, hn⟩)⟩

/-! ## Written documents -/

theorem isTextual_comparison (l : Comparison) : Json.IsTextual l.toJson := by
  refine .object fun m hm => ?_
  simp only [List.mem_cons, List.not_mem_nil, or_false] at hm
  rcases hm with rfl | rfl | rfl <;> exact .string _

theorem isTextual_joinerMember {j : Option Connective} {m : String × Json}
    (hm : m ∈ joinerMember j) : Json.IsTextual m.2 := by
  cases j with
  | none => cases hm
  | some c =>
      rw [List.mem_singleton.mp hm]
      exact .string _

theorem mem_toJsonAll {item : Json} {cs : List Condition} :
    item ∈ toJsonAll cs ↔ ∃ c ∈ cs, c.toJson = item := by
  induction cs with
  | nil => simp [toJsonAll]
  | cons c cs ih => simp [toJsonAll, ih, eq_comm]

theorem toJson_group_cons (j : Option Connective) (child : Condition)
    (children : List Condition) :
    (group j (child :: children)).toJson =
      .object (joinerMember j ++ [("conditions", .array (toJsonAll (child :: children)))]) := by
  rw [toJson, toJsonAll]

/-- A written condition consists of strings, arrays and objects. -/
theorem isTextual_toJson (c : Condition) : Json.IsTextual c.toJson := by
  induction c using Condition.induction with
  | leaf joiner comparison =>
      rw [toJson]
      refine .object fun m hm => ?_
      rcases List.mem_append.mp hm with hm | hm
      · exact isTextual_joinerMember hm
      · rw [List.mem_singleton.mp hm]
        exact isTextual_comparison comparison
  | group joiner children ih =>
      cases children with
      | nil =>
          rw [toJson]
          exact .object fun m hm => isTextual_joinerMember hm
      | cons child children =>
          rw [toJson_group_cons]
          refine .object fun m hm => ?_
          rcases List.mem_append.mp hm with hm | hm
          · exact isTextual_joinerMember hm
          · rw [List.mem_singleton.mp hm]
            refine .array fun item hitem => ?_
            obtain ⟨c, hc, rfl⟩ := mem_toJsonAll.mp hitem
            exact ih c hc

end Condition

/-! ## Reading what is kept -/

section Reading

variable {flaw : Type} (skippable : Doc flaw → Bool) (tooDeep : Nat → Option flaw)

theorem decodeOperator_symbol (operator : Option CompareOp) :
    decodeOperator CompareOp.read
        (.string ((operator.map CompareOp.symbol).getD "") : Doc flaw) = .ok operator := by
  rcases operator with _ | (_ | _ | _ | _ | _) <;>
    simp [decodeOperator, CompareOp.read, CompareOp.symbol]

theorem decodeOperator_word (c : Connective) :
    decodeOperator Connective.read (.string c.word : Doc flaw) = .ok (some c) := by
  cases c <;> simp [decodeOperator, Connective.read, Connective.word]

/-- A comparison is read back unless it is too deep. -/
theorem Comparison.decode?_kept (l : Comparison) (depth : Nat) :
    Comparison.decode? skippable (kept tooDeep depth l.toJson) =
      if tooDeep (depth + 1) = none then .ok (some l) else .error .malformed := by
  rw [Comparison.toJson, Doc.kept_object]
  cases tooDeep (depth + 1) with
  | some f => rfl
  | none =>
      simp [keptMembers, kept, Comparison.decode?, Comparison.decode, ComparisonFields.readMembers,
        ComparisonFields.none, ComparisonFields.finish, decodeText, decodeOperator_symbol, setOnce,
        Except.map, bind, Except.bind, pure, Except.pure]

namespace Condition

/-- The member for a joiner is read as the joiner. -/
theorem decodeMembers_joinerMember (j : Option Connective) (depth : Nat)
    (rest : List (String × Doc flaw)) :
    decodeMembers skippable NodeFields.none (keptMembers tooDeep depth (joinerMember j) ++ rest) =
      decodeMembers skippable ⟨j.map some, none, none⟩ rest := by
  cases j with
  | none => rfl
  | some c =>
      simp [joinerMember, keptMembers, kept, decodeMembers, NodeFields.none, decodeOperator_word,
        setOnce, Except.map, bind, Except.bind]

/-- **Whether enough of a written condition is kept** at a depth to read it back. A leaf
under `n` groups needs two levels for each of them, and two for its node and its comparison. -/
def IsKept (depth : Nat) (c : Condition) : Prop :=
  c.IsInhabited ∧ ∀ n ∈ c.leafDepths, tooDeep (depth + 2 * n + 2) = none

theorem decodeAll_kept_iff {cs : List Condition} {depth : Nat}
    (h : ∀ c ∈ cs, ∀ d, decode skippable (kept tooDeep depth c.toJson) = .ok d ↔
      d = c ∧ c.IsKept tooDeep depth) (ds : List Condition) :
    decodeAll skippable (keptItems tooDeep depth (toJsonAll cs)) = .ok ds ↔
      ds = cs ∧ ∀ c ∈ cs, c.IsKept tooDeep depth := by
  induction cs generalizing ds with
  | nil => simp [toJsonAll, keptItems, decodeAll, eq_comm]
  | cons c cs ih =>
      obtain ⟨hc, hcs⟩ := List.forall_mem_cons.mp h
      simp only [toJsonAll, keptItems, decodeAll, bind_eq_ok_iff, hc, ih hcs, List.forall_mem_cons]
      constructor
      · rintro ⟨c', ⟨rfl, hkept⟩, cs', ⟨rfl, hall⟩, ⟨⟩⟩
        exact ⟨rfl, hkept, hall⟩
      · rintro ⟨rfl, hkept, hall⟩
        exact ⟨c, ⟨rfl, hkept⟩, cs, ⟨rfl, hall⟩, rfl⟩

/-- A group without children is read as a node that says nothing. -/
theorem decode_kept_group_nil (j : Option Connective) (depth : Nat) (d : Condition) :
    decode skippable (kept tooDeep depth (group j []).toJson) ≠ .ok d := by
  rw [toJson, Doc.kept_object]
  cases tooDeep (depth + 1) with
  | some f => simp [decode]
  | none =>
      have hmembers := decodeMembers_joinerMember skippable tooDeep j (depth + 1) []
      rw [List.append_nil] at hmembers
      simp [decode, hmembers, decodeMembers, bind, Except.bind, NodeFields.finish]

/-- A group with children is read by reading these, if it is not too deep. -/
theorem decode_kept_group_cons (j : Option Connective) (child : Condition)
    (children : List Condition) (depth : Nat) (d : Condition) :
    decode skippable (kept tooDeep depth (group j (child :: children)).toJson) = .ok d ↔
      tooDeep (depth + 1) = none ∧ tooDeep (depth + 2) = none ∧
        ∃ ds, decodeAll skippable
            (keptItems tooDeep (depth + 2) (toJsonAll (child :: children))) = .ok ds ∧
          NodeFields.finish ⟨j.map some, none, some ds⟩ = .ok d := by
  rw [toJson_group_cons, Doc.kept_object]
  cases hobject : tooDeep (depth + 1) with
  | some f => simp [decode]
  | none =>
      rw [Doc.keptMembers_append, decode, decodeMembers_joinerMember, keptMembers, Doc.kept_array]
      cases harray : tooDeep (depth + 2) with
      | some f =>
          simp [decodeMembers, decodeChildren, setOnce, Except.map, bind, Except.bind]
      | none =>
          cases hread : decodeAll skippable
              (keptItems tooDeep (depth + 2) (toJsonAll (child :: children))) <;>
            simp [hread, keptMembers, decodeMembers, decodeChildren, setOnce, Except.map, bind,
              Except.bind]

/-! ## What is read back

From here on a level that is kept has kept levels above it only. -/

variable (hmono : ∀ m n, m ≤ n → tooDeep n = none → tooDeep m = none)
include hmono

/-- What is kept at a level is kept above it. -/
theorem IsKept.of_le {depth k : Nat} {c : Condition} (h : c.IsKept tooDeep depth)
    (hk : k ≤ depth + 2) : tooDeep k = none := by
  obtain ⟨n, hn⟩ := h.1.exists_mem_leafDepths
  exact hmono k (depth + 2 * n + 2) (by omega) (h.2 n hn)

theorem isKept_leaf_iff {depth : Nat} {j : Option Connective} {l : Comparison} :
    (leaf j l).IsKept tooDeep depth ↔
      tooDeep (depth + 1) = none ∧ tooDeep (depth + 2) = none := by
  simp only [IsKept, isInhabited_leaf, leafDepths, List.mem_singleton, forall_eq, true_and]
  constructor
  · intro h
    exact ⟨hmono _ _ (by omega) h, h⟩
  · exact And.right

theorem isKept_group_iff {depth : Nat} {j : Option Connective} {cs : List Condition} :
    (group j cs).IsKept tooDeep depth ↔
      tooDeep (depth + 1) = none ∧ tooDeep (depth + 2) = none ∧ cs ≠ [] ∧
        ∀ c ∈ cs, c.IsKept tooDeep (depth + 2) := by
  constructor
  · intro h
    refine ⟨h.of_le tooDeep hmono (by omega), h.of_le tooDeep hmono (by omega), ?_⟩
    obtain ⟨hinhabited, hdepths⟩ := h
    obtain ⟨hcs, hall⟩ := isInhabited_group_iff.mp hinhabited
    refine ⟨hcs, fun c hc => ⟨hall c hc, fun n hn => ?_⟩⟩
    have hlevel := forall_mem_leafDepths_group.mp hdepths c hc n hn
    rwa [show depth + 2 * (n + 1) + 2 = depth + 2 + 2 * n + 2 by omega] at hlevel
  · rintro ⟨-, -, hcs, hall⟩
    refine ⟨isInhabited_group_iff.mpr ⟨hcs, fun c hc => (hall c hc).1⟩, ?_⟩
    refine forall_mem_leafDepths_group.mpr fun c hc n hn => ?_
    have hlevel := (hall c hc).2 n hn
    rwa [show depth + 2 + 2 * n + 2 = depth + 2 * (n + 1) + 2 by omega] at hlevel

theorem decode_kept_leaf_iff (j : Option Connective) (l : Comparison) (depth : Nat)
    (d : Condition) :
    decode skippable (kept tooDeep depth (leaf j l).toJson) = .ok d ↔
      d = leaf j l ∧ (leaf j l).IsKept tooDeep depth := by
  rw [isKept_leaf_iff tooDeep hmono, toJson, Doc.kept_object]
  cases hobject : tooDeep (depth + 1) with
  | some f => simp [decode]
  | none =>
      rw [Doc.keptMembers_append, decode, decodeMembers_joinerMember]
      by_cases hcomparison : tooDeep (depth + 2) = none
      · cases j <;> simp [keptMembers, decodeMembers, Comparison.decode?_kept, hcomparison, setOnce,
          Except.map, bind, Except.bind, NodeFields.finish, eq_comm]
      · simp [keptMembers, decodeMembers, Comparison.decode?_kept, hcomparison, setOnce, Except.map,
          bind, Except.bind]

theorem decode_kept_group_iff {cs : List Condition} {j : Option Connective} {depth : Nat}
    (h : ∀ c ∈ cs, ∀ d, decode skippable (kept tooDeep (depth + 2) c.toJson) = .ok d ↔
      d = c ∧ c.IsKept tooDeep (depth + 2)) (d : Condition) :
    decode skippable (kept tooDeep depth (group j cs).toJson) = .ok d ↔
      d = group j cs ∧ (group j cs).IsKept tooDeep depth := by
  rw [isKept_group_iff tooDeep hmono]
  cases cs with
  | nil =>
      constructor
      · intro hread
        exact absurd hread (decode_kept_group_nil skippable tooDeep j depth d)
      · rintro ⟨-, -, -, hne, -⟩
        exact absurd rfl hne
  | cons child children =>
      have hfinish : NodeFields.finish ⟨j.map some, none, some (child :: children)⟩ =
          .ok (group j (child :: children)) := by
        cases j <;> rfl
      rw [decode_kept_group_cons]
      simp only [decodeAll_kept_iff skippable tooDeep h]
      constructor
      · rintro ⟨hobject, harray, ds, ⟨rfl, hall⟩, hd⟩
        rw [hfinish] at hd
        cases hd
        exact ⟨rfl, hobject, harray, List.cons_ne_nil _ _, hall⟩
      · rintro ⟨rfl, hobject, harray, -, hall⟩
        exact ⟨hobject, harray, _, ⟨rfl, hall⟩, hfinish⟩

/-- **What is kept of a written condition is read as that condition**, if enough of it is
kept, and is otherwise refused. -/
theorem decode_kept_toJson_iff (c : Condition) (depth : Nat) (d : Condition) :
    decode skippable (kept tooDeep depth c.toJson) = .ok d ↔ d = c ∧ c.IsKept tooDeep depth := by
  induction c using Condition.induction generalizing depth d with
  | leaf joiner comparison => exact decode_kept_leaf_iff skippable tooDeep hmono _ _ _ _
  | group joiner children ih =>
      exact decode_kept_group_iff skippable tooDeep hmono (fun c hc => ih c hc (depth + 2)) d

end Condition

end Reading

/-! ## The whole document and its text -/

namespace Condition

theorem ofJson_toJson_eq_ok_iff (c d : Condition) :
    ofJson c.toJson = .ok d ↔ d = c ∧ c.IsInhabited := by
  have hread := decode_kept_toJson_iff (fun _ : Json => true) (fun _ => (none : Option Empty))
    (fun _ _ _ _ => rfl) c 0 d
  rw [Doc.kept_eq_self c.isTextual_toJson] at hread
  rw [ofJson, hread, IsKept]
  simp

/-- Reading a text to its end, given the draft it begins with. -/
theorem ofJsonText_of_readDraft {text : String} {draft : Draft}
    (h : Json.readDraft Json.depthLimit text = (draft, true)) :
    ofJsonText text = decode Draft.skippable draft := by
  rw [ofJsonText, h]
  show (decode Draft.skippable draft >>= fun c => pure c) = decode Draft.skippable draft
  exact bind_pure _

/-- Two levels for each group above a leaf and two for the leaf are within the limit. -/
theorem beyond_depthLimit_eq_none_iff (n : Nat) :
    Json.beyond Json.depthLimit (0 + 2 * n + 2) = none ↔ n ≤ 62 := by
  rw [Json.beyond_eq_none_iff, Json.depthLimit]
  omega

theorem ofJsonText_toJsonText_eq_ok_iff (c d : Condition) :
    ofJsonText c.toJsonText = .ok d ↔ d = c ∧ c.IsInhabited ∧ ∀ n ∈ c.leafDepths, n ≤ 62 := by
  have hread := decode_kept_toJson_iff Draft.skippable (Json.beyond Json.depthLimit)
    (fun _ _ => Json.beyond_eq_none_of_le) c 0 d
  simp only [IsKept, beyond_depthLimit_eq_none_iff] at hread
  rw [toJsonText, ofJsonText_of_readDraft (Json.readDraft_compact _ c.isTextual_toJson), hread]

end Condition

end FilterQuery
