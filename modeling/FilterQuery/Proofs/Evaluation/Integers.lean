/-
# FilterQuery.Proofs.Evaluation.Integers -- how integers are compared with literals

An integer meets a literal in three ways. Equality with an integer literal is equality of
integers. The orderings take both to their nearest doubles first, and a literal with a
fraction is a double from the start. So all but the first depend on what doubles keep of the
order of integers, and `evaluate_integer` says which order that is: the integers' own, except
that two of them which are nearest to one double count as equal.

The exception is confined to integers beyond `2 ^ 53` that lie within `2 ^ 10` of each other.
It is there, however, and the identifiers of some systems are as large as that:
`evaluate_integer_ne` shows one of which `id>9007199254740992` should hold and does not.
-/
import FilterQuery.Proofs.Evaluation.Leaves
import FilterQuery.Proofs.Number.Digits
import FilterQuery.Proofs.Record.Lookup

namespace FilterQuery

/-! ## Comparisons of integers -/

/-- **What a comparison says of two integers.** -/
def CompareOp.Relates : CompareOp → Int → Int → Prop
  | .eq, n, k => n = k
  | .lt, n, k => n < k
  | .le, n, k => n ≤ k
  | .gt, n, k => k < n
  | .ge, n, k => k ≤ n

theorem CompareOp.holds_compare_iff (op : CompareOp) (n k : Int) :
    op.holds (some (compare n k)) = true ↔ op.Relates n k := by
  rcases lt_trichotomy n k with hlt | rfl | hgt
  · rw [compare_lt_iff_lt.mpr hlt]
    cases op <;> simp [holds, Relates] <;> omega
  · rw [compare_eq_iff_eq.mpr rfl]
    cases op <;> simp [holds, Relates]
  · rw [compare_gt_iff_gt.mpr hgt]
    cases op <;> simp [holds, Relates] <;> omega

/-! ## Literals -/

/-- An integer literal behind which a fraction is written is no integer literal. -/
theorem readInt64_zeroFraction {literal : String} {k : Int64}
    (h : readInt64 literal.toList = some k) : readInt64 (literal ++ ".0").toList = none := by
  obtain ⟨hdigits, -⟩ := readInteger_eq_some_iff.mp (readInteger_of_readInt64 h)
  have hsplit := splitSign_append (ne_nil_of_isDigits hdigits) ['.', '0']
  have hchars : (literal ++ ".0").toList = literal.toList ++ ['.', '0'] := by simp
  have hpoint : isDigits ((splitSign literal.toList).2 ++ ['.', '0']) = false := by
    simp [isDigits]
  rw [readInt64, hchars]
  have hnone : readInteger (literal.toList ++ ['.', '0']) = none := by
    rw [readInteger, hsplit]
    simp [hpoint]
  rw [hnone]
  rfl

theorem natAbs_toInt_le (n : Int64) : n.toInt.natAbs ≤ 2 ^ 63 := by
  have hlow := n.le_toInt
  have hhigh := n.toInt_lt
  omega

theorem signedUnits_natAbs (n : Int) : Double.signedUnits (decide (n < 0)) n.natAbs = n := by
  unfold Double.signedUnits
  split_ifs with h <;> simp at h <;> omega

namespace Double

theorem compare?_ofInt (n k : Int64) :
    (ofInt n.toInt).compare? (ofInt k.toInt) = some (nearestOrder n.toInt k.toInt) := by
  have hcompare := compare?_ofRatio (decide (n.toInt < 0)) (decide (k.toInt < 0))
    (natAbs_toInt_le n) (natAbs_toInt_le k)
  rwa [signedUnits_natAbs, signedUnits_natAbs] at hcompare

/-- **With a fraction of zero behind it, a literal is the double nearest to its integer.** -/
theorem compare?_zeroFraction (n : Int64) {literal : String} {k : Int64}
    (h : readInt64 literal.toList = some k) :
    (ofInt n.toInt).compare? (floatOrZero (literal ++ ".0")) =
      some (nearestOrder n.toInt k.toInt) := by
  obtain ⟨hdigits, hk⟩ := readInteger_eq_some_iff.mp (readInteger_of_readInt64 h)
  have hchars : (literal ++ ".0").toList = literal.toList ++ ['.', '0'] := by simp
  have hfloat : floatOrZero (literal ++ ".0") = ofRatio .double (splitSign literal.toList).1
      (digitsValue (splitSign literal.toList).2) 1 := by
    rw [floatOrZero, hchars, read_zeroFraction hdigits, Option.map_some, Option.getD_some,
      ofNumeral_zeroFraction]
  have hbound : digitsValue (splitSign literal.toList).2 ≤ 2 ^ 63 := by
    have hrange := natAbs_toInt_le k
    rw [hk] at hrange
    unfold signedUnits at hrange
    split_ifs at hrange <;> omega
  have hcompare := compare?_ofRatio (decide (n.toInt < 0)) (splitSign literal.toList).1
    (natAbs_toInt_le n) hbound
  rw [hfloat, hk]
  rwa [signedUnits_natAbs] at hcompare

end Double

/-! ## Integers against literals -/

open Double (nearestOrder)

theorem Value.satisfies_int (n : Int64) {literal : String} {k : Int64}
    (h : readInt64 literal.toList = some k) (op : CompareOp) :
    (Value.int n).satisfies op literal =
      if op = .eq then n == k else op.holds (some (nearestOrder n.toInt k.toInt)) := by
  simp only [Value.satisfies, h, Double.compare?_ofInt]

theorem Value.satisfies_int_zeroFraction (n : Int64) {literal : String} {k : Int64}
    (h : readInt64 literal.toList = some k) (op : CompareOp) :
    (Value.int n).satisfies op (literal ++ ".0") =
      op.holds (some (nearestOrder n.toInt k.toInt)) := by
  simp only [Value.satisfies, readInt64_zeroFraction h, Double.compare?_zeroFraction n h]

namespace Condition

/-- **An integer against an integer literal**, written with or without a fraction of zero. They
are compared in the order of their nearest doubles, except for equality without a fraction,
which is exact. That order is the order of the integers unless both lie beyond `2 ^ 53` and
close to each other. -/
theorem evaluate_integer {r : Record} {name : String} {n : Int64} (hname : name ≠ "")
    (hlookup : r.lookup name = .ok (some (.int n))) {literal : String} {k : Int64}
    (hliteral : readInt64 literal.toList = some k) (j : Option Connective) (op : CompareOp) :
    (leaf j ⟨name, some op, literal⟩).evaluate r =
        .ok (if op = .eq then n == k else op.holds (some (nearestOrder n.toInt k.toInt))) ∧
      (leaf j ⟨name, some op, literal ++ ".0"⟩).evaluate r =
        .ok (op.holds (some (nearestOrder n.toInt k.toInt))) ∧
      (nearestOrder n.toInt k.toInt ≠ compare n.toInt k.toInt →
        2 ^ 53 ≤ n.toInt.natAbs ∧ 2 ^ 53 ≤ k.toInt.natAbs ∧ (n.toInt - k.toInt).natAbs ≤ 2 ^ 10) ∧
      (op.holds (some (compare n.toInt k.toInt)) = true ↔ op.Relates n.toInt k.toInt) := by
  refine ⟨?_, ?_, ?_, op.holds_compare_iff _ _⟩
  · rw [evaluate_leaf_of_lookup hname hlookup, Value.satisfies_int n hliteral]
  · rw [evaluate_leaf_of_lookup hname hlookup, Value.satisfies_int_zeroFraction n hliteral]
  · intro hne
    unfold nearestOrder at hne
    split_ifs at hne with hsame
    · rcases Double.eq_or_near_of_nearestInt_eq (natAbs_toInt_le n) (natAbs_toInt_le k) hsame with
        heq | hnear
      · exact absurd (compare_eq_iff_eq.mpr heq).symm hne
      · exact hnear
    · exact absurd rfl hne

/-- An object whose identifier is the first integer that is no double. -/
def largeIdentifier : Record := .ofObject [("id", .number (.int 9007199254740993))]

theorem evaluate_integer_large :
    "id" ≠ "" ∧ largeIdentifier.lookup "id" = .ok (some (.int 9007199254740993)) ∧
      readInt64 "9007199254740992".toList = some 9007199254740992 ∧
      (leaf none ⟨"id", some .gt, "9007199254740992"⟩).evaluate largeIdentifier = .ok false ∧
      (leaf none ⟨"id", some .eq, "9007199254740992" ++ ".0"⟩).evaluate largeIdentifier =
        .ok true := by
  have hname : "id" ≠ "" := by decide
  have hlookup : largeIdentifier.lookup "id" = .ok (some (.int 9007199254740993)) := by
    decide +kernel
  have hliteral : readInt64 "9007199254740992".toList = some 9007199254740992 := by decide +kernel
  have hgreater := (evaluate_integer hname hlookup hliteral none .gt).1
  have hequal := (evaluate_integer hname hlookup hliteral none .eq).2.1
  refine ⟨hname, hlookup, hliteral, hgreater.trans ?_, hequal.trans ?_⟩
  · decide +kernel
  · decide +kernel

/-- **The comparison is not always that of the integers**: of two neighbours beyond `2 ^ 53` the
greater does not count as greater. -/
theorem evaluate_integer_ne :
    ¬∀ (r : Record) (name : String) (n k : Int64) (op : CompareOp), name ≠ "" →
      r.value name = some (.int n) →
      ∀ literal ∈ [integerText k.toInt, integerText k.toInt ++ ".0"],
        ((leaf none ⟨name, some op, literal⟩).evaluate r = .ok true ↔
          op.Relates n.toInt k.toInt) := by
  intro h
  have hvalue : largeIdentifier.value "id" = some (.int 9007199254740993) := by decide +kernel
  have hexact := h largeIdentifier "id" 9007199254740993 9007199254740992 .gt (by decide) hvalue
    (integerText (9007199254740992 : Int64).toInt) (by simp)
  have hgreater : CompareOp.gt.Relates (9007199254740993 : Int64).toInt
      (9007199254740992 : Int64).toInt := by
    show (9007199254740992 : Int64).toInt < (9007199254740993 : Int64).toInt
    decide
  have hmissed : (leaf none ⟨"id", some .gt, integerText (9007199254740992 : Int64).toInt⟩).evaluate
      largeIdentifier = .ok false := by
    decide +kernel
  rw [hexact.mpr hgreater] at hmissed
  cases hmissed

end Condition

end FilterQuery
