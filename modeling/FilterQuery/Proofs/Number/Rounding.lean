/-
# FilterQuery.Proofs.Number.Rounding -- what doubles keep of the order of integers

Below `2 ^ 53` every integer is a double. Above, doubles thin out, and neighbouring integers
have one and the same double nearest to them. `Double.nearestInt` is the integer that this
double stands for, and what is known of it is what comparing by way of doubles can be relied
on for:

* it never turns the order of two integers around (`nearestInt_mono`);
* it stays within `2 ^ 9` of a 64-bit integer (`natAbs_nearestInt_sub_le`), and leaves an
  integer below `2 ^ 53` as it is;
* so two integers that it does not tell apart lie beyond `2 ^ 53` and within `2 ^ 10` of each
  other (`eq_or_near_of_nearestInt_eq`).

All of this goes back to one division with a remainder, `roundDiv`.
-/
import FilterQuery.Number.Double
import Mathlib.Algebra.Order.Ring.Int
import Mathlib.Order.Compare

namespace FilterQuery

/-! ## One rounded division -/

section Division

variable {num den c : Nat}

theorem div_le_roundDiv : num / den ≤ roundDiv num den := by
  unfold roundDiv
  dsimp only
  split_ifs <;> omega

theorem roundDiv_le_succ : roundDiv num den ≤ num / den + 1 := by
  unfold roundDiv
  dsimp only
  split_ifs <;> omega

/-- A division without remainder is exact. -/
theorem roundDiv_of_mod_eq_zero (hden : 0 < den) (h : num % den = 0) :
    roundDiv num den = num / den := by
  unfold roundDiv
  rw [h]
  exact if_pos hden

theorem roundDiv_mul_self (hden : 0 < den) : roundDiv (c * den) den = c := by
  rw [roundDiv_of_mod_eq_zero hden (Nat.mul_mod_left c den), Nat.mul_div_cancel c hden]

theorem le_roundDiv (hden : 0 < den) (h : c * den ≤ num) : c ≤ roundDiv num den :=
  ((Nat.le_div_iff_mul_le hden).mpr h).trans div_le_roundDiv

theorem roundDiv_le (hden : 0 < den) (h : num ≤ c * den) : roundDiv num den ≤ c := by
  rcases (num % den).eq_zero_or_pos with hexact | hrest
  · rw [roundDiv_of_mod_eq_zero hden hexact]
    exact Nat.div_le_of_le_mul (by rwa [Nat.mul_comm])
  · -- with a remainder, the quotient is below `c`, so that rounding up does not pass it
    have hsplit := Nat.div_add_mod num den
    have hbelow : num / den * den < c * den := by
      rw [Nat.mul_comm]
      omega
    have hquotient : num / den < c := Nat.lt_of_mul_lt_mul_right hbelow
    exact roundDiv_le_succ.trans hquotient

theorem roundDiv_mono {num' : Nat} (h : num ≤ num') : roundDiv num den ≤ roundDiv num' den := by
  have hquotients : num / den ≤ num' / den := Nat.div_le_div_right h
  rcases Nat.lt_or_eq_of_le hquotients with hlt | heq
  · exact (roundDiv_le_succ.trans hlt).trans div_le_roundDiv
  · have hsplit := Nat.div_add_mod num den
    have hsplit' := Nat.div_add_mod num' den
    rw [heq] at hsplit
    have hrests : num % den ≤ num' % den := by omega
    unfold roundDiv
    rw [heq]
    dsimp only
    split_ifs <;> omega

/-- What dividend and divisor have in common does not count. -/
theorem roundDiv_mul_right (hc : 0 < c) : roundDiv (num * c) (den * c) = roundDiv num den := by
  have hlt : 2 * (num % den * c) < den * c ↔ 2 * (num % den) < den := by
    rw [← Nat.mul_assoc]
    exact Nat.mul_lt_mul_right hc
  have hgt : den * c < 2 * (num % den * c) ↔ den < 2 * (num % den) := by
    rw [← Nat.mul_assoc]
    exact Nat.mul_lt_mul_right hc
  simp only [roundDiv, Nat.mul_div_mul_right _ _ hc, Nat.mul_mod_mul_right, hlt, hgt]

/-- **The rounded quotient is off by half a unit at most.** -/
theorem roundDiv_error (hden : 0 < den) :
    2 * num ≤ 2 * (roundDiv num den * den) + den ∧ 2 * (roundDiv num den * den) ≤ 2 * num + den := by
  have hsplit := Nat.div_add_mod num den
  have hrest : num % den < den := Nat.mod_lt num hden
  have hdown : num / den * den + num % den = num := by rwa [Nat.mul_comm]
  have hup : (num / den + 1) * den = num / den * den + den := Nat.succ_mul _ _
  unfold roundDiv
  dsimp only
  split_ifs <;> omega

end Division

/-! ## Significant bits -/

section Bits

variable {precision a b m s : Nat}

theorem log2_mul_two_pow (ha : a ≠ 0) (s : Nat) : (a * 2 ^ s).log2 = a.log2 + s := by
  have hne : a * 2 ^ s ≠ 0 := Nat.mul_ne_zero ha (Nat.two_pow_pos s).ne'
  rw [Nat.log2_eq_iff hne]
  refine ⟨?_, ?_⟩
  · rw [Nat.pow_add]
    exact Nat.mul_le_mul_right _ (Nat.log2_self_le ha)
  · rw [Nat.add_right_comm, Nat.pow_add]
    exact Nat.mul_lt_mul_of_pos_right Nat.lt_log2_self (Nat.two_pow_pos s)

theorem roundBits_one (precision a : Nat) :
    roundBits precision a 1 =
      roundDiv a (2 ^ (a.log2 + 1 - precision)) * 2 ^ (a.log2 + 1 - precision) := by
  simp only [roundBits, Nat.div_one, Nat.one_mul, Nat.pow_eq]

/-- What numerator and denominator have in common does not count. -/
theorem roundBits_mul_right {num den c : Nat} (hc : 0 < c) :
    roundBits precision (num * c) (den * c) = roundBits precision num den := by
  simp only [roundBits, Nat.mul_div_mul_right _ _ hc, Nat.mul_right_comm den c,
    roundDiv_mul_right hc]

/-- **A number of no more bits than the precision is kept**, whatever zeros follow them. -/
theorem roundBits_of_lt (h : a < 2 ^ precision) (s : Nat) :
    roundBits precision (a * 2 ^ s) 1 = a * 2 ^ s := by
  rcases Nat.eq_zero_or_pos a with rfl | ha
  · simp [roundBits, roundDiv]
  · have hbits : a.log2 < precision := (Nat.log2_lt ha.ne').mpr h
    have hshift : a.log2 + s + 1 - precision ≤ s := by omega
    obtain ⟨t, ht⟩ := Nat.exists_eq_add_of_le' hshift
    rw [roundBits_one, log2_mul_two_pow ha.ne']
    generalize a.log2 + s + 1 - precision = shift at ht ⊢
    rw [ht, Nat.pow_add, ← Nat.mul_assoc, roundDiv_mul_self (Nat.two_pow_pos shift)]

/-- **Rounding does not see a power of two.** -/
theorem roundBits_mul_two_pow (precision a s : Nat) :
    roundBits precision (a * 2 ^ s) 1 = roundBits precision a 1 * 2 ^ s := by
  rcases Nat.lt_or_ge a (2 ^ precision) with hfits | hlong
  · have hkept : roundBits precision a 1 = a := by simpa using roundBits_of_lt hfits 0
    rw [roundBits_of_lt hfits, hkept]
  · have ha : a ≠ 0 := by
      have := Nat.two_pow_pos precision
      omega
    have hbits : precision ≤ a.log2 := by
      have := (Nat.log2_lt ha (k := precision)).not
      omega
    have hshift : a.log2 + s + 1 - precision = (a.log2 + 1 - precision) + s := by omega
    rw [roundBits_one, roundBits_one, log2_mul_two_pow ha, hshift, Nat.pow_add,
      roundDiv_mul_right (Nat.two_pow_pos s), Nat.mul_assoc]

/-- Rounding up stops at the next power of two. -/
theorem roundBits_le_two_pow (hprecision : 0 < precision) (h : a ≤ 2 ^ m) :
    roundBits precision a 1 ≤ 2 ^ m := by
  have hone : 1 < 2 ^ precision := Nat.one_lt_two_pow hprecision.ne'
  rcases Nat.lt_or_eq_of_le h with hlt | rfl
  · rcases Nat.eq_zero_or_pos a with rfl | ha
    · simp [roundBits, roundDiv]
    · -- `2 ^ m` is a multiple of the unit that `a` is rounded to
      have hbits : a.log2 < m := (Nat.log2_lt ha.ne').mpr hlt
      obtain ⟨t, ht⟩ := Nat.exists_eq_add_of_le' (show a.log2 + 1 - precision ≤ m by omega)
      rw [roundBits_one]
      generalize a.log2 + 1 - precision = shift at ht ⊢
      subst ht
      rw [Nat.pow_add] at h ⊢
      exact Nat.mul_le_mul_right _ (roundDiv_le (Nat.two_pow_pos shift) h)
  · simpa using (roundBits_of_lt hone m).le

/-- Rounding down stops at the last power of two. -/
theorem two_pow_le_roundBits (hprecision : 0 < precision) (h : 2 ^ m ≤ a) :
    2 ^ m ≤ roundBits precision a 1 := by
  have ha : a ≠ 0 := by
    have := Nat.two_pow_pos m
    omega
  have hbits : m ≤ a.log2 := (Nat.le_log2 ha).mpr h
  obtain ⟨t, ht⟩ := Nat.exists_eq_add_of_le' (show a.log2 + 1 - precision ≤ a.log2 by omega)
  have hleading := Nat.log2_self_le ha
  rw [roundBits_one]
  generalize a.log2 + 1 - precision = shift at ht ⊢
  rw [ht, Nat.pow_add] at hleading
  calc 2 ^ m ≤ 2 ^ a.log2 := Nat.pow_le_pow_right (by decide) hbits
    _ = 2 ^ t * 2 ^ shift := by rw [ht, Nat.pow_add]
    _ ≤ roundDiv a (2 ^ shift) * 2 ^ shift :=
      Nat.mul_le_mul_right _ (le_roundDiv (Nat.two_pow_pos shift) hleading)

theorem mul_two_pow_lt {limit : Nat} (h : a ≤ 2 ^ m) (hm : m < limit) (s : Nat) :
    a * 2 ^ s < 2 ^ (limit + s) := by
  have hpower : 2 ^ m < 2 ^ limit := Nat.pow_lt_pow_right Nat.one_lt_two hm
  rw [Nat.pow_add]
  exact Nat.mul_lt_mul_of_pos_right (h.trans_lt hpower) (Nat.two_pow_pos s)

/-- **Rounding does not turn an order around.** -/
theorem roundBits_mono (hprecision : 0 < precision) (h : a ≤ b) :
    roundBits precision a 1 ≤ roundBits precision b 1 := by
  rcases Nat.eq_zero_or_pos a with rfl | ha
  · simp [roundBits, roundDiv]
  · have hb : b ≠ 0 := by omega
    have hlog : a.log2 ≤ b.log2 := (Nat.le_log2 hb).mpr ((Nat.log2_self_le ha.ne').trans h)
    rcases Nat.lt_or_eq_of_le hlog with hlt | heq
    · -- a power of two lies between them, and neither rounds past it
      have hpower : 2 ^ (a.log2 + 1) ≤ b := (Nat.le_log2 hb).mp hlt
      exact (roundBits_le_two_pow hprecision Nat.lt_log2_self.le).trans
        (two_pow_le_roundBits hprecision hpower)
    · rw [roundBits_one, roundBits_one, heq]
      exact Nat.mul_le_mul_right _ (roundDiv_mono h)

/-- **How far rounding goes**, for numbers of `s` bits more than the precision. -/
theorem roundBits_error (h : a < 2 ^ (precision + s)) :
    2 * a ≤ 2 * roundBits precision a 1 + 2 ^ s ∧ 2 * roundBits precision a 1 ≤ 2 * a + 2 ^ s := by
  rcases Nat.eq_zero_or_pos a with rfl | ha
  · simp [roundBits, roundDiv]
  · have hbits : a.log2 < precision + s := (Nat.log2_lt ha.ne').mpr h
    have hunit : 2 ^ (a.log2 + 1 - precision) ≤ 2 ^ s :=
      Nat.pow_le_pow_right (by decide) (by omega)
    rw [roundBits_one]
    generalize a.log2 + 1 - precision = shift at hunit ⊢
    obtain ⟨hlow, hhigh⟩ : 2 * a ≤ 2 * (roundDiv a (2 ^ shift) * 2 ^ shift) + 2 ^ shift ∧
        2 * (roundDiv a (2 ^ shift) * 2 ^ shift) ≤ 2 * a + 2 ^ shift :=
      roundDiv_error (Nat.two_pow_pos shift)
    omega

end Bits

/-! ## Integers by way of doubles -/

namespace Double

/-- **The integer that the double nearest to an integer stands for.** -/
def nearestInt (n : Int) : Int :=
  signedUnits (decide (n < 0)) (roundBits BinaryFormat.double.precision n.natAbs 1)

theorem nearestInt_natCast (m : Nat) :
    nearestInt m = roundBits BinaryFormat.double.precision m 1 := by
  have hsign : ¬(m : Int) < 0 := by omega
  simp [nearestInt, signedUnits, hsign]

theorem nearestInt_neg_natCast (m : Nat) :
    nearestInt (-m) = -roundBits BinaryFormat.double.precision m 1 := by
  rcases Nat.eq_zero_or_pos m with rfl | hm
  · simp [nearestInt, signedUnits, roundBits, roundDiv]
  · have hsign : -(m : Int) < 0 := by omega
    simp only [nearestInt, signedUnits, hsign, decide_true, if_true, Int.natAbs_neg,
      Int.natAbs_natCast]

theorem nearestInt_signedUnits (negative : Bool) (units : Nat) :
    nearestInt (signedUnits negative units) =
      signedUnits negative (roundBits BinaryFormat.double.precision units 1) := by
  cases negative with
  | false => exact nearestInt_natCast units
  | true => exact nearestInt_neg_natCast units

theorem double_precision_pos : 0 < BinaryFormat.double.precision := by decide

/-- **The order of integers is not turned around.** -/
theorem nearestInt_mono {n k : Int} (h : n ≤ k) : nearestInt n ≤ nearestInt k := by
  obtain ⟨m, rfl | rfl⟩ := n.eq_nat_or_neg
  · obtain ⟨l, rfl⟩ := Int.eq_ofNat_of_zero_le (show 0 ≤ k by omega)
    have hround := roundBits_mono double_precision_pos (show m ≤ l by omega)
    rw [nearestInt_natCast, nearestInt_natCast]
    omega
  · obtain ⟨l, rfl | rfl⟩ := k.eq_nat_or_neg
    · rw [nearestInt_neg_natCast, nearestInt_natCast]
      omega
    · have hround := roundBits_mono double_precision_pos (show l ≤ m by omega)
      rw [nearestInt_neg_natCast, nearestInt_neg_natCast]
      omega

/-- Rounding works on the magnitude and keeps the sign. -/
theorem nearestInt_cases (n : Int) :
    (n = n.natAbs ∧ nearestInt n = roundBits BinaryFormat.double.precision n.natAbs 1) ∨
      (n = -n.natAbs ∧ nearestInt n = -roundBits BinaryFormat.double.precision n.natAbs 1) := by
  obtain ⟨m, rfl | rfl⟩ := n.eq_nat_or_neg
  · exact Or.inl ⟨rfl, nearestInt_natCast m⟩
  · rw [Int.natAbs_neg, Int.natAbs_natCast]
    exact Or.inr ⟨rfl, nearestInt_neg_natCast m⟩

/-- Integers below `2 ^ 53` are doubles themselves. -/
theorem nearestInt_of_lt {n : Int} (h : n.natAbs < 2 ^ 53) : nearestInt n = n := by
  have hround : roundBits BinaryFormat.double.precision n.natAbs 1 = n.natAbs := roundBits_eq_self h
  rcases nearestInt_cases n with ⟨hsign, hnear⟩ | ⟨hsign, hnear⟩
  · rw [hnear, hround]
    exact hsign.symm
  · rw [hnear, hround]
    exact hsign.symm

/-- From `2 ^ 53` on, integers stay there. -/
theorem two_pow_le_nearestInt {n : Int} (h : 2 ^ 53 ≤ n.natAbs) :
    2 ^ 53 ≤ (nearestInt n).natAbs := by
  have hround := two_pow_le_roundBits double_precision_pos h
  rcases nearestInt_cases n with ⟨-, hnear⟩ | ⟨-, hnear⟩
  · rw [hnear]
    omega
  · rw [hnear]
    omega

/-- A 64-bit integer lies within `2 ^ 9` of its nearest double. -/
theorem natAbs_nearestInt_sub_le {n : Int} (h : n.natAbs ≤ 2 ^ 63) :
    (nearestInt n - n).natAbs ≤ 2 ^ 9 := by
  have hround : (roundBits BinaryFormat.double.precision n.natAbs 1 - n.natAbs : Int).natAbs ≤ 2 ^ 9 := by
    rcases Nat.lt_or_eq_of_le h with hlt | heq
    · -- 63 bits are ten more than a double has
      have hbits : n.natAbs < 2 ^ (BinaryFormat.double.precision + 10) := hlt
      have herror := roundBits_error hbits
      omega
    · have hone : 1 < 2 ^ BinaryFormat.double.precision := by decide
      have hpower := roundBits_of_lt hone 63
      rw [Nat.one_mul] at hpower
      rw [heq, hpower]
      omega
  rcases nearestInt_cases n with ⟨hsign, hnear⟩ | ⟨hsign, hnear⟩
  · rw [hnear]
    omega
  · rw [hnear]
    omega

/-- **Integers that doubles do not tell apart** lie beyond `2 ^ 53`, close to each other. -/
theorem eq_or_near_of_nearestInt_eq {n k : Int} (hn : n.natAbs ≤ 2 ^ 63) (hk : k.natAbs ≤ 2 ^ 63)
    (h : nearestInt n = nearestInt k) :
    n = k ∨ 2 ^ 53 ≤ n.natAbs ∧ 2 ^ 53 ≤ k.natAbs ∧ (n - k).natAbs ≤ 2 ^ 10 := by
  have hnerror := natAbs_nearestInt_sub_le hn
  have hkerror := natAbs_nearestInt_sub_le hk
  rcases Nat.lt_or_ge n.natAbs (2 ^ 53) with hnsmall | hnlarge
  · rw [nearestInt_of_lt hnsmall] at h
    rcases Nat.lt_or_ge k.natAbs (2 ^ 53) with hksmall | hklarge
    · rw [nearestInt_of_lt hksmall] at h
      exact Or.inl h
    · have hfar := two_pow_le_nearestInt hklarge
      omega
  · rcases Nat.lt_or_ge k.natAbs (2 ^ 53) with hksmall | hklarge
    · rw [nearestInt_of_lt hksmall] at h
      have hfar := two_pow_le_nearestInt hnlarge
      omega
    · exact Or.inr ⟨hnlarge, hklarge, by omega⟩

/-! ## Comparing integers as doubles -/

/-- **How two integers are ordered as doubles**: as they are, unless one double is the nearest
to both. -/
def nearestOrder (n k : Int) : Ordering :=
  if nearestInt n = nearestInt k then .eq else compare n k

theorem compare_nearestInt (n k : Int) :
    compare (nearestInt n) (nearestInt k) = nearestOrder n k := by
  unfold nearestOrder
  split_ifs with h
  · exact compare_eq_iff_eq.mpr h
  · rcases lt_trichotomy n k with hlt | rfl | hgt
    · rw [compare_lt_iff_lt.mpr hlt, compare_lt_iff_lt]
      exact lt_of_le_of_ne (nearestInt_mono hlt.le) h
    · exact absurd rfl h
    · rw [compare_gt_iff_gt.mpr hgt, compare_gt_iff_gt]
      exact lt_of_le_of_ne (nearestInt_mono hgt.le) (Ne.symm h)

/-- The double nearest to an integer of 64 bits is finite. -/
theorem ofRatio_eq_finite (negative : Bool) {m : Nat} (h : m ≤ 2 ^ 63) :
    ofRatio .double negative m 1 =
      .finite negative (roundBits BinaryFormat.double.precision m 1 *
        2 ^ BinaryFormat.double.scale) := by
  have hlimit := mul_two_pow_lt (roundBits_le_two_pow double_precision_pos h)
    (show 63 < BinaryFormat.double.limit by decide) BinaryFormat.double.scale
  unfold ofRatio
  simp only [Nat.pow_eq, roundBits_mul_two_pow, hlimit, if_true, Nat.sub_self, Nat.pow_zero,
    Nat.mul_one]

/-- What numerator and denominator have in common does not count. -/
theorem ofRatio_mul_right (format : BinaryFormat) (negative : Bool) {c : Nat} (hc : 0 < c)
    (num den : Nat) :
    ofRatio format negative (num * c) (den * c) = ofRatio format negative num den := by
  simp only [ofRatio, Nat.mul_right_comm num c, roundBits_mul_right hc]

/-- **Integers of 64 bits are compared as doubles** in their nearest order. -/
theorem compare?_ofRatio (a b : Bool) {m l : Nat} (hm : m ≤ 2 ^ 63) (hl : l ≤ 2 ^ 63) :
    (ofRatio .double a m 1).compare? (ofRatio .double b l 1) =
      some (nearestOrder (signedUnits a m) (signedUnits b l)) := by
  have hunits : ∀ (negative : Bool) (units scale : Nat),
      signedUnits negative (units * 2 ^ scale) = signedUnits negative units * 2 ^ scale := by
    intro negative units scale
    cases negative <;> simp [signedUnits]
  have hpos : (0 : Int) < 2 ^ BinaryFormat.double.scale := pow_pos (by decide) _
  rw [ofRatio_eq_finite a hm, ofRatio_eq_finite b hl, compare?, hunits, hunits,
    ← nearestInt_signedUnits, ← nearestInt_signedUnits, ← cmp_eq_compare,
    cmp_mul_pos_right hpos, cmp_eq_compare, compare_nearestInt]

end Double

end FilterQuery
