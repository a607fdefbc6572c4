/-
# FilterQuery.Proofs.Number.Digits -- decimal digits that are read back

An integer is written as a minus, if it is negative, and its digits, and every way of reading
numbers takes that back: `readInteger_integerText` reads it as an integer, and
`readInt64_integerText` within 64 bits.

An integer literal with a fraction of zero is a numeral, and the double it means is the one
nearest to the integer (`ofNumeral_zeroFraction`).
-/
import FilterQuery.Proofs.Number.Rounding

namespace FilterQuery

/-! ## Digits -/

theorem isDigits_toDigits (n : Nat) : isDigits (Nat.toDigits 10 n) = true := by
  have hdigits : (Nat.toDigits 10 n).all Char.isDigit = true := by
    rw [List.all_eq_true]
    intro c hc
    exact Nat.isDigit_of_mem_toDigits (by decide) (by decide) hc
  have hne : (Nat.toDigits 10 n).isEmpty = false := by simp
  rw [isDigits, hdigits, hne]
  rfl

theorem isDigits_iff {text : List Char} :
    isDigits text = true ↔ text ≠ [] ∧ ∀ c ∈ text, c.isDigit = true := by
  simp [isDigits]

/-- Digits have no sign in front of them. -/
theorem splitSign_of_isDigits {digits : List Char} (h : isDigits digits = true) :
    splitSign digits = (false, digits) := by
  unfold splitSign
  split
  · simp [isDigits] at h
  · simp [isDigits] at h
  · rfl

/-! ## Integers -/

/-- **A text that spells an integer**: a sign or none, and digits. -/
theorem readInteger_eq_some_iff {text : List Char} {n : Int} :
    readInteger text = some n ↔
      isDigits (splitSign text).2 = true ∧
        n = Double.signedUnits (splitSign text).1 (digitsValue (splitSign text).2) := by
  have hread : readInteger text =
      if isDigits (splitSign text).2 = true then
        some (Double.signedUnits (splitSign text).1 (digitsValue (splitSign text).2))
      else none := rfl
  rw [hread]
  split_ifs with hdigits
  · simp [hdigits, eq_comm]
  · simp [hdigits]

theorem readInteger_integerText (n : Int) : readInteger (integerText n).toList = some n := by
  have hdigits := isDigits_toDigits n.natAbs
  unfold integerText
  split_ifs with hn
  · have hsplit : splitSign ("-" ++ String.ofList (Nat.toDigits 10 n.natAbs)).toList =
        (true, Nat.toDigits 10 n.natAbs) := by
      simp [splitSign]
    rw [readInteger_eq_some_iff, hsplit, digitsValue_toDigits]
    refine ⟨hdigits, ?_⟩
    show n = -(n.natAbs : Int)
    omega
  · rw [String.toList_ofList, readInteger_eq_some_iff, splitSign_of_isDigits hdigits,
      digitsValue_toDigits]
    refine ⟨hdigits, ?_⟩
    show n = (n.natAbs : Int)
    omega

/-- **An integer of 64 bits is read back** from its text. -/
theorem readInt64_integerText (n : Int64) : readInt64 (integerText n.toInt).toList = some n := by
  have hlow := n.le_toInt
  have hhigh := n.toInt_lt
  have hfits : fitsInt64 n.toInt = true := by
    simp only [fitsInt64, Bool.and_eq_true, decide_eq_true_eq]
    omega
  rw [readInt64, readInteger_integerText]
  simp [hfits]

theorem readInteger_of_readInt64 {text : List Char} {n : Int64} (h : readInt64 text = some n) :
    readInteger text = some n.toInt := by
  obtain ⟨m, hm, hfits⟩ := Option.bind_eq_some_iff.mp h
  split_ifs at hfits with hrange
  simp only [fitsInt64, Bool.and_eq_true, decide_eq_true_eq] at hrange
  rw [← Option.some.inj hfits, Int64.toInt_ofInt_of_le (by omega) (by omega), hm]

/-! ## A fraction of zero -/

theorem splitSign_append {text : List Char} (hne : text ≠ []) (tail : List Char) :
    splitSign (text ++ tail) = ((splitSign text).1, (splitSign text).2 ++ tail) := by
  obtain ⟨c, rest, rfl⟩ := List.exists_cons_of_ne_nil hne
  rw [List.cons_append]
  unfold splitSign
  split
  · next heq => simp_all
  · next heq => simp_all
  · next h1 h2 heq => simp_all

theorem toLower_of_isDigit {c : Char} (h : c.isDigit = true) : c.toLower = c := by
  simp only [Char.isDigit, Bool.and_eq_true, decide_eq_true_eq] at h
  unfold Char.toLower
  rw [dif_neg]
  rintro ⟨hletter, -⟩
  exact absurd (UInt32.le_trans hletter h.2) (by decide)

theorem ne_nil_of_isDigits {text : List Char} (h : isDigits (splitSign text).2 = true) :
    text ≠ [] := by
  rintro rfl
  cases h

/-- **A literal whose first character behind the sign is a digit** is none of the words, which
begin with letters. -/
theorem read_of_isDigit {text : List Char} (h : ∃ c ∈ (splitSign text).2.head?, c.isDigit = true) :
    Numeral.read text =
      (Numeral.readMagnitude (splitSign text).1 (splitSign text).2).map .decimal := by
  have hword : ∀ c word, c.isDigit = false → (splitSign text).2.map Char.toLower ≠ c :: word := by
    intro c word hc heq
    obtain ⟨d, hd, hdigit⟩ := h
    have hfirst := congrArg List.head? heq
    rw [List.head?_map, Option.mem_def.mp hd, Option.map_some, toLower_of_isDigit hdigit] at hfirst
    rw [Option.some.inj hfirst, hc] at hdigit
    cases hdigit
  simp only [Numeral.read]
  rw [if_neg, if_neg]
  · exact hword 'n' _ (by decide)
  · rintro (hinf | hinfinity)
    · exact hword 'i' _ (by decide) hinf
    · exact hword 'i' _ (by decide) hinfinity

/-- **A literal behind which a fraction of zero is written** is a numeral. -/
theorem read_zeroFraction {text : List Char} (h : isDigits (splitSign text).2 = true) :
    Numeral.read (text ++ ['.', '0']) =
      some (.decimal ⟨(splitSign text).1, digitsValue (splitSign text).2 * 10, -1⟩) := by
  obtain ⟨hne, hdigits⟩ := isDigits_iff.mp h
  have hsplit := splitSign_append (ne_nil_of_isDigits h) ['.', '0']
  have hwhole : ((splitSign text).2 ++ ['.', '0']).takeWhile Char.isDigit = (splitSign text).2 := by
    rw [List.takeWhile_append_of_pos hdigits]
    simp
  have hfraction : ((splitSign text).2 ++ ['.', '0']).dropWhile Char.isDigit = ['.', '0'] := by
    rw [List.dropWhile_append_of_pos hdigits]
    simp
  have hvalue : digitsValue ((splitSign text).2 ++ ['0']) = digitsValue (splitSign text).2 * 10 := by
    rw [digitsValue, Nat.ofDigitChars_append, Nat.ofDigitChars_cons, Nat.ofDigitChars_nil]
    simp [digitsValue, Nat.mul_comm]
  have hmagnitude : Numeral.readMagnitude (splitSign text).1 ((splitSign text).2 ++ ['.', '0']) =
      some ⟨(splitSign text).1, digitsValue (splitSign text).2 * 10, -1⟩ := by
    simp [Numeral.readMagnitude, hwhole, hfraction, hvalue, Numeral.readExponent]
  have hhead : ∃ c ∈ (splitSign (text ++ ['.', '0'])).2.head?, c.isDigit = true := by
    obtain ⟨d, rest, hrest⟩ := List.exists_cons_of_ne_nil hne
    refine ⟨d, ?_, hdigits d (by simp [hrest])⟩
    rw [hsplit, hrest]
    rfl
  rw [read_of_isDigit hhead, hsplit, hmagnitude]
  rfl

/-- **It means the double nearest to the integer.** -/
theorem ofNumeral_zeroFraction (negative : Bool) (m : Nat) :
    Double.ofNumeral .double (.decimal ⟨negative, m * 10, -1⟩) =
      .ofRatio .double negative m 1 := by
  rcases Nat.eq_zero_or_pos m with rfl | hm
  · rw [Double.ofRatio_eq_finite negative (Nat.zero_le _)]
    simp [Double.ofNumeral, Double.ofDecimal, roundBits, roundDiv]
  · have hdigits : m * 10 ≠ 0 := by omega
    have hhigh : ¬(310 : Int) ≤ -1 := by decide
    have hlow : ¬(-1 : Int) + (m * 10).log2 + 1 < -330 := by omega
    have hnum : m * 10 * Nat.pow 10 (-1 : Int).toNat = m * 10 := Nat.mul_one _
    have hden : Nat.pow 10 (-(-1) : Int).toNat = 1 * 10 := rfl
    have hten : 0 < 10 := by decide
    simp only [Double.ofNumeral, Double.ofDecimal, hdigits, hhigh, hlow, if_false, hnum, hden,
      Double.ofRatio_mul_right .double negative hten]

end FilterQuery
