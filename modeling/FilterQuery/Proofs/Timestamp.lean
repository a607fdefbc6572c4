/-
# FilterQuery.Proofs.Timestamp -- timestamps that are read back

A timestamp is written with leading zeros, and with a sign where the year needs one, and the
reader, who asks for neither, takes all of it back: `read_text` holds of every timestamp, from
the first day of year -262143 to the last of year 262142, with or without a second 60.

The reader goes through the text field by field. A field ends where no digit follows, and all
of them do, since a separator stands behind each (`readField_padded`). The year has as many
digits as it needs, so that it takes the sign to tell the reader so (`readYear_yearText`).
-/
import FilterQuery.Proofs.Number.Digits
import FilterQuery.Timestamp

namespace FilterQuery

theorem isBlank_of_isDigit {c : Char} (h : c.isDigit = true) : isBlank c = false := by
  simp only [Char.isDigit, Bool.and_eq_true, decide_eq_true_eq, ge_iff_le,
    UInt32.le_iff_toNat_le] at h
  have hlow : 48 ≤ c.toNat := h.1
  have hhigh : c.toNat ≤ 57 := h.2
  unfold isBlank
  simp only [Bool.or_eq_false_iff, Bool.and_eq_false_iff, beq_eq_false_iff_ne,
    decide_eq_false_iff_not]
  omega

namespace Timestamp

/-! ## Numbers with leading zeros -/

theorem isDigits_padded (width n : Nat) : isDigits (padded width n) = true := by
  obtain ⟨hne, hdigits⟩ := isDigits_iff.mp (isDigits_toDigits n)
  rw [isDigits_iff]
  refine ⟨by simp [padded, hne], ?_⟩
  intro c hc
  rcases List.mem_append.mp hc with hzero | hdigit
  · rw [List.eq_of_mem_replicate hzero]
    decide
  · exact hdigits c hdigit

theorem digitsValue_padded (width n : Nat) : digitsValue (padded width n) = n := by
  rw [padded, digitsValue, Nat.ofDigitChars_append, Nat.ofDigitChars_replicate_zero, Nat.mul_zero]
  exact digitsValue_toDigits n

/-- A number that fits its width takes up all of it. -/
theorem length_padded {width n : Nat} (hwidth : 0 < width) (hn : n < 10 ^ width) :
    (padded width n).length = width := by
  have hfits := (Nat.length_toDigits_le_iff (b := 10) (by decide) hwidth).mpr hn
  simp only [padded, List.length_append, List.length_replicate]
  omega

/-- **Digits are split off** where none follows. -/
theorem takeDigits_append {digits rest : List Char} (hdigits : ∀ c ∈ digits, c.isDigit = true)
    (hrest : ∀ c ∈ rest.head?, c.isDigit = false) {limit : Nat} (hlimit : digits.length ≤ limit) :
    takeDigits limit (digits ++ rest) = (digits, rest) := by
  induction digits generalizing limit with
  | nil =>
      cases limit with
      | zero => rfl
      | succ limit =>
          cases rest with
          | nil => rfl
          | cons c rest =>
              have hc : c.isDigit = false := hrest c rfl
              simp [takeDigits, hc]
  | cons c digits ih =>
      obtain ⟨hc, hdigits⟩ := List.forall_mem_cons.mp hdigits
      obtain ⟨limit, rfl⟩ := Nat.exists_eq_add_of_le' (show 1 ≤ limit by simp at hlimit; omega)
      rw [List.cons_append, takeDigits, if_pos hc, ih hdigits (by simpa using hlimit)]

theorem readNumber_padded {width n limit : Nat} (hlimit : (padded width n).length ≤ limit)
    {rest : List Char} (hrest : ∀ c ∈ rest.head?, c.isDigit = false) :
    readNumber limit (padded width n ++ rest) = some (n, rest) := by
  obtain ⟨hne, hdigits⟩ := isDigits_iff.mp (isDigits_padded width n)
  rw [readNumber, takeDigits_append hdigits hrest hlimit]
  simp [hne, digitsValue_padded]

/-! ## Fields -/

theorem exists_padded_eq_cons (width n : Nat) :
    ∃ c digits, padded width n = c :: digits ∧ c.isDigit = true := by
  obtain ⟨hne, hdigits⟩ := isDigits_iff.mp (isDigits_padded width n)
  obtain ⟨c, digits, hcons⟩ := List.exists_cons_of_ne_nil hne
  exact ⟨c, digits, hcons, hdigits c (by simp [hcons])⟩

/-- A number has no blanks in front of it. -/
theorem dropWhile_isBlank_padded (width n : Nat) (rest : List Char) :
    (padded width n ++ rest).dropWhile isBlank = padded width n ++ rest := by
  obtain ⟨c, digits, hcons, hc⟩ := exists_padded_eq_cons width n
  have hblank : isBlank c = false := isBlank_of_isDigit hc
  rw [hcons, List.cons_append, List.dropWhile_cons_of_neg (by simp [hblank])]

/-- **A field of two digits** is read as its number. -/
theorem readField_padded {n : Nat} (hn : n < 100) {rest : List Char}
    (hrest : ∀ c ∈ rest.head?, c.isDigit = false) :
    readField (padded 2 n ++ rest) = some (n, rest) := by
  have hlength : (padded 2 n).length = 2 := length_padded (by decide) hn
  rw [readField, dropWhile_isBlank_padded, readNumber_padded hlength.le hrest]

/-- A blank before a field is passed over. -/
theorem readField_blank (text : List Char) : readField (' ' :: text) = readField text := by
  have hblank : isBlank ' ' = true := by decide
  rw [readField, List.dropWhile_cons_of_pos hblank, readField]

/-! ## Years -/

theorem readYear_minus (text : List Char) :
    readYear ('-' :: text) =
      (readNumber text.length text).map fun (n, rest) => (-(n : Int), rest) := by
  have hblank : isBlank '-' = false := by decide
  rw [readYear, List.dropWhile_cons_of_neg (by simp [hblank])]
  rfl

theorem readYear_plus (text : List Char) :
    readYear ('+' :: text) =
      (readNumber text.length text).map fun (n, rest) => ((n : Int), rest) := by
  have hblank : isBlank '+' = false := by decide
  rw [readYear, List.dropWhile_cons_of_neg (by simp [hblank])]
  rfl

/-- Without a sign, a year ends after four digits. -/
theorem readYear_of_isDigit {c : Char} (hc : c.isDigit = true) (text : List Char) :
    readYear (c :: text) =
      (readNumber 4 (c :: text)).map fun (n, rest) => ((n : Int), rest) := by
  have hblank : isBlank c = false := isBlank_of_isDigit hc
  have hminus : c ≠ '-' := by
    rintro rfl
    cases hc
  have hplus : c ≠ '+' := by
    rintro rfl
    cases hc
  rw [readYear, List.dropWhile_cons_of_neg (by simp [hblank])]
  split
  · next heq => exact absurd (List.cons.inj heq).1 hminus
  · next heq => exact absurd (List.cons.inj heq).1 hplus
  · rfl

/-- **A year is read back**, with its sign if it is written with one. -/
theorem readYear_yearText (year : Int) (rest : List Char) :
    readYear (yearText year ++ '-' :: rest) = some (year, '-' :: rest) := by
  have hrest : ∀ c ∈ ('-' :: rest).head?, c.isDigit = false := by
    rintro c ⟨⟩
    decide
  -- behind a sign, the limit is the length of what is left
  have hlimit : (padded 4 year.natAbs).length ≤ (padded 4 year.natAbs ++ '-' :: rest).length := by
    simp
  unfold yearText
  split_ifs with hnegative hlarge
  · rw [List.cons_append, readYear_minus, readNumber_padded hlimit hrest, Option.map_some]
    show some (-(year.natAbs : Int), '-' :: rest) = some (year, '-' :: rest)
    rw [show -(year.natAbs : Int) = year by omega]
  · rw [List.cons_append, readYear_plus, readNumber_padded hlimit hrest, Option.map_some]
    show some ((year.natAbs : Int), '-' :: rest) = some (year, '-' :: rest)
    rw [show (year.natAbs : Int) = year by omega]
  · have hlength : (padded 4 year.natAbs).length = 4 := length_padded (by decide) (by omega)
    have hnumber := readNumber_padded hlength.le hrest
    obtain ⟨c, digits, hcons, hc⟩ := exists_padded_eq_cons 4 year.natAbs
    rw [hcons, List.cons_append] at hnumber ⊢
    rw [readYear_of_isDigit hc, hnumber, Option.map_some]
    show some ((year.natAbs : Int), '-' :: rest) = some (year, '-' :: rest)
    rw [show (year.natAbs : Int) = year by omega]

/-! ## Timestamps -/

theorem daysInMonth_le (year : Int) (month : Nat) : daysInMonth year month ≤ 31 := by
  unfold daysInMonth
  split_ifs <;> omega

theorem chars_eq (t : Timestamp) :
    t.chars = yearText t.year ++ '-' :: (padded 2 t.month ++ '-' :: (padded 2 t.day ++
      ' ' :: (padded 2 t.hour ++ ':' :: (padded 2 t.minute ++ ':' :: (padded 2 t.second ++ []))))) := by
  simp [chars]

theorem ofChars?_chars (t : Timestamp) : ofChars? t.chars = some t := by
  have hmonth : t.month < 100 := by
    have := t.month_bounds
    omega
  have hday : t.day < 100 := by
    have := t.day_bounds
    have := daysInMonth_le t.year t.month
    omega
  have hhour : t.hour < 100 := by
    have := t.hour_lt
    omega
  have hminute : t.minute < 100 := by
    have := t.minute_lt
    omega
  have hsecond : t.second < 100 := by
    have := t.second_le
    omega
  have hseparated : ∀ {separator : Char}, separator.isDigit = false → ∀ rest : List Char,
      ∀ c ∈ (separator :: rest).head?, c.isDigit = false := by
    rintro separator hseparator rest c ⟨⟩
    exact hseparator
  have hdash : '-'.isDigit = false := by decide
  have hspace : ' '.isDigit = false := by decide
  have hcolon : ':'.isDigit = false := by decide
  have hend : ∀ c ∈ ([] : List Char).head?, c.isDigit = false := fun _ h => nomatch h
  rw [chars_eq, ofChars?]
  simp only [Option.bind_eq_bind, readYear_yearText, Option.bind_some, expect, if_true,
    readField_padded hmonth (hseparated hdash _), readField_padded hday (hseparated hspace _),
    readField_blank, readField_padded hhour (hseparated hcolon _),
    readField_padded hminute (hseparated hcolon _),
    readField_padded hsecond hend, List.isEmpty_nil]
  exact ofFields?_self t

/-- **Every timestamp is read back** from its text. -/
theorem read_text (t : Timestamp) : read t.text = some t := by
  rw [read, text, String.toList_ofList, ofChars?_chars]

end Timestamp

end FilterQuery
