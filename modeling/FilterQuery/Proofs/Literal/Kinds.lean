/-
# FilterQuery.Proofs.Literal.Kinds -- which literals look like numbers

The scan for numbers goes through a literal one character at a time and passes over commas.
What it accepts is meant to be digits, with a fraction behind a point if there is one
(`IsNumber`). It accepts these, and one family more: the point may be repeated, as in `1..5`,
because a second point is held against a text only if digits stand between it and the first.
`classify_iff` says so, and says of which kind all other literals are.

The scan has a closed form on texts without commas (`looksNumeric_eq`), in which its three
flags are gone: the first digits, the points behind them, and the digits behind these.
-/
import FilterQuery.Literal
import FilterQuery.Proofs.Number.Digits
import Mathlib.Data.List.TakeWhile

namespace FilterQuery

/-! ## What a number is -/

/-- A text without its commas, which stand between thousands. -/
def withoutCommas (text : List Char) : List Char := text.filter (· ≠ ',')

/-- Digits, then so many points, then digits. -/
def IsPointed (points : Nat) (text : List Char) : Prop :=
  ∃ whole fraction, isDigits whole = true ∧ isDigits fraction = true ∧
    text = whole ++ List.replicate points '.' ++ fraction

/-- **A number**: one or more digits, and then, if there is a fraction, one point and one or
more digits. -/
def IsNumber (text : List Char) : Prop := isDigits text = true ∨ IsPointed 1 text

theorem count_point_of_isDigits {text : List Char} (h : isDigits text = true) :
    text.count '.' = 0 := by
  rw [List.count_eq_zero]
  intro hmem
  have hdigit : '.'.isDigit = true := (isDigits_iff.mp h).2 '.' hmem
  cases hdigit

theorem IsPointed.count_point {points : Nat} {text : List Char} (h : IsPointed points text) :
    text.count '.' = points := by
  obtain ⟨whole, fraction, hwhole, hfraction, rfl⟩ := h
  simp [count_point_of_isDigits hwhole, count_point_of_isDigits hfraction]

theorem IsNumber.count_point_le {text : List Char} (h : IsNumber text) : text.count '.' ≤ 1 := by
  rcases h with hdigits | hpointed
  · rw [count_point_of_isDigits hdigits]
    exact Nat.zero_le 1
  · rw [hpointed.count_point]

/-! ## Commas -/

theorem not_mem_withoutCommas (text : List Char) : ',' ∉ withoutCommas text := by
  simp [withoutCommas]

theorem withoutCommas_eq_self {text : List Char} (h : ',' ∉ text) : withoutCommas text = text := by
  rw [withoutCommas, List.filter_eq_self]
  intro c hc
  have hne : c ≠ ',' := by
    rintro rfl
    exact h hc
  simpa using hne

theorem scanNumeric_withoutCommas (numeric started pointSeen : Bool) (text : List Char) :
    scanNumeric numeric started pointSeen (withoutCommas text) =
      scanNumeric numeric started pointSeen text := by
  induction text generalizing numeric started pointSeen with
  | nil => rfl
  | cons c rest ih =>
      by_cases hcomma : c = ','
      · simpa [withoutCommas, hcomma, scanNumeric] using ih numeric started pointSeen
      · have hkept : withoutCommas (c :: rest) = c :: withoutCommas rest := by
          simp [withoutCommas, hcomma]
        simp only [hkept, scanNumeric, ih]

/-! ## The scan in closed form -/

/-- A text that begins with a point never becomes a number. -/
theorem scanNumeric_pointFirst (text : List Char) : scanNumeric false true false text = false := by
  induction text with
  | nil => rfl
  | cons c rest ih =>
      simp [scanNumeric, ih]

/-- A digit of the fraction is followed by digits only. -/
theorem scanNumeric_fraction {text : List Char} (h : ',' ∉ text) :
    scanNumeric true true true text = text.all Char.isDigit := by
  induction text with
  | nil => rfl
  | cons c rest ih =>
      rw [List.mem_cons, not_or] at h
      rw [scanNumeric, if_neg (Ne.symm h.1), List.all_cons]
      by_cases hdigit : c.isDigit = true
      · simp [hdigit, ih h.2]
      · simp [hdigit]

/-- The point is followed by digits, with any number of points before them. -/
theorem scanNumeric_behindPoint {text : List Char} (h : ',' ∉ text) :
    scanNumeric false true true text = isDigits (text.dropWhile (· == '.')) := by
  induction text with
  | nil => rfl
  | cons c rest ih =>
      rw [List.mem_cons, not_or] at h
      rw [scanNumeric, if_neg (Ne.symm h.1), List.dropWhile_cons]
      by_cases hpoint : c = '.'
      · simp [hpoint, ih h.2]
      · by_cases hdigit : c.isDigit = true
        · simp [hdigit, hpoint, scanNumeric_fraction h.2, isDigits]
        · simp [hdigit, hpoint, isDigits]

/-- The first digits are followed by nothing, or by points and digits. -/
theorem scanNumeric_whole {text : List Char} (h : ',' ∉ text) :
    scanNumeric true true false text =
      ((text.dropWhile Char.isDigit).isEmpty ||
        isDigits ((text.dropWhile Char.isDigit).dropWhile (· == '.'))) := by
  induction text with
  | nil => rfl
  | cons c rest ih =>
      rw [List.mem_cons, not_or] at h
      rw [scanNumeric, if_neg (Ne.symm h.1), List.dropWhile_cons]
      by_cases hdigit : c.isDigit = true
      · simp [hdigit, ih h.2]
      · by_cases hpoint : c = '.'
        · simp [hpoint, scanNumeric_behindPoint h.2]
        · simp [hdigit, hpoint, isDigits]

/-- **The scan without its flags.** -/
theorem looksNumeric_eq {text : List Char} (h : ',' ∉ text) :
    looksNumeric text =
      (!(text.takeWhile Char.isDigit).isEmpty && ((text.dropWhile Char.isDigit).isEmpty ||
        isDigits ((text.dropWhile Char.isDigit).dropWhile (· == '.')))) := by
  cases text with
  | nil => rfl
  | cons c rest =>
      rw [List.mem_cons, not_or] at h
      rw [looksNumeric, scanNumeric, if_neg (Ne.symm h.1)]
      by_cases hdigit : c.isDigit = true
      · simp [hdigit, scanNumeric_whole h.2]
      · by_cases hpoint : c = '.'
        · simp [hpoint, scanNumeric_pointFirst]
        · simp [hdigit, hpoint]

/-! ## What it accepts -/

theorem isDigits_takeWhile {text : List Char} (h : text.takeWhile Char.isDigit ≠ []) :
    isDigits (text.takeWhile Char.isDigit) = true :=
  isDigits_iff.mpr ⟨h, fun _ hc => List.mem_takeWhile_imp hc⟩

theorem dropWhile_point {fraction : List Char} (h : isDigits fraction = true) :
    fraction.dropWhile (· == '.') = fraction := by
  cases fraction with
  | nil => rfl
  | cons c rest =>
      have hpoint : c ≠ '.' := by
        rintro rfl
        simp [isDigits] at h
      rw [List.dropWhile_cons, if_neg (by simpa using hpoint)]

/-- What does not begin with a digit, and has digits behind its first points, begins with a
point. -/
theorem takeWhile_point_ne_nil {rest : List Char} (hhead : ∀ c ∈ rest.head?, c.isDigit = false)
    (h : isDigits (rest.dropWhile (· == '.')) = true) : rest.takeWhile (· == '.') ≠ [] := by
  cases rest with
  | nil => simp [isDigits] at h
  | cons c tail =>
      by_cases hpoint : c = '.'
      · simp [hpoint]
      · simp [hpoint, isDigits, hhead c rfl] at h

theorem exists_isPointed {text : List Char} (hwhole : text.takeWhile Char.isDigit ≠ [])
    (hfraction : isDigits ((text.dropWhile Char.isDigit).dropWhile (· == '.')) = true) :
    ∃ points, 1 ≤ points ∧ IsPointed points text := by
  have hhead : ∀ c ∈ (text.dropWhile Char.isDigit).head?, c.isDigit = false := by
    intro c hc
    have hnot := List.head?_dropWhile_not Char.isDigit text
    rwa [Option.mem_def.mp hc] at hnot
  have hpoints := takeWhile_point_ne_nil hhead hfraction
  have hreplicate := List.eq_replicate_of_mem (a := '.')
    (l := (text.dropWhile Char.isDigit).takeWhile (· == '.'))
    fun c hc => by simpa using List.mem_takeWhile_imp hc
  refine ⟨_, List.length_pos_iff.mpr hpoints, _, _, isDigits_takeWhile hwhole, hfraction, ?_⟩
  rw [← hreplicate, List.append_assoc, List.takeWhile_append_dropWhile,
    List.takeWhile_append_dropWhile]

theorem looksNumeric_of_isPointed {text : List Char} {points : Nat} (hpoints : 1 ≤ points)
    (h : IsPointed points text) (hcomma : ',' ∉ text) : looksNumeric text = true := by
  rw [looksNumeric_eq hcomma]
  obtain ⟨whole, fraction, hwhole, hfraction, rfl⟩ := h
  obtain ⟨more, rfl⟩ := Nat.exists_eq_add_of_le' hpoints
  obtain ⟨hne, hall⟩ := isDigits_iff.mp hwhole
  have htake : (List.replicate (more + 1) '.' ++ fraction).takeWhile Char.isDigit = [] := by
    simp [List.replicate_succ]
  have hdrop : (List.replicate (more + 1) '.' ++ fraction).dropWhile Char.isDigit =
      List.replicate (more + 1) '.' ++ fraction := by
    simp [List.replicate_succ]
  rw [List.append_assoc, List.takeWhile_append_of_pos hall, List.dropWhile_append_of_pos hall,
    htake, hdrop, List.dropWhile_append_of_pos (by simp), dropWhile_point hfraction, hfraction]
  simp [hne]

/-- **The scan accepts digits, and digits with points between them**, one or more. -/
theorem looksNumeric_iff {text : List Char} (h : ',' ∉ text) :
    looksNumeric text = true ↔
      isDigits text = true ∨ ∃ points, 1 ≤ points ∧ IsPointed points text := by
  constructor
  · intro hnumeric
    rw [looksNumeric_eq h, Bool.and_eq_true, Bool.or_eq_true] at hnumeric
    obtain ⟨hwhole, hend | hfraction⟩ := hnumeric
    · rw [List.isEmpty_iff] at hend
      have htext := List.takeWhile_append_dropWhile (p := Char.isDigit) (l := text)
      rw [hend, List.append_nil] at htext
      rw [← htext]
      exact .inl (isDigits_takeWhile (by simpa using hwhole))
    · exact .inr (exists_isPointed (by simpa using hwhole) hfraction)
  · rintro (hdigits | ⟨points, hpoints, hpointed⟩)
    · obtain ⟨hne, hall⟩ := isDigits_iff.mp hdigits
      rw [looksNumeric_eq h, List.takeWhile_eq_self_iff.mpr hall,
        List.dropWhile_eq_nil_iff.mpr hall]
      simp [hne]
    · exact looksNumeric_of_isPointed hpoints hpointed h

/-! ## Kinds of literals -/

theorem classify_eq_numeric_iff {text : String} :
    classify text = .numeric ↔
      isDigits (withoutCommas text.toList) = true ∨
        ∃ points, 1 ≤ points ∧ IsPointed points (withoutCommas text.toList) := by
  rw [← looksNumeric_iff (not_mem_withoutCommas _), looksNumeric, scanNumeric_withoutCommas,
    ← looksNumeric, classify]
  split_ifs with hnumeric htime
  · simp [hnumeric]
  · simp [hnumeric]
  · simp [hnumeric]

/-- What is not numeric is temporal or opaque, by whether it can be read as a timestamp. -/
theorem classify_of_ne_numeric {text : String} (h : classify text ≠ .numeric) :
    classify text = if (Timestamp.read text).isSome then .temporal else .opaqueText := by
  have hlooks : looksNumeric text.toList ≠ true := fun hlooks => h (if_pos hlooks)
  rw [classify, if_neg hlooks]

theorem classify_eq_temporal_iff {text : String} :
    classify text = .temporal ↔ classify text ≠ .numeric ∧ (Timestamp.read text).isSome = true := by
  by_cases hnumeric : classify text = .numeric
  · simp [hnumeric]
  · rw [classify_of_ne_numeric hnumeric]
    split_ifs with htime
    · simp [htime]
    · simp [htime]

theorem classify_eq_opaqueText_iff {text : String} :
    classify text = .opaqueText ↔ classify text ≠ .numeric ∧ Timestamp.read text = none := by
  by_cases hnumeric : classify text = .numeric
  · simp [hnumeric]
  · rw [classify_of_ne_numeric hnumeric]
    split_ifs with htime
    · simp [Option.isSome_iff_ne_none.mp htime]
    · simpa using htime

/-- **The kind of a literal.** It is numeric if it is a number without its commas, and also if it
is digits with several points between them, which are no number; and there are no others. A
literal that is not numeric is temporal if it can be read as a timestamp, and else opaque. -/
theorem classify_iff (text : String) :
    (classify text = .numeric ↔ IsNumber (withoutCommas text.toList) ∨
        ∃ points, 2 ≤ points ∧ IsPointed points (withoutCommas text.toList)) ∧
      (classify text = .numeric ∧ ¬IsNumber (withoutCommas text.toList) ↔
        ∃ points, 2 ≤ points ∧ IsPointed points (withoutCommas text.toList)) ∧
      (classify text = .temporal ↔
        classify text ≠ .numeric ∧ (Timestamp.read text).isSome = true) ∧
      (classify text = .opaqueText ↔ classify text ≠ .numeric ∧ Timestamp.read text = none) := by
  have hnumeric : classify text = .numeric ↔ IsNumber (withoutCommas text.toList) ∨
      ∃ points, 2 ≤ points ∧ IsPointed points (withoutCommas text.toList) := by
    rw [classify_eq_numeric_iff, IsNumber, or_assoc]
    refine or_congr_right ?_
    constructor
    · rintro ⟨points, hpoints, hpointed⟩
      rcases Nat.eq_or_lt_of_le hpoints with rfl | hseveral
      · exact .inl hpointed
      · exact .inr ⟨points, hseveral, hpointed⟩
    · rintro (hpointed | ⟨points, hpoints, hpointed⟩)
      · exact ⟨1, Nat.le_refl 1, hpointed⟩
      · exact ⟨points, Nat.le_of_succ_le hpoints, hpointed⟩
  refine ⟨hnumeric, ?_, classify_eq_temporal_iff, classify_eq_opaqueText_iff⟩
  rw [hnumeric]
  constructor
  · rintro ⟨hnumber | hseveral, hnot⟩
    · exact absurd hnumber hnot
    · exact hseveral
  · rintro ⟨points, hpoints, hpointed⟩
    refine ⟨.inr ⟨points, hpoints, hpointed⟩, fun hnumber => ?_⟩
    -- the two differ in how many points they have
    have hfew := hnumber.count_point_le
    rw [hpointed.count_point] at hfew
    omega

/-- `1..5` counts as numeric, and is no number. -/
theorem classify_ne_grammar :
    ¬∀ text : String, classify text = .numeric ↔ IsNumber (withoutCommas text.toList) := by
  intro h
  have hnumeric : classify "1..5" = .numeric := by decide +kernel
  have hfew := ((h "1..5").mp hnumeric).count_point_le
  have htwo : (withoutCommas "1..5".toList).count '.' = 2 := by decide +kernel
  omega

end FilterQuery
