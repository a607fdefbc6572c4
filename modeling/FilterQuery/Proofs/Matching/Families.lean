/-
# FilterQuery.Proofs.Matching.Families -- whether a literal compares as a timestamp

An ordering compares timestamps or numbers, as the kind of the reference's literal says, and
a literal that looks numeric is never tried as a timestamp. Nothing is lost by that: in the
text of a timestamp a dash stands behind the year, however leniently the text is written,
and no numeric literal has a dash (`classify_eq_temporal_iff_read`).

So a literal is compared as a timestamp just if it can be read as one. All others are
compared as numbers, and it makes no difference to a match which of them are called numeric
and which opaque. `Condition.acceptsBy` is matching with the comparison of leaves left open,
in which another way of telling the kinds apart can take the place of `classify`.
-/
import FilterQuery.Proofs.Literal.Kinds
import FilterQuery.Proofs.Matching.Direct

namespace FilterQuery

/-! ## The dash in a timestamp -/

namespace Timestamp

theorem takeDigits_suffix (limit : Nat) (text : List Char) :
    (takeDigits limit text).2 <:+ text := by
  fun_induction takeDigits limit text with
  | case1 limit c rest hdigit ih => exact ih.trans (List.suffix_cons c rest)
  | case2 limit c rest hdigit => exact List.suffix_rfl
  | case3 limit rest hend => exact List.suffix_rfl

theorem readNumber_suffix {limit n : Nat} {text rest : List Char}
    (h : readNumber limit text = some (n, rest)) : rest <:+ text := by
  simp only [readNumber] at h
  split at h
  · cases h
  · cases h
    exact takeDigits_suffix limit text

/-- Behind a sign or without one, a year is a number at the front of a text. -/
theorem suffix_of_map_readNumber (f : Nat → Int) {limit : Nat} {year : Int}
    {text rest : List Char}
    (h : ((readNumber limit text).map fun (n, rest) => (f n, rest)) = some (year, rest)) :
    rest <:+ text := by
  obtain ⟨⟨n, rest'⟩, hnumber, hresult⟩ := Option.map_eq_some_iff.mp h
  cases hresult
  exact readNumber_suffix hnumber

theorem readYear_suffix {year : Int} {text rest : List Char}
    (h : readYear text = some (year, rest)) : rest <:+ text := by
  have hblanks : text.dropWhile isBlank <:+ text := List.dropWhile_suffix _
  rw [readYear] at h
  split at h
  · next digits hminus =>
    rw [hminus] at hblanks
    have hrest := suffix_of_map_readNumber (fun n => -(n : Int)) h
    exact hrest.trans ((List.suffix_cons '-' digits).trans hblanks)
  · next digits hplus =>
    rw [hplus] at hblanks
    have hrest := suffix_of_map_readNumber (fun n => (n : Int)) h
    exact hrest.trans ((List.suffix_cons '+' digits).trans hblanks)
  · have hrest := suffix_of_map_readNumber (fun n => (n : Int)) h
    exact hrest.trans hblanks

theorem mem_of_expect {c : Char} {text rest : List Char} (h : expect c text = some rest) :
    c ∈ text := by
  cases text with
  | nil => cases h
  | cons d text =>
      rw [expect] at h
      split_ifs at h with hc
      simp [hc]

/-- **What can be read as a timestamp has a dash**, the one behind the year. -/
theorem dash_mem_of_ofChars? {text : List Char} {t : Timestamp} (h : ofChars? text = some t) :
    '-' ∈ text := by
  simp only [ofChars?, Option.bind_eq_bind, Option.bind_eq_some_iff] at h
  obtain ⟨⟨year, rest⟩, hyear, month, hdash, -⟩ := h
  exact (readYear_suffix hyear).mem (mem_of_expect hdash)

end Timestamp

/-! ## The kind of a timestamp -/

/-- A numeric literal has digits, points and commas, and nothing else. -/
theorem mem_of_classify_eq_numeric {text : String} (h : classify text = .numeric) {c : Char}
    (hc : c ∈ text.toList) : c = ',' ∨ c = '.' ∨ c.isDigit = true := by
  by_cases hcomma : c = ','
  · exact .inl hcomma
  · have hkept : c ∈ withoutCommas text.toList := List.mem_filter.mpr ⟨hc, by simpa using hcomma⟩
    refine .inr ?_
    rcases classify_eq_numeric_iff.mp h with
      hdigits | ⟨points, -, whole, fraction, hwhole, hfraction, htext⟩
    · exact .inr ((isDigits_iff.mp hdigits).2 c hkept)
    · rw [htext, List.mem_append, List.mem_append] at hkept
      rcases hkept with (hkept | hkept) | hkept
      · exact .inr ((isDigits_iff.mp hwhole).2 c hkept)
      · exact .inl (List.eq_of_mem_replicate hkept)
      · exact .inr ((isDigits_iff.mp hfraction).2 c hkept)

/-- **A literal is temporal just if it can be read as a timestamp**: that it might look
numeric first never comes to bear. -/
theorem classify_eq_temporal_iff_read {text : String} :
    classify text = .temporal ↔ ∃ t, Timestamp.read text = some t := by
  rw [classify_eq_temporal_iff, Option.isSome_iff_exists]
  refine and_iff_right_of_imp ?_
  rintro ⟨t, ht⟩ hnumeric
  have hdash : '-' ∈ text.toList := Timestamp.dash_mem_of_ofChars? ht
  rcases mem_of_classify_eq_numeric hnumeric hdash with hcomma | hpoint | hdigit
  · exact absurd hcomma (by decide)
  · exact absurd hpoint (by decide)
  · exact absurd hdigit (by decide)

/-! ## Leaves -/

namespace Comparison

/-- **A leaf of a candidate against a leaf of the reference** whose literal is taken to be of
the given kind. -/
def acceptsAs (kind : LiteralKind) (reference candidate : Comparison) : Bool :=
  match reference.operator with
  | none => false
  | some .eq => equalButCase candidate.value reference.value
  | some op =>
    match kind with
    | .temporal => op.holds (some ((timeOrZero candidate.value).order (timeOrZero reference.value)))
    | _ => op.holds ((floatOrZero candidate.value).compare? (floatOrZero reference.value))

theorem accepts_eq_acceptsAs (reference : Comparison) :
    reference.accepts = reference.acceptsAs (classify reference.value) := rfl

/-- Numeric and opaque literals are compared alike. -/
theorem acceptsAs_of_ne_temporal {kind : LiteralKind} (h : kind ≠ .temporal)
    (reference : Comparison) : reference.acceptsAs kind = reference.acceptsAs .opaqueText := by
  cases kind with
  | temporal => exact absurd rfl h
  | numeric => rfl
  | opaqueText => rfl

/-- Only whether the literal is temporal matters. -/
theorem acceptsAs_congr {kind kind' : LiteralKind} (h : kind = .temporal ↔ kind' = .temporal)
    (reference : Comparison) : reference.acceptsAs kind = reference.acceptsAs kind' := by
  by_cases hkind : kind = .temporal
  · rw [hkind, h.mp hkind]
  · rw [acceptsAs_of_ne_temporal hkind, acceptsAs_of_ne_temporal (mt h.mpr hkind)]

/-- **An ordering compares timestamps if the literal can be read as one, and else numbers.** -/
theorem accepts_of_ordering {reference : Comparison} {op : CompareOp}
    (hoperator : reference.operator = some op) (hop : op ≠ .eq) (candidate : Comparison) :
    reference.accepts candidate =
      match Timestamp.read reference.value with
      | some t => op.holds (some ((timeOrZero candidate.value).order t))
      | none => op.holds ((floatOrZero candidate.value).compare? (floatOrZero reference.value)) := by
  cases hread : Timestamp.read reference.value with
  | some t =>
      have hkind : classify reference.value = .temporal :=
        classify_eq_temporal_iff_read.mpr ⟨t, hread⟩
      have htime : timeOrZero reference.value = t := by rw [timeOrZero, hread]; rfl
      rw [accepts_eq_acceptsAs, hkind, acceptsAs, hoperator]
      cases op with
      | eq => exact absurd rfl hop
      | _ => simp only [htime]
  | none =>
      have hkind : classify reference.value ≠ .temporal := by
        rw [ne_eq, classify_eq_temporal_iff_read, hread]
        simp
      rw [accepts_eq_acceptsAs, acceptsAs_of_ne_temporal hkind, acceptsAs, hoperator]
      cases op with
      | eq => exact absurd rfl hop
      | _ => rfl

end Comparison

/-! ## Matches -/

namespace Condition

/-- **Matching with the comparison of leaves left open.** A leaf of the reference is compared
with the leaves of its name, joined as the candidate joins them, or with the empty text if
there are none. -/
def acceptsBy (compare : Comparison → Comparison → Bool) (reference candidate : Condition) :
    Bool :=
  reference.truth fun l =>
    !l.isVoid &&
      match candidate.select [l.name] with
      | some part => part.truth (compare l)
      | none => compare l ⟨l.name, some .eq, ""⟩

theorem acceptsBy_accepts (reference candidate : Condition) :
    reference.acceptsBy Comparison.accepts candidate = reference.accepts candidate := by
  rw [accepts_eq_truth]
  apply truth_congr
  intro l _
  rw [answers_eq_map_select]
  cases candidate.select [l.name] <;> rfl

/-- **No timestamp is missed.** A literal is temporal just if it can be read as a timestamp. So
an ordering compares timestamps if the literal can be read as one, and else numbers; and if
the kinds are told apart in any other way that finds the timestamps, whatever it calls
numeric or opaque, all conditions match as they do. -/
theorem compared_by_reading :
    (∀ text : String, classify text = .temporal ↔ ∃ t, Timestamp.read text = some t) ∧
      (∀ (reference candidate : Comparison) (op : CompareOp),
        reference.operator = some op → op ≠ .eq →
          reference.accepts candidate =
            match Timestamp.read reference.value with
            | some t => op.holds (some ((timeOrZero candidate.value).order t))
            | none =>
              op.holds ((floatOrZero candidate.value).compare? (floatOrZero reference.value))) ∧
      (∀ kind : String → LiteralKind,
        (∀ text, kind text = .temporal ↔ ∃ t, Timestamp.read text = some t) →
          ∀ reference candidate : Condition,
            reference.acceptsBy (fun l => l.acceptsAs (kind l.value)) candidate =
              reference.accepts candidate) := by
  refine ⟨fun _ => classify_eq_temporal_iff_read, ?_, ?_⟩
  · intro reference candidate op hoperator hop
    exact Comparison.accepts_of_ordering hoperator hop candidate
  · intro kind hkind reference candidate
    have hcompare : (fun l : Comparison => l.acceptsAs (kind l.value)) = Comparison.accepts := by
      funext l
      rw [l.accepts_eq_acceptsAs]
      exact l.acceptsAs_congr ((hkind l.value).trans classify_eq_temporal_iff_read.symm)
    rw [hcompare, acceptsBy_accepts]

/-- Tells timestamps from other texts, all of which it calls numeric. -/
def temporalOrNumeric (text : String) : LiteralKind :=
  if (Timestamp.read text).isSome then .temporal else .numeric

/-- A short year with a sign, and no leading zeros. -/
def tersePast : Comparison := ⟨"a", some .lt, "+7-1-2 3:4:5"⟩

theorem compared_by_reading_tersePast :
    classify tersePast.value = .temporal ∧
      tersePast.accepts ⟨"a", some .eq, "6-12-31 23:59:60"⟩ = true ∧
      (∀ text, temporalOrNumeric text = .temporal ↔ ∃ t, Timestamp.read text = some t) ∧
      ∀ reference candidate : Condition,
        reference.acceptsBy (fun l => l.acceptsAs (temporalOrNumeric l.value)) candidate =
          reference.accepts candidate := by
  have hkind : ∀ text, temporalOrNumeric text = .temporal ↔
      ∃ t, Timestamp.read text = some t := by
    intro text
    rw [← Option.isSome_iff_exists, temporalOrNumeric]
    split_ifs with hread <;> simp [hread]
  obtain ⟨htemporal, hordering, hmatch⟩ := compared_by_reading
  refine ⟨?_, ?_, hkind, hmatch _ hkind⟩
  · rw [htemporal, ← Option.isSome_iff_exists]
    decide +kernel
  · rw [hordering tersePast _ .lt rfl (by decide)]
    decide +kernel

end Condition

end FilterQuery
