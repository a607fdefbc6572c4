/-
# FilterQuery.Proofs.Matching.Separators -- rules whose numbers have commas

A literal such as `1,000` is of the numeric kind, because commas count as separators of
thousands there. But the number that an ordering compares is read by other rules, which know
no commas: a text with a comma spells no number (`read_of_comma`) and counts as zero. So a rule
with separators in its literal is the rule with the literal `0` (`accepts_separators`), and the
separators matter unless the number is zero anyway.
-/
import FilterQuery.Proofs.Literal.Kinds
import FilterQuery.Proofs.Matching.Direct

namespace FilterQuery

/-! ## Commas spoil numerals -/

theorem mem_splitSign {c : Char} {text : List Char} (h : c ∈ text) (hminus : c ≠ '-')
    (hplus : c ≠ '+') : c ∈ (splitSign text).2 := by
  unfold splitSign
  split
  · exact List.mem_of_ne_of_mem hminus h
  · exact List.mem_of_ne_of_mem hplus h
  · exact h

/-- What is left of a text, from the first character without a property on, has every character
without it. -/
theorem mem_dropWhile {p : Char → Bool} {c : Char} {text : List Char} (h : c ∈ text)
    (hc : p c = false) : c ∈ text.dropWhile p := by
  rw [← List.takeWhile_append_dropWhile (p := p) (l := text), List.mem_append] at h
  rcases h with htake | hdrop
  · rw [List.mem_takeWhile_imp htake] at hc
    cases hc
  · exact hdrop

namespace Numeral

theorem readExponent_of_comma {text : List Char} (h : ',' ∈ text) : readExponent text = none := by
  cases text with
  | nil => cases h
  | cons c rest =>
      rw [readExponent]
      split_ifs with hmark
      · have hne : ',' ≠ c := by
          rintro rfl
          rcases hmark with hmark | hmark <;> cases hmark
        have hrest : ',' ∈ (splitSign rest).2 :=
          mem_splitSign (List.mem_of_ne_of_mem hne h) (by decide) (by decide)
        have hdigits : isDigits (splitSign rest).2 = false := by
          rw [← Bool.not_eq_true, isDigits_iff]
          rintro ⟨-, hall⟩
          exact absurd (hall ',' hrest) (by decide)
        rw [readInteger]
        simp [hdigits]
      · rfl

/-- The digits of a fraction, if a point begins one, and what follows. -/
def splitFraction : List Char → List Char × List Char
  | '.' :: tail => (tail.takeWhile Char.isDigit, tail.dropWhile Char.isDigit)
  | text => ([], text)

theorem readMagnitude_eq (negative : Bool) (text : List Char) :
    readMagnitude negative text =
      if (text.takeWhile Char.isDigit).isEmpty &&
          (splitFraction (text.dropWhile Char.isDigit)).1.isEmpty then none
      else
        (readExponent (splitFraction (text.dropWhile Char.isDigit)).2).map fun exponent =>
          ⟨negative, digitsValue (text.takeWhile Char.isDigit ++
            (splitFraction (text.dropWhile Char.isDigit)).1),
            exponent - (splitFraction (text.dropWhile Char.isDigit)).1.length⟩ := by
  unfold readMagnitude
  generalize text.dropWhile Char.isDigit = after
  fun_cases splitFraction after with
  | case1 tail => rfl
  | case2 after hpoint =>
      dsimp only
      split
      · exact absurd rfl (hpoint _)
      · rfl

theorem mem_splitFraction {text : List Char} (h : ',' ∈ text) : ',' ∈ (splitFraction text).2 := by
  unfold splitFraction
  split
  · exact mem_dropWhile (List.mem_of_ne_of_mem (by decide) h) (by decide)
  · exact h

theorem readMagnitude_of_comma {text : List Char} (h : ',' ∈ text) (negative : Bool) :
    readMagnitude negative text = none := by
  have hafter : ',' ∈ text.dropWhile Char.isDigit := mem_dropWhile h (by decide)
  rw [readMagnitude_eq, readExponent_of_comma (mem_splitFraction hafter), Option.map_none, ite_self]

/-- **A text with a comma spells no number.** -/
theorem read_of_comma {text : List Char} (h : ',' ∈ text) : read text = none := by
  have hunsigned : ',' ∈ (splitSign text).2 := mem_splitSign h (by decide) (by decide)
  have hfolded : ',' ∈ (splitSign text).2.map Char.toLower := List.mem_map_of_mem hunsigned
  simp only [read, readMagnitude_of_comma hunsigned]
  rw [if_neg, if_neg]
  · rfl
  · intro hnan
    rw [hnan] at hfolded
    exact absurd hfolded (by decide)
  · rintro (hinf | hinfinity)
    · rw [hinf] at hfolded
      exact absurd hfolded (by decide)
    · rw [hinfinity] at hfolded
      exact absurd hfolded (by decide)

/-- A number without a sign is not below zero. -/
theorem negative_of_readMagnitude {negative : Bool} {text : List Char} {d : Decimal}
    (h : readMagnitude negative text = some d) : d.negative = negative := by
  rw [readMagnitude_eq] at h
  split_ifs at h
  obtain ⟨exponent, -, hd⟩ := Option.map_eq_some_iff.mp h
  rw [← hd]

end Numeral

theorem floatOrZero_of_comma {text : String} (h : ',' ∈ text.toList) : floatOrZero text = .zero := by
  rw [floatOrZero, Numeral.read_of_comma h]
  rfl

/-! ## Numbers that are not below zero -/

namespace Double

/-- A number that is zero or above it, the infinity included. -/
def IsNonneg (x : Double) : Prop := x = .infinity false ∨ ∃ units, x = .finite false units

theorem isNonneg_ofDecimal (format : BinaryFormat) {d : Decimal} (h : d.negative = false) :
    (ofDecimal format d).IsNonneg := by
  have hratio : ∀ num den, (ofRatio format false num den).IsNonneg := by
    intro num den
    unfold ofRatio
    dsimp only
    split_ifs
    · exact .inr ⟨_, rfl⟩
    · exact .inl rfl
  unfold ofDecimal
  rw [h]
  split_ifs
  · exact .inr ⟨_, rfl⟩
  · exact .inl rfl
  · exact .inr ⟨_, rfl⟩
  · exact hratio _ _

/-- What is not below zero, and is not zero, is above it. -/
theorem IsNonneg.compare?_zero {x : Double} (h : x.IsNonneg) (hzero : x ≠ .zero) :
    Double.zero.compare? x = some .lt ∧ x.compare? .zero = some .gt ∧
      x.compare? x = some .eq := by
  rcases h with rfl | ⟨units, rfl⟩
  · exact ⟨rfl, rfl, rfl⟩
  · have hpos : (0 : Int) < units := by
      rcases Nat.eq_zero_or_pos units with rfl | hpos
      · exact absurd rfl hzero
      · exact_mod_cast hpos
    refine ⟨?_, ?_, compare?_self (by simp)⟩
    · exact congrArg some (compare_lt_iff_lt.mpr hpos)
    · exact congrArg some (compare_gt_iff_gt.mpr hpos)

end Double

/-- A literal of the numeric kind begins with a digit when its commas are gone. -/
theorem head_withoutCommas {text : String} (h : classify text = .numeric) :
    ∃ c ∈ (withoutCommas text.toList).head?, c.isDigit = true := by
  have hfirst : ∀ digits more, isDigits digits = true →
      ∃ c ∈ (digits ++ more).head?, c.isDigit = true := by
    intro digits more hdigits
    obtain ⟨hne, hall⟩ := isDigits_iff.mp hdigits
    obtain ⟨c, rest, rfl⟩ := List.exists_cons_of_ne_nil hne
    exact ⟨c, rfl, hall c (by simp)⟩
  rcases classify_eq_numeric_iff.mp h with hdigits | ⟨points, -, whole, fraction, hwhole, -, htext⟩
  · simpa using hfirst _ [] hdigits
  · rw [htext, List.append_assoc]
    exact hfirst whole _ hwhole

/-- **The literal with its separators taken out.** -/
def plainLiteral (literal : String) : String := String.ofList (withoutCommas literal.toList)

@[simp] theorem toList_plainLiteral (literal : String) :
    (plainLiteral literal).toList = withoutCommas literal.toList :=
  String.toList_ofList

theorem plainLiteral_eq_self {literal : String} (h : ',' ∉ literal.toList) :
    plainLiteral literal = literal := by
  rw [plainLiteral, withoutCommas_eq_self h, String.ofList_toList]

theorem classify_plainLiteral {literal : String} (h : classify literal = .numeric) :
    classify (plainLiteral literal) = .numeric := by
  rw [classify_eq_numeric_iff] at h ⊢
  rwa [toList_plainLiteral, withoutCommas_eq_self (not_mem_withoutCommas _)]

theorem isNonneg_plainLiteral {literal : String} (h : classify literal = .numeric) :
    (floatOrZero (plainLiteral literal)).IsNonneg := by
  obtain ⟨c, hc, hdigit⟩ := head_withoutCommas h
  have hsplit : splitSign (withoutCommas literal.toList) = (false, withoutCommas literal.toList) := by
    unfold splitSign
    split
    · next rest hrest =>
      rw [hrest] at hc
      cases hc
      cases hdigit
    · next rest hrest =>
      rw [hrest] at hc
      cases hc
      cases hdigit
    · rfl
  have hhead : ∃ c ∈ (splitSign (withoutCommas literal.toList)).2.head?, c.isDigit = true := by
    rw [hsplit]
    exact ⟨c, hc, hdigit⟩
  rw [floatOrZero, toList_plainLiteral, read_of_isDigit hhead, hsplit]
  cases hmagnitude : Numeral.readMagnitude false (withoutCommas literal.toList) with
  | none => exact .inr ⟨0, rfl⟩
  | some d => exact Double.isNonneg_ofDecimal .double (Numeral.negative_of_readMagnitude hmagnitude)

/-! ## Rules -/

/-- A leaf with an ordering and a numeric literal compares numbers. -/
theorem Comparison.accepts_of_numeric {op : CompareOp} (hop : op ≠ .eq) (name : String)
    {literal : String} (hliteral : classify literal = .numeric) (candidate : Comparison) :
    (⟨name, some op, literal⟩ : Comparison).accepts candidate =
      op.holds ((floatOrZero candidate.value).compare? (floatOrZero literal)) := by
  cases op with
  | eq => exact absurd rfl hop
  | _ => simp only [accepts, hliteral]

namespace Condition

/-- Only what its comparison accepts matters to a rule of one leaf. -/
theorem accepts_leaf_congr {l m : Comparison} (hname : l.name = m.name)
    (haccepts : l.accepts = m.accepts) (j : Option Connective) (candidate : Condition) :
    (leaf j l).accepts candidate = (leaf j m).accepts candidate := by
  simp only [accepts_eq_truth, truth_leaf, answers_eq_map_select, Comparison.isVoid, hname,
    haccepts]

variable {op : CompareOp} {literal : String}

/-- Held against a candidate of one leaf, a rule compares that leaf's number with its own. -/
theorem accepts_leaf_value (hop : op ≠ .eq) {name : String} (hname : name ≠ "")
    (hliteral : classify literal = .numeric) (j : Option Connective) (value : String) :
    (leaf j ⟨name, some op, literal⟩).accepts (leaf none ⟨name, some .eq, value⟩) =
      op.holds ((floatOrZero value).compare? (floatOrZero literal)) := by
  have hvoid : (⟨name, some op, literal⟩ : Comparison).isVoid = false :=
    Comparison.isVoid_eq_false_iff.mpr hname
  rw [accepts_eq_truth, truth_leaf, answers, if_pos rfl, hvoid]
  exact Comparison.accepts_of_numeric hop name hliteral ⟨name, some .eq, value⟩

/-- Two rules with an ordering and numeric literals of one value agree. -/
theorem accepts_leaf_of_numeric (hop : op ≠ .eq) {literal' : String}
    (hliteral : classify literal = .numeric) (hliteral' : classify literal' = .numeric)
    (hvalue : floatOrZero literal = floatOrZero literal') (j : Option Connective) (name : String)
    (candidate : Condition) :
    (leaf j ⟨name, some op, literal⟩).accepts candidate =
      (leaf j ⟨name, some op, literal'⟩).accepts candidate := by
  have haccepts : (⟨name, some op, literal⟩ : Comparison).accepts =
      (⟨name, some op, literal'⟩ : Comparison).accepts := by
    funext own
    rw [Comparison.accepts_of_numeric hop name hliteral,
      Comparison.accepts_of_numeric hop name hliteral', hvalue]
  exact accepts_leaf_congr (l := ⟨name, some op, literal⟩) (m := ⟨name, some op, literal'⟩) rfl
    haccepts j candidate

/-- **A rule that has separators in its literal** is the rule with the literal `0`. -/
theorem accepts_of_comma (hop : op ≠ .eq) (hliteral : classify literal = .numeric)
    (hcomma : ',' ∈ literal.toList) (j : Option Connective) (name : String)
    (candidate : Condition) :
    (leaf j ⟨name, some op, literal⟩).accepts candidate =
      (leaf j ⟨name, some op, "0"⟩).accepts candidate := by
  have hzero : floatOrZero "0" = .zero := by decide +kernel
  have hnumeric : classify "0" = .numeric := by decide +kernel
  exact accepts_leaf_of_numeric hop hliteral hnumeric
    ((floatOrZero_of_comma hcomma).trans hzero.symm) j name candidate

/-- An ordering tells zero from a number above it, by the value zero or by that number. -/
theorem exists_holds_ne (hop : op ≠ .eq) {x : Double} (hx : x.IsNonneg) (hzero : x ≠ .zero) :
    op.holds (Double.zero.compare? .zero) ≠ op.holds (Double.zero.compare? x) ∨
      op.holds (x.compare? .zero) ≠ op.holds (x.compare? x) := by
  obtain ⟨hbelow, habove, hself⟩ := hx.compare?_zero hzero
  have hsame : Double.zero.compare? .zero = some .eq := rfl
  rw [hbelow, habove, hself, hsame]
  cases op with
  | eq => exact absurd rfl hop
  | lt => exact .inl (by decide)
  | le => exact .inr (by decide)
  | gt => exact .inr (by decide)
  | ge => exact .inl (by decide)

/-- **What separators do to a rule.** With separators in its literal it is the rule with the
literal `0`. So it is the rule without the separators only if that rule has the number zero, too,
or has no name and accepts nothing; otherwise some candidate tells the two apart. -/
theorem accepts_separators (hop : op ≠ .eq) (hliteral : classify literal = .numeric)
    (j : Option Connective) (name : String) :
    (',' ∈ literal.toList → ∀ candidate,
        (leaf j ⟨name, some op, literal⟩).accepts candidate =
          (leaf j ⟨name, some op, "0"⟩).accepts candidate) ∧
      ((∀ candidate, (leaf j ⟨name, some op, literal⟩).accepts candidate =
          (leaf j ⟨name, some op, plainLiteral literal⟩).accepts candidate) ↔
        name = "" ∨ ',' ∉ literal.toList ∨ floatOrZero (plainLiteral literal) = .zero) := by
  have hplain := classify_plainLiteral hliteral
  refine ⟨fun hcomma => accepts_of_comma hop hliteral hcomma j name, ?_, ?_⟩
  · intro hsame
    by_contra hne
    rw [not_or, not_or, not_not] at hne
    obtain ⟨hname, hcomma, hzero⟩ := hne
    -- held against a single leaf, the two rules compare its number with zero and with their own
    have hleaf : ∀ value, op.holds ((floatOrZero value).compare? .zero) =
        op.holds ((floatOrZero value).compare? (floatOrZero (plainLiteral literal))) := by
      intro value
      have hvalue := hsame (leaf none ⟨name, some .eq, value⟩)
      rwa [accepts_leaf_value hop hname hliteral, accepts_leaf_value hop hname hplain,
        floatOrZero_of_comma hcomma] at hvalue
    rcases exists_holds_ne hop (isNonneg_plainLiteral hliteral) hzero with hlow | hhigh
    · exact hlow (hleaf "")
    · exact hhigh (hleaf (plainLiteral literal))
  · rintro (rfl | hcomma | hzero) candidate
    · rw [accepts_eq_truth, accepts_eq_truth]
      rfl
    · rw [plainLiteral_eq_self hcomma]
    · by_cases hcomma : ',' ∈ literal.toList
      · exact accepts_leaf_of_numeric hop hliteral hplain
          ((floatOrZero_of_comma hcomma).trans hzero.symm) j name candidate
      · rw [plainLiteral_eq_self hcomma]

/-- A rule for more than a thousand accepts `a=5` when the thousand is written `1,000`. -/
theorem accepts_separators_thousand :
    (leaf none ⟨"a", some .gt, "1,000"⟩).accepts (leaf none ⟨"a", some .eq, "5"⟩) = true ∧
      ¬∀ candidate, (leaf none ⟨"a", some .gt, "1,000"⟩).accepts candidate =
        (leaf none ⟨"a", some .gt, plainLiteral "1,000"⟩).accepts candidate := by
  have hgreater : CompareOp.gt ≠ .eq := by decide
  have hthousand : classify "1,000" = .numeric := by decide +kernel
  obtain ⟨hcommas, hplain⟩ := accepts_separators hgreater hthousand none "a"
  constructor
  · rw [hcommas (by decide)]
    decide +kernel
  · intro hsame
    exact absurd (hplain.mp hsame) (by decide +kernel)

/-- **Separators are not always without effect**: a numeric literal, an ordering, and a candidate
that tells the literal from the one without its separators. -/
theorem accepts_separators_ne :
    ¬∀ (literal : String) (op : CompareOp) (name : String) (candidate : Condition),
      classify literal = .numeric → op ≠ .eq →
        (leaf none ⟨name, some op, literal⟩).accepts candidate =
          (leaf none ⟨name, some op, plainLiteral literal⟩).accepts candidate := by
  intro h
  have hfive := h "1,000" .gt "a" (leaf none ⟨"a", some .eq, "5"⟩) (by decide +kernel) (by decide)
  revert hfive
  decide +kernel

end Condition

end FilterQuery
