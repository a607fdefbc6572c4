/-
# FilterQuery.Proofs.Condition.JsonRoundTrip -- what comes back from the JSON of a condition

The members of a JSON object have no order, and what keeps a document may hand it out with
its members in another one. For reading a condition that makes no difference at any depth:
documents that differ in the order of members spell the same conditions
(`Condition.ignoresOrder`), since only the values of each name count.

With it the round trip is complete (`read_written_json_iff`): through the document, in
whatever order its members are, and through its text.
-/
import FilterQuery.Proofs.Condition.Spelling

namespace FilterQuery

/-! ## The order of members -/

namespace Json

/-- **Documents that differ in the order of members**, at any depth. -/
inductive Rearranges : Json → Json → Prop where
  | same (d : Json) : Rearranges d d
  | array {items items' : List Json} :
      List.Forall₂ Rearranges items items' → Rearranges (.array items) (.array items')
  | object {members sorted members' : List (String × Json)} : members.Perm sorted →
      sorted.map Prod.fst = members'.map Prod.fst →
      List.Forall₂ Rearranges (sorted.map Prod.snd) (members'.map Prod.snd) →
      Rearranges (.object members) (.object members')

/-- Values of which the second list has the same in another order, rearranged themselves. -/
def Reoffers (values values' : List Json) : Prop :=
  ∃ sorted, values.Perm sorted ∧ List.Forall₂ Rearranges sorted values'

theorem reoffers_refl (values : List Json) : Reoffers values values :=
  ⟨values, .refl values, List.forall₂_same.mpr fun _ _ => .same _⟩

theorem reoffers_of_forall₂ {values values' : List Json}
    (h : List.Forall₂ Rearranges values values') : Reoffers values values' :=
  ⟨values, .refl values, h⟩

theorem forall₂_valuesAt (key : String) {members members' : List (String × Json)}
    (hnames : members.map Prod.fst = members'.map Prod.fst)
    (hvalues : List.Forall₂ Rearranges (members.map Prod.snd) (members'.map Prod.snd)) :
    List.Forall₂ Rearranges (valuesAt key members) (valuesAt key members') := by
  induction members generalizing members' with
  | nil =>
      cases members' with
      | nil => exact .nil
      | cons m' members' => cases hnames
  | cons m members ih =>
      cases members' with
      | nil => cases hnames
      | cons m' members' =>
          obtain ⟨name, value⟩ := m
          obtain ⟨name', value'⟩ := m'
          obtain ⟨hname, hrest⟩ := List.cons.inj hnames
          obtain rfl : name = name' := hname
          cases hvalues with
          | cons hvalue hvalues =>
              rw [valuesAt_cons, valuesAt_cons]
              split_ifs
              · exact .cons hvalue (ih hrest hvalues)
              · exact ih hrest hvalues

theorem forall₂_getElem?_toList {items items' : List Json}
    (h : List.Forall₂ Rearranges items items') (i : Nat) :
    List.Forall₂ Rearranges items[i]?.toList items'[i]?.toList := by
  induction h generalizing i with
  | nil => exact .nil
  | cons hitem _ ih =>
      cases i with
      | zero => exact .cons hitem .nil
      | succ i => exact ih i

/-- What a document offers, it still offers when it is rearranged. -/
theorem offers_rearranged {json json' : Json} (h : Rearranges json json')
    (first second third : String) :
    Option.Rel
      (fun s t => Reoffers s.1 t.1 ∧ Reoffers s.2.1 t.2.1 ∧ Reoffers s.2.2 t.2.2)
      (offers first second third json) (offers first second third json') := by
  cases h with
  | same =>
      cases offers first second third json with
      | none => exact .none
      | some s => exact .some ⟨reoffers_refl _, reoffers_refl _, reoffers_refl _⟩
  | array hitems =>
      have hat (i : Nat) := reoffers_of_forall₂ (forall₂_getElem?_toList hitems i)
      rw [offers, offers, hitems.length_eq]
      split_ifs
      · exact .some ⟨hat 0, hat 1, hat 2⟩
      · exact .none
  | object hperm hnames hvalues =>
      have hat (key : String) : Reoffers (valuesAt key _) (valuesAt key _) :=
        ⟨_, hperm.filterMap _, forall₂_valuesAt key hnames hvalues⟩
      exact .some ⟨hat first, hat second, hat third⟩

end Json

open Json (Rearranges Reoffers)

/-- What a field is set to does not depend on the order of what is offered for it, since no
more than one value may be. -/
theorem optionalField_iff_of_reoffers {α : Type} {Spells : Json → α → Prop} {unset a : α}
    (h : ∀ json json', Rearranges json json' → (Spells json a ↔ Spells json' a))
    {values values' : List Json} (hvalues : Reoffers values values') :
    OptionalField Spells unset values a ↔ OptionalField Spells unset values' a := by
  obtain ⟨sorted, hperm, hsorted⟩ := hvalues
  cases hsorted with
  | nil => rw [hperm.eq_nil]
  | @cons json json' rest rest' hjson hrest =>
      cases hrest with
      | nil =>
          rw [List.perm_singleton.mp hperm]
          constructor
          · rintro ⟨⟩
            next hspells => exact .given ((h json json' hjson).mp hspells)
          · rintro ⟨⟩
            next hspells => exact .given ((h json json' hjson).mpr hspells)
      | cons =>
          -- two values or more set nothing, whichever comes first
          constructor
          · rintro ⟨⟩ <;> simp at hperm
          · rintro ⟨⟩

/-- What is said of the values that a document offers is said of the rearranged document. -/
theorem exists_offers_iff_of_rearranges {json json' : Json} (h : Rearranges json json')
    {first second third : String} {P : List Json × List Json × List Json → Prop}
    (hP : ∀ s t : List Json × List Json × List Json, Reoffers s.1 t.1 → Reoffers s.2.1 t.2.1 →
      Reoffers s.2.2 t.2.2 → (P s ↔ P t)) :
    (∃ s, Json.offers first second third json = some s ∧ P s) ↔
      ∃ t, Json.offers first second third json' = some t ∧ P t := by
  have hoffers := Json.offers_rearranged h first second third
  generalize Json.offers first second third json = offered at hoffers ⊢
  generalize Json.offers first second third json' = offered' at hoffers ⊢
  cases hoffers with
  | none => simp
  | some hst => simpa using hP _ _ hst.1 hst.2.1 hst.2.2

/-! ## Spellings in any order -/

theorem textSpelling_iff_of_rearranges {json json' : Json} {s : String}
    (h : Rearranges json json') : TextSpelling json s ↔ TextSpelling json' s := by
  cases h with
  | same => rfl
  | array => constructor <;> rintro ⟨⟩
  | object => constructor <;> rintro ⟨⟩

theorem operatorSpelling_iff_of_rearranges {α : Type} {texts : α → List String}
    {json json' : Json} {operator : Option α} (h : Rearranges json json') :
    OperatorSpelling texts json operator ↔ OperatorSpelling texts json' operator := by
  cases h with
  | same => rfl
  | array => constructor <;> rintro ⟨⟩
  | object => constructor <;> rintro ⟨⟩

theorem Comparison.spelling_iff_exists (json : Json) (l : Comparison) :
    Comparison.Spelling json l ↔
      ∃ s, Json.offers "name" "operator" "value" json = some s ∧
        OptionalField TextSpelling "" s.1 l.name ∧
        OptionalField (OperatorSpelling CompareOp.texts) none s.2.1 l.operator ∧
        OptionalField TextSpelling "" s.2.2 l.value := by
  constructor
  · rintro ⟨hoffers, hname, hoperator, hvalue⟩
    exact ⟨_, hoffers, hname, hoperator, hvalue⟩
  · rintro ⟨s, hoffers, hname, hoperator, hvalue⟩
    exact .fields hoffers hname hoperator hvalue

theorem Comparison.spelling_iff_of_rearranges {json json' : Json} {l : Comparison}
    (h : Rearranges json json') : Comparison.Spelling json l ↔ Comparison.Spelling json' l := by
  rw [spelling_iff_exists, spelling_iff_exists]
  refine exists_offers_iff_of_rearranges h fun s t hnames hoperators hvalues => ?_
  rw [optionalField_iff_of_reoffers (fun _ _ => textSpelling_iff_of_rearranges) hnames,
    optionalField_iff_of_reoffers (fun _ _ => operatorSpelling_iff_of_rearranges) hoperators,
    optionalField_iff_of_reoffers (fun _ _ => textSpelling_iff_of_rearranges) hvalues]

theorem nullableSpelling_iff_of_rearranges {json json' : Json} {l : Option Comparison}
    (h : Rearranges json json') :
    NullableSpelling Comparison.Spelling json l ↔ NullableSpelling Comparison.Spelling json' l := by
  have hspelling (l : Comparison) := Comparison.spelling_iff_of_rearranges (l := l) h
  cases h with
  | same => rfl
  | array | object =>
      constructor
      · rintro (_ | hl)
        exact .present ((hspelling _).mp hl)
      · rintro (_ | hl)
        exact .present ((hspelling _).mpr hl)

namespace Condition

/-- A condition that is spelled the same by rearranged documents. -/
def IgnoresOrder (c : Condition) : Prop :=
  ∀ json json', Rearranges json json' → (Spelling json c ↔ Spelling json' c)

theorem forall₂_spelling_iff {items items' : List Json}
    (h : List.Forall₂ Rearranges items items') {cs : List Condition}
    (hcs : ∀ c ∈ cs, c.IgnoresOrder) :
    List.Forall₂ Spelling items cs ↔ List.Forall₂ Spelling items' cs := by
  induction h generalizing cs with
  | nil => rfl
  | cons hitem _ ih =>
      cases cs with
      | nil => constructor <;> rintro ⟨⟩
      | cons c cs =>
          obtain ⟨hc, hcs⟩ := List.forall_mem_cons.mp hcs
          rw [List.forall₂_cons, List.forall₂_cons, hc _ _ hitem, ih hcs]

theorem arraySpelling_iff_of_rearranges {cs : List Condition} (hcs : ∀ c ∈ cs, c.IgnoresOrder)
    {json json' : Json} (h : Rearranges json json') :
    ArraySpelling Spelling json cs ↔ ArraySpelling Spelling json' cs := by
  cases h with
  | same => rfl
  | array hitems =>
      constructor
      · rintro ⟨hall⟩
        exact .items ((forall₂_spelling_iff hitems hcs).mp hall)
      · rintro ⟨hall⟩
        exact .items ((forall₂_spelling_iff hitems hcs).mpr hall)
  | object => constructor <;> rintro ⟨⟩

theorem spelling_iff_exists (json : Json) (c : Condition) :
    Spelling json c ↔
      ∃ s, Json.offers "operator" "attribute" "conditions" json = some s ∧
        OptionalField (OperatorSpelling Connective.texts) none s.1 c.joiner ∧
        OptionalField (NullableSpelling Comparison.Spelling) none s.2.1 c.comparison? ∧
        OptionalField (ArraySpelling Spelling) [] s.2.2 c.children ∧
        IsNode c.joiner c.comparison? c.children c := by
  constructor
  · rintro ⟨hoffers, hjoiner, hcomparison, hchildren, hnode⟩
    cases hnode with
    | leaf l => exact ⟨_, hoffers, hjoiner, hcomparison, hchildren, .leaf l⟩
    | group child children =>
        exact ⟨_, hoffers, hjoiner, hcomparison, hchildren, .group child children⟩
  · rintro ⟨s, hoffers, hjoiner, hcomparison, hchildren, hnode⟩
    exact .fields hoffers hjoiner hcomparison hchildren hnode

theorem ignoresOrder_of_children {c : Condition} (hchildren : ∀ child ∈ c.children,
    child.IgnoresOrder) : c.IgnoresOrder := by
  intro json json' h
  rw [spelling_iff_exists, spelling_iff_exists]
  refine exists_offers_iff_of_rearranges h fun s t hoperators hattributes hconditions => ?_
  rw [optionalField_iff_of_reoffers (fun _ _ => operatorSpelling_iff_of_rearranges) hoperators,
    optionalField_iff_of_reoffers (fun _ _ => nullableSpelling_iff_of_rearranges) hattributes,
    optionalField_iff_of_reoffers (fun _ _ => arraySpelling_iff_of_rearranges hchildren) hconditions]

/-- **The order of members makes no difference**: documents that differ in nothing else spell
the same conditions. -/
theorem ignoresOrder (c : Condition) : c.IgnoresOrder := by
  induction c using Condition.induction with
  | leaf joiner comparison =>
      exact ignoresOrder_of_children fun _ hchild => absurd hchild List.not_mem_nil
  | group joiner children ih => exact ignoresOrder_of_children ih

/-! ## The round trip -/

/-- **A condition is read from its own JSON**, with the members in any order, exactly if it
has no empty group, and from its JSON text exactly if besides no leaf lies under more than 62
groups. No other condition is ever read in its place. -/
theorem read_written_json_iff (c : Condition) :
    (∀ json, Rearranges c.toJson json → ∀ d, ofJson json = .ok d ↔ d = c ∧ c.IsInhabited) ∧
      ∀ d, ofJsonText c.toJsonText = .ok d ↔
        d = c ∧ c.IsInhabited ∧ ∀ n ∈ c.leafDepths, n ≤ 62 := by
  refine ⟨?_, ofJsonText_toJsonText_eq_ok_iff c⟩
  intro json h d
  have hread : ofJson json = .ok d ↔ ofJson c.toJson = .ok d := by
    rw [ofJson, ofJson]
    exact ((decode_eq_ok_iff json d).trans (ignoresOrder d _ _ h).symm).trans
      (decode_eq_ok_iff c.toJson d).symm
  rw [hread, ofJson_toJson_eq_ok_iff]

end Condition

end FilterQuery
