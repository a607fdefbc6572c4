/-
# FilterQuery.Proofs.Condition.Spelling -- the JSON documents that spell a condition

A condition has many spellings in JSON: nodes and comparisons as objects or as arrays, each
on its own, fields left out or set to `null`, operators by their word, their symbol or the
empty string. `Condition.Spelling` lists them without saying how they are read. It looks at
an object through the values of the names that mean something and at an array through the
places of its items (`Json.offers`), and so knows nothing of the order of members or of
other names.

The reader goes through the members one by one and refuses a field that comes twice. What it
makes of a field depends only on the values offered for it (`ReadsTo`), which is how it and
the relation come together: it accepts exactly the spellings, and for each the condition that
it spells (`decode_eq_ok_iff`).
-/
import FilterQuery.Proofs.Condition.Written
import Mathlib.Data.List.Forall2
import Mathlib.Tactic.SplitIfs

namespace FilterQuery

/-! ## What a document offers -/

namespace Json

/-- The values of the members of a name, in order. -/
def valuesAt (key : String) (members : List (String × Json)) : List Json :=
  members.filterMap fun m => if m.1 = key then some m.2 else none

theorem valuesAt_cons (key name : String) (value : Json) (members : List (String × Json)) :
    valuesAt key ((name, value) :: members) =
      if name = key then value :: valuesAt key members else valuesAt key members := by
  rw [valuesAt, List.filterMap_cons]
  split_ifs <;> rfl

theorem sizeOf_lt_of_mem_valuesAt {key : String} {members : List (String × Json)} {value : Json}
    (h : value ∈ valuesAt key members) : sizeOf value < sizeOf members := by
  obtain ⟨⟨name, v⟩, hm, hvalue⟩ := List.mem_filterMap.mp h
  split_ifs at hvalue
  obtain rfl : v = value := Option.some.inj hvalue
  have hlt := List.sizeOf_lt_of_mem hm
  simp only [Prod.mk.sizeOf_spec] at hlt
  omega

/-- **What a document offers for three fields**: an object the values under their names, an
array of no more than three items its items in order. -/
def offers (first second third : String) : Json → Option (List Json × List Json × List Json)
  | .object members =>
    some (valuesAt first members, valuesAt second members, valuesAt third members)
  | .array items =>
    if items.length ≤ 3 then some (items[0]?.toList, items[1]?.toList, items[2]?.toList) else none
  | _ => none

/-- What is offered for the last field lies within the document. It is the only field whose
values hold conditions again. -/
theorem sizeOf_lt_of_offers {first second third : String} {json : Json} {as bs cs : List Json}
    {value : Json} (h : offers first second third json = some (as, bs, cs)) (hvalue : value ∈ cs) :
    sizeOf value < sizeOf json := by
  cases json with
  | object members =>
      cases h
      have hlt := sizeOf_lt_of_mem_valuesAt hvalue
      simp
      omega
  | array items =>
      rw [offers] at h
      split_ifs at h
      cases h
      have hlt := List.sizeOf_lt_of_mem (List.mem_of_getElem? (Option.mem_toList.mp hvalue))
      simp
      omega
  | _ => cases h

end Json

/-! ## Spellings -/

/-- **A field that may be left out**: it is unset if nothing is offered for it, and what the
value spells if one is. More than one value spells nothing. -/
inductive OptionalField {α : Type} (Spells : Json → α → Prop) (unset : α) :
    List Json → α → Prop where
  | absent : OptionalField Spells unset [] unset
  | given {value : Json} {a : α} : Spells value a → OptionalField Spells unset [value] a

/-- A text spells itself. -/
inductive TextSpelling : Json → String → Prop where
  | text (s : String) : TextSpelling (.string s) s

/-- An operator is spelled by one of its texts, and no operator by `null` or no text. -/
inductive OperatorSpelling {α : Type} (texts : α → List String) : Json → Option α → Prop where
  | null : OperatorSpelling texts .null none
  | blank : OperatorSpelling texts (.string "") none
  | spelled {text : String} {op : α} : text ∈ texts op →
      OperatorSpelling texts (.string text) (some op)

/-- What may be left out by `null`. -/
inductive NullableSpelling {α : Type} (Spells : Json → α → Prop) : Json → Option α → Prop where
  | null : NullableSpelling Spells .null none
  | present {value : Json} {a : α} : Spells value a → NullableSpelling Spells value (some a)

/-- An array spells the list of what its items spell. -/
inductive ArraySpelling {α : Type} (Spells : Json → α → Prop) : Json → List α → Prop where
  | items {values : List Json} {as : List α} : List.Forall₂ Spells values as →
      ArraySpelling Spells (.array values) as

theorem ArraySpelling.exists_spells {α : Type} {Spells : Json → α → Prop} {json : Json}
    {as : List α} {a : α} (h : ArraySpelling Spells json as) (ha : a ∈ as) :
    ∃ value, Spells value a := by
  obtain ⟨hvalues⟩ := h
  induction hvalues with
  | nil => cases ha
  | cons hfirst _ ih =>
      rcases List.mem_cons.mp ha with rfl | ha
      · exact ⟨_, hfirst⟩
      · exact ih ha

/-- The texts of a comparison operator. -/
def CompareOp.texts (op : CompareOp) : List String := [op.symbol]

/-- The texts of a connective. -/
def Connective.texts (c : Connective) : List String := [c.word, c.symbol]

/-- **The spellings of a comparison.** -/
inductive Comparison.Spelling : Json → Comparison → Prop where
  | fields {json : Json} {names operators values : List Json} {name value : String}
      {operator : Option CompareOp} :
      Json.offers "name" "operator" "value" json = some (names, operators, values) →
      OptionalField TextSpelling "" names name →
      OptionalField (OperatorSpelling CompareOp.texts) none operators operator →
      OptionalField TextSpelling "" values value →
      Comparison.Spelling json ⟨name, operator, value⟩

namespace Condition

/-- **A node from its fields**, of which exactly one must say what it is: a comparison, or
children, of which there is one at least. -/
inductive IsNode (joiner : Option Connective) :
    Option Comparison → List Condition → Condition → Prop where
  | leaf (l : Comparison) : IsNode joiner (some l) [] (.leaf joiner l)
  | group (child : Condition) (children : List Condition) :
      IsNode joiner none (child :: children) (.group joiner (child :: children))

/-- **The spellings of a condition.** -/
inductive Spelling : Json → Condition → Prop where
  | fields {json : Json} {operators attributes conditions : List Json}
      {joiner : Option Connective} {comparison : Option Comparison} {children : List Condition}
      {c : Condition} :
      Json.offers "operator" "attribute" "conditions" json =
        some (operators, attributes, conditions) →
      OptionalField (OperatorSpelling Connective.texts) none operators joiner →
      OptionalField (NullableSpelling Comparison.Spelling) none attributes comparison →
      OptionalField (ArraySpelling Spelling) [] conditions children →
      IsNode joiner comparison children c → Spelling json c

end Condition

/-! ## Reading a field -/

/-- **What becomes of a field** that had the value `old` when the values offered for it are
read: it keeps its value if there are none, and takes one value if it had none. -/
inductive ReadsTo {α : Type} (read : Json → Except DecodeError α) :
    Option α → List Json → Option α → Prop where
  | keep {old : Option α} : ReadsTo read old [] old
  | set {value : Json} {a : α} : read value = .ok a → ReadsTo read none [value] (some a)

section Fields

variable {α : Type} {read : Json → Except DecodeError α}

@[simp] theorem readsTo_nil_iff {old new : Option α} : ReadsTo read old [] new ↔ old = new := by
  constructor
  · rintro ⟨⟩
    rfl
  · rintro rfl
    exact .keep

/-- Values are read one after the other, and each sets the field. -/
theorem readsTo_cons_iff {old new : Option α} {value : Json} {values : List Json} :
    ReadsTo read old (value :: values) new ↔
      ∃ mid, setOnce old (read value) = .ok mid ∧ ReadsTo read mid values new := by
  cases old with
  | some a =>
      constructor
      · rintro ⟨⟩
      · rintro ⟨mid, hmid, -⟩
        cases hmid
  | none =>
      rw [setOnce]
      constructor
      · rintro ⟨⟩
        next a hread => exact ⟨some a, by rw [hread]; rfl, .keep⟩
      · rintro ⟨mid, hmid, hrest⟩
        cases hread : read value with
        | error e => rw [hread] at hmid; cases hmid
        | ok a =>
            rw [hread] at hmid
            cases hmid
            cases hrest
            exact .set hread

@[simp] theorem setOnce_none_eq_ok_iff {x : Except DecodeError α} {field : Option α} :
    setOnce none x = .ok field ↔ ∃ a, x = .ok a ∧ some a = field := by
  cases x <;> simp [setOnce, Except.map]

/-- A field reads as what is spelled for it, if its values do. -/
theorem exists_readsTo_iff {Spells : Json → α → Prop} {values : List Json} {unset a : α}
    (h : ∀ value ∈ values, ∀ a, read value = .ok a ↔ Spells value a) :
    (∃ field, ReadsTo read none values field ∧ field.getD unset = a) ↔
      OptionalField Spells unset values a := by
  constructor
  · rintro ⟨field, ⟨⟩, rfl⟩
    · exact .absent
    · next hread => exact .given ((h _ (by simp) _).mp hread)
  · rintro ⟨⟩
    · exact ⟨none, .keep, rfl⟩
    · next value hvalue => exact ⟨some a, .set ((h value (by simp) a).mpr hvalue), rfl⟩

end Fields

/-! ## Scalars -/

theorem decodeText_eq_ok_iff (json : Json) (s : String) :
    decodeText json = .ok s ↔ TextSpelling json s := by
  constructor
  · intro h
    cases json <;> cases h
    exact .text s
  · rintro ⟨⟩
    rfl

theorem CompareOp.read_eq_ok_iff (text : String) (op : CompareOp) :
    CompareOp.read text = .ok op ↔ text ∈ op.texts := by
  rw [texts, List.mem_singleton]
  constructor
  · intro h
    unfold CompareOp.read at h
    split_ifs at h <;> cases h <;> assumption
  · rintro rfl
    exact CompareOp.read_symbol op

theorem Connective.read_eq_ok_iff (text : String) (c : Connective) :
    Connective.read text = .ok c ↔ text ∈ c.texts := by
  rw [texts, List.mem_cons, List.mem_singleton]
  constructor
  · intro h
    unfold Connective.read at h
    split_ifs at h <;> cases h <;> assumption
  · rintro (rfl | rfl)
    · exact Connective.read_word c
    · exact Connective.read_symbol c

/-- Reading an operator, given how its texts are read and that none of them is empty. -/
theorem decodeOperator_eq_ok_iff {α : Type} {read : String → Except OperatorError α}
    {texts : α → List String} (hread : ∀ text op, read text = .ok op ↔ text ∈ texts op)
    (hblank : ∀ op, "" ∉ texts op) (json : Json) (operator : Option α) :
    decodeOperator read json = .ok operator ↔ OperatorSpelling texts json operator := by
  constructor
  · intro h
    cases json with
    | null => cases h; exact .null
    | string text =>
        rw [decodeOperator] at h
        by_cases htext : text = ""
        · rw [if_pos htext] at h
          cases h
          subst htext
          exact .blank
        · rw [if_neg htext] at h
          cases hop : read text with
          | error e => rw [hop] at h; cases h
          | ok op =>
              rw [hop] at h
              cases h
              exact .spelled ((hread text op).mp hop)
    | _ => cases h
  · rintro (_ | _ | hmem)
    · rfl
    · rfl
    · next text op =>
      have htext : text ≠ "" := by
        rintro rfl
        exact hblank op hmem
      rw [decodeOperator, if_neg htext, (hread text op).mpr hmem]

theorem textField_iff {values : List Json} {s : String} :
    (∃ field, ReadsTo decodeText none values field ∧ field.getD "" = s) ↔
      OptionalField TextSpelling "" values s :=
  exists_readsTo_iff fun value _ => decodeText_eq_ok_iff value

theorem compareOpField_iff {values : List Json} {operator : Option CompareOp} :
    (∃ field, ReadsTo (decodeOperator CompareOp.read) none values field ∧
        field.getD none = operator) ↔
      OptionalField (OperatorSpelling CompareOp.texts) none values operator :=
  exists_readsTo_iff fun value _ => decodeOperator_eq_ok_iff CompareOp.read_eq_ok_iff
    (fun op => by cases op <;> simp [CompareOp.texts, CompareOp.symbol]) value

theorem connectiveField_iff {values : List Json} {operator : Option Connective} :
    (∃ field, ReadsTo (decodeOperator Connective.read) none values field ∧
        field.getD none = operator) ↔
      OptionalField (OperatorSpelling Connective.texts) none values operator :=
  exists_readsTo_iff fun value _ => decodeOperator_eq_ok_iff Connective.read_eq_ok_iff
    (fun c => by cases c <;> simp [Connective.texts, Connective.symbol, Connective.word]) value

/-! ## Comparisons -/

/-- Which values may be passed over when a document is read that has no holes. -/
def passesAll : Json → Bool := fun _ => true

theorem ComparisonFields.readMembers_eq_ok_iff (members : List (String × Json))
    (f g : ComparisonFields) :
    f.readMembers passesAll members = .ok g ↔
      ReadsTo decodeText f.name (Json.valuesAt "name" members) g.name ∧
        ReadsTo (decodeOperator CompareOp.read) f.operator (Json.valuesAt "operator" members)
          g.operator ∧
        ReadsTo decodeText f.value (Json.valuesAt "value" members) g.value := by
  induction members generalizing f with
  | nil =>
      obtain ⟨name, operator, value⟩ := f
      obtain ⟨name', operator', value'⟩ := g
      simp [readMembers, Json.valuesAt]
  | cons m members ih =>
      obtain ⟨key, d⟩ := m
      simp only [Json.valuesAt_cons]
      rw [readMembers]
      -- the value goes to the front of what is offered under its name, and to no other name
      by_cases hname : key = "name"
      · subst hname
        simp only [↓reduceIte, String.reduceEq, bind_eq_ok_iff, ih, readsTo_cons_iff]
        grind
      by_cases hoperator : key = "operator"
      · subst hoperator
        simp only [↓reduceIte, String.reduceEq, bind_eq_ok_iff, ih, readsTo_cons_iff]
        grind
      by_cases hvalue : key = "value"
      · subst hvalue
        simp only [↓reduceIte, String.reduceEq, bind_eq_ok_iff, ih, readsTo_cons_iff]
        grind
      · simp [hname, hoperator, hvalue, passesAll, ih]

theorem ComparisonFields.readItems_eq_ok_iff (items : List Json) (g : ComparisonFields) :
    ComparisonFields.readItems items = .ok g ↔
      items.length ≤ 3 ∧ ReadsTo decodeText .none items[0]?.toList g.name ∧
        ReadsTo (decodeOperator CompareOp.read) .none items[1]?.toList g.operator ∧
        ReadsTo decodeText .none items[2]?.toList g.value := by
  obtain ⟨name, operator, value⟩ := g
  -- the reader has a branch for each number of items
  match items with
  | [] => simp [readItems, none]
  | [n] =>
      simp [readItems, none, map_eq_ok_iff, readsTo_cons_iff]
      grind
  | [n, o] =>
      simp [readItems, none, bind_eq_ok_iff, map_eq_ok_iff, readsTo_cons_iff]
      grind
  | [n, o, v] =>
      simp [readItems, bind_eq_ok_iff, map_eq_ok_iff, readsTo_cons_iff]
      grind
  | n :: o :: v :: extra :: rest =>
      simp [readItems, bind_eq_ok_iff]

/-- Reading a comparison reads the values that a document offers. -/
theorem Comparison.decode_eq_ok_iff_offers (json : Json) (l : Comparison) :
    Comparison.decode passesAll json = .ok l ↔
      ∃ names operators values,
        Json.offers "name" "operator" "value" json = some (names, operators, values) ∧
        ∃ g : ComparisonFields, (ReadsTo decodeText .none names g.name ∧
          ReadsTo (decodeOperator CompareOp.read) .none operators g.operator ∧
          ReadsTo decodeText .none values g.value) ∧ g.finish = l := by
  cases json with
  | object members =>
      simp [decode, map_eq_ok_iff, Json.offers, ComparisonFields.readMembers_eq_ok_iff,
        ComparisonFields.none]
  | array items =>
      simp [decode, map_eq_ok_iff, Json.offers, ComparisonFields.readItems_eq_ok_iff, and_assoc]
  | _ => simp [decode, Json.offers]

/-- **A comparison is read from its spellings**, and from nothing else. -/
theorem Comparison.decode_eq_ok_iff (json : Json) (l : Comparison) :
    Comparison.decode passesAll json = .ok l ↔ Comparison.Spelling json l := by
  rw [Comparison.decode_eq_ok_iff_offers]
  constructor
  · rintro ⟨names, operators, values, hoffers, g, ⟨hname, hoperator, hvalue⟩, rfl⟩
    exact .fields hoffers (textField_iff.mp ⟨_, hname, rfl⟩)
      (compareOpField_iff.mp ⟨_, hoperator, rfl⟩) (textField_iff.mp ⟨_, hvalue, rfl⟩)
  · rintro ⟨hoffers, hnames, hoperators, hvalues⟩
    obtain ⟨name, hname, rfl⟩ := textField_iff.mpr hnames
    obtain ⟨operator, hoperator, rfl⟩ := compareOpField_iff.mpr hoperators
    obtain ⟨value, hvalue, rfl⟩ := textField_iff.mpr hvalues
    exact ⟨_, _, _, hoffers, ⟨name, operator, value⟩, ⟨hname, hoperator, hvalue⟩, rfl⟩

/-- A value that is not `null` is read as a comparison. -/
theorem Comparison.decode?_of_ne_null {json : Json} (h : json ≠ .null) :
    Comparison.decode? passesAll json = some <$> Comparison.decode passesAll json := by
  cases json with
  | null => exact absurd rfl h
  | _ => rfl

theorem Comparison.decode?_eq_ok_iff (json : Json) (l : Option Comparison) :
    Comparison.decode? passesAll json = .ok l ↔ NullableSpelling Comparison.Spelling json l := by
  by_cases hnull : json = .null
  · subst hnull
    constructor
    · rintro ⟨⟩
      exact .null
    · rintro (_ | ⟨⟨hoffers, -, -, -⟩⟩)
      · rfl
      · cases hoffers
  · rw [Comparison.decode?_of_ne_null hnull, map_eq_ok_iff]
    simp only [Comparison.decode_eq_ok_iff]
    constructor
    · rintro ⟨l, hl, rfl⟩
      exact .present hl
    · rintro (_ | hl)
      · exact absurd rfl hnull
      · exact ⟨_, hl, rfl⟩

theorem comparisonField_iff {values : List Json} {comparison : Option Comparison} :
    (∃ field, ReadsTo (Comparison.decode? passesAll) none values field ∧
        field.getD none = comparison) ↔
      OptionalField (NullableSpelling Comparison.Spelling) none values comparison :=
  exists_readsTo_iff fun value _ => Comparison.decode?_eq_ok_iff value

/-! ## Nodes -/

namespace Condition

theorem decodeMembers_eq_ok_iff (members : List (String × Json)) (f g : NodeFields) :
    decodeMembers passesAll f members = .ok g ↔
      ReadsTo (decodeOperator Connective.read) f.joiner (Json.valuesAt "operator" members)
          g.joiner ∧
        ReadsTo (Comparison.decode? passesAll) f.comparison (Json.valuesAt "attribute" members)
          g.comparison ∧
        ReadsTo (decodeChildren passesAll) f.children (Json.valuesAt "conditions" members)
          g.children := by
  induction members generalizing f with
  | nil =>
      obtain ⟨joiner, comparison, children⟩ := f
      obtain ⟨joiner', comparison', children'⟩ := g
      simp [decodeMembers, Json.valuesAt]
  | cons m members ih =>
      obtain ⟨key, d⟩ := m
      simp only [Json.valuesAt_cons]
      rw [decodeMembers]
      by_cases hoperator : key = "operator"
      · subst hoperator
        simp only [↓reduceIte, String.reduceEq, bind_eq_ok_iff, ih, readsTo_cons_iff]
        grind
      by_cases hattribute : key = "attribute"
      · subst hattribute
        simp only [↓reduceIte, String.reduceEq, bind_eq_ok_iff, ih, readsTo_cons_iff]
        grind
      by_cases hconditions : key = "conditions"
      · subst hconditions
        simp only [↓reduceIte, String.reduceEq, bind_eq_ok_iff, ih, readsTo_cons_iff]
        grind
      · simp [hoperator, hattribute, hconditions, passesAll, ih]

theorem decodeItems_eq_ok_iff (items : List Json) (g : NodeFields) :
    decodeItems passesAll items = .ok g ↔
      items.length ≤ 3 ∧
        ReadsTo (decodeOperator Connective.read) none items[0]?.toList g.joiner ∧
        ReadsTo (Comparison.decode? passesAll) none items[1]?.toList g.comparison ∧
        ReadsTo (decodeChildren passesAll) none items[2]?.toList g.children := by
  obtain ⟨joiner, comparison, children⟩ := g
  match items with
  | [] => simp [decodeItems, NodeFields.none]
  | [o] =>
      simp [decodeItems, NodeFields.none, map_eq_ok_iff, readsTo_cons_iff]
      grind
  | [o, a] =>
      simp [decodeItems, NodeFields.none, bind_eq_ok_iff, map_eq_ok_iff, readsTo_cons_iff]
      grind
  | [o, a, d] =>
      simp [decodeItems, bind_eq_ok_iff, map_eq_ok_iff, readsTo_cons_iff]
      grind
  | o :: a :: d :: extra :: rest =>
      simp [decodeItems, bind_eq_ok_iff]

/-- Reading a condition reads the values that a document offers. -/
theorem decode_eq_ok_iff_offers (json : Json) (c : Condition) :
    decode passesAll json = .ok c ↔
      ∃ operators attributes conditions,
        Json.offers "operator" "attribute" "conditions" json =
          some (operators, attributes, conditions) ∧
        ∃ g : NodeFields, (ReadsTo (decodeOperator Connective.read) none operators g.joiner ∧
          ReadsTo (Comparison.decode? passesAll) none attributes g.comparison ∧
          ReadsTo (decodeChildren passesAll) none conditions g.children) ∧ g.finish = .ok c := by
  cases json with
  | object members =>
      simp [decode, bind_eq_ok_iff, Json.offers, decodeMembers_eq_ok_iff, NodeFields.none]
  | array items =>
      simp [decode, bind_eq_ok_iff, Json.offers, decodeItems_eq_ok_iff, and_assoc]
  | _ => simp [decode, Json.offers]

theorem finish_eq_ok_iff (f : NodeFields) (c : Condition) :
    f.finish = .ok c ↔
      IsNode (f.joiner.getD none) (f.comparison.getD none) (f.children.getD []) c := by
  rw [NodeFields.finish]
  generalize f.joiner.getD none = joiner
  generalize f.comparison.getD none = comparison
  generalize f.children.getD [] = children
  constructor
  · intro h
    rcases comparison with _ | l <;> rcases children with _ | ⟨child, children⟩ <;> cases h
    · exact .group child children
    · exact .leaf l
  · rintro (_ | _) <;> rfl

theorem decodeAll_eq_ok_iff {items : List Json}
    (h : ∀ item ∈ items, ∀ c, decode passesAll item = .ok c ↔ Spelling item c)
    (cs : List Condition) :
    decodeAll passesAll items = .ok cs ↔ List.Forall₂ Spelling items cs := by
  induction items generalizing cs with
  | nil => simp [decodeAll, eq_comm]
  | cons item items ih =>
      obtain ⟨hitem, hitems⟩ := List.forall_mem_cons.mp h
      simp only [decodeAll, bind_eq_ok_iff, hitem, ih hitems, List.forall₂_cons_left_iff]
      constructor
      · rintro ⟨c, hc, cs', hcs', ⟨⟩⟩
        exact ⟨c, cs', hc, hcs', rfl⟩
      · rintro ⟨c, cs', hc, hcs', rfl⟩
        exact ⟨c, hc, cs', hcs', rfl⟩

/-- Children are read from an array of their spellings, given that its items are read so. -/
theorem decodeChildren_eq_ok_iff {json : Json}
    (h : ∀ item : Json, sizeOf item < sizeOf json →
      ∀ c, decode passesAll item = .ok c ↔ Spelling item c)
    (cs : List Condition) :
    decodeChildren passesAll json = .ok cs ↔ ArraySpelling Spelling json cs := by
  cases json with
  | array items =>
      have hitems : ∀ item ∈ items, ∀ c, decode passesAll item = .ok c ↔ Spelling item c := by
        intro item hitem
        have hlt := List.sizeOf_lt_of_mem hitem
        exact h item (by simp; omega)
      rw [decodeChildren, decodeAll_eq_ok_iff hitems]
      constructor
      · exact .items
      · rintro ⟨hcs⟩
        exact hcs
  | _ =>
      constructor
      · rintro ⟨⟩
      · rintro ⟨⟩

/-- **A condition is read from its spellings**, and from nothing else. -/
theorem decode_eq_ok_iff (json : Json) (c : Condition) :
    decode passesAll json = .ok c ↔ Spelling json c := by
  induction hsize : sizeOf json using Nat.strongRecOn generalizing json c with
  | _ size ih =>
      subst hsize
      rw [decode_eq_ok_iff_offers]
      -- the children are items of a value in the document, so they are smaller than it
      have hchildren {operators attributes conditions : List Json} (children : List Condition)
          (hoffers : Json.offers "operator" "attribute" "conditions" json =
            some (operators, attributes, conditions)) :
          (∃ field, ReadsTo (decodeChildren passesAll) none conditions field ∧
              field.getD [] = children) ↔
            OptionalField (ArraySpelling Spelling) [] conditions children := by
        refine exists_readsTo_iff fun value hvalue => decodeChildren_eq_ok_iff fun item hitem c => ?_
        have hlt := Json.sizeOf_lt_of_offers hoffers hvalue
        exact ih (sizeOf item) (by omega) item c rfl
      constructor
      · rintro ⟨operators, attributes, conditions, hoffers, g, ⟨hjoiner, hcomparison, hg⟩, hfinish⟩
        exact .fields hoffers (connectiveField_iff.mp ⟨_, hjoiner, rfl⟩)
          (comparisonField_iff.mp ⟨_, hcomparison, rfl⟩) ((hchildren _ hoffers).mp ⟨_, hg, rfl⟩)
          ((finish_eq_ok_iff g c).mp hfinish)
      · rintro ⟨hoffers, hoperators, hattributes, hconditions, hnode⟩
        obtain ⟨joiner, hjoiner, rfl⟩ := connectiveField_iff.mpr hoperators
        obtain ⟨comparison, hcomparison, rfl⟩ := comparisonField_iff.mpr hattributes
        obtain ⟨children, hread, rfl⟩ := (hchildren _ hoffers).mpr hconditions
        refine ⟨_, _, _, hoffers, ⟨joiner, comparison, children⟩, ⟨hjoiner, hcomparison, hread⟩, ?_⟩
        exact (finish_eq_ok_iff _ c).mpr hnode

/-! ## What is spelled -/

/-- What is spelled has no empty group. -/
theorem Spelling.isInhabited {json : Json} {c : Condition} (h : Spelling json c) :
    c.IsInhabited := by
  induction c using Condition.induction generalizing json with
  | leaf joiner comparison => exact isInhabited_leaf joiner comparison
  | group joiner children ih =>
      obtain ⟨-, -, -, hconditions, hnode⟩ := h
      obtain ⟨child, children⟩ := hnode
      -- there are children, so a value was given for them
      cases hconditions with
      | given hvalue =>
          refine isInhabited_group_iff.mpr ⟨List.cons_ne_nil _ _, fun c hc => ?_⟩
          obtain ⟨item, hitem⟩ := hvalue.exists_spells hc
          exact ih c hc hitem

/-- **What reading JSON accepts**: a document is read as a condition exactly if it spells it,
all spellings of a condition are read alike, and the conditions that are read from some
document are those without empty groups. -/
theorem ofJson_eq_ok_iff_spelling :
    (∀ json c, ofJson json = .ok c ↔ Spelling json c) ∧
      (∀ json json' c, Spelling json c → Spelling json' c → ofJson json = ofJson json') ∧
      ∀ c, (∃ json, ofJson json = .ok c) ↔ c.IsInhabited := by
  have hread : ∀ json c, ofJson json = .ok c ↔ Spelling json c := decode_eq_ok_iff
  refine ⟨hread, ?_, ?_⟩
  · intro json json' c h h'
    rw [(hread json c).mpr h, (hread json' c).mpr h']
  · intro c
    constructor
    · rintro ⟨json, hjson⟩
      exact ((hread json c).mp hjson).isInhabited
    · intro hc
      exact ⟨c.toJson, (ofJson_toJson_eq_ok_iff c c).mpr ⟨rfl, hc⟩⟩

end Condition

end FilterQuery
