/-
# FilterQuery.Proofs.Json.Nesting -- how much of a nested document reading keeps

A reader of JSON text stops keeping arrays and objects at some depth and leaves a hole for
each that lies below it. `Doc.kept` is the document with these holes, and reading the text
of a document gives exactly that (`readDraft_compact`).

The proof follows the stack of open arrays and objects: whatever is open around it, a
written document is placed there as what is kept of it, and reading goes on behind it
(`build_written`). What is kept is intact, so that a hole for it is one that may be skipped.
-/
import FilterQuery.Proofs.Json.Lexing

namespace FilterQuery

namespace Doc

variable {flaw : Type}

mutual

/-- **What is kept of a document** that stands at a depth: an array or object that lies so
deep that `tooDeep` names a flaw for it is a hole. -/
def kept (tooDeep : Nat → Option flaw) (depth : Nat) : Json → Doc flaw
  | .hole f => f.elim
  | .null => .null
  | .bool b => .bool b
  | .number n => .number n
  | .string s => .string s
  | .array items =>
    match tooDeep (depth + 1) with
    | some f => .hole f
    | none => .array (keptItems tooDeep (depth + 1) items)
  | .object members =>
    match tooDeep (depth + 1) with
    | some f => .hole f
    | none => .object (keptMembers tooDeep (depth + 1) members)

/-- What is kept of the items of an array. -/
def keptItems (tooDeep : Nat → Option flaw) (depth : Nat) : List Json → List (Doc flaw)
  | [] => []
  | item :: items => kept tooDeep depth item :: keptItems tooDeep depth items

/-- What is kept of the members of an object. -/
def keptMembers (tooDeep : Nat → Option flaw) (depth : Nat) :
    List (String × Json) → List (String × Doc flaw)
  | [] => []
  | (name, value) :: members =>
    (name, kept tooDeep depth value) :: keptMembers tooDeep depth members

end

theorem kept_array (tooDeep : Nat → Option flaw) (depth : Nat) (items : List Json) :
    kept tooDeep depth (.array items) =
      match tooDeep (depth + 1) with
      | some f => .hole f
      | none => .array (keptItems tooDeep (depth + 1) items) := by
  rw [kept]

theorem kept_object (tooDeep : Nat → Option flaw) (depth : Nat) (members : List (String × Json)) :
    kept tooDeep depth (.object members) =
      match tooDeep (depth + 1) with
      | some f => .hole f
      | none => .object (keptMembers tooDeep (depth + 1) members) := by
  rw [kept]

theorem keptMembers_append (tooDeep : Nat → Option flaw) (depth : Nat)
    (ms ns : List (String × Json)) :
    keptMembers tooDeep depth (ms ++ ns) =
      keptMembers tooDeep depth ms ++ keptMembers tooDeep depth ns := by
  induction ms with
  | nil => rfl
  | cons m ms ih => obtain ⟨name, value⟩ := m; simp [keptMembers, ih]

theorem keptItems_eq_self {items : List Json}
    (h : ∀ item ∈ items, ∀ depth, kept (fun _ => none) depth item = item) (depth : Nat) :
    keptItems (fun _ => none) depth items = items := by
  induction items with
  | nil => rfl
  | cons item items ih =>
      obtain ⟨hitem, hitems⟩ := List.forall_mem_cons.mp h
      rw [keptItems, hitem, ih hitems]

theorem keptMembers_eq_self {members : List (String × Json)}
    (h : ∀ m ∈ members, ∀ depth, kept (fun _ => none) depth m.2 = m.2) (depth : Nat) :
    keptMembers (fun _ => none) depth members = members := by
  induction members with
  | nil => rfl
  | cons m members ih =>
      obtain ⟨hm, hmembers⟩ := List.forall_mem_cons.mp h
      rw [keptMembers, hm, ih hmembers]

/-- Without a limit a document is kept whole. -/
theorem kept_eq_self {d : Json} (hd : Json.IsTextual d) (depth : Nat) :
    kept (fun _ => none) depth d = d := by
  induction hd generalizing depth with
  | string s => rfl
  | array _ ih => rw [Doc.kept_array, keptItems_eq_self ih]
  | object _ ih => rw [Doc.kept_object, keptMembers_eq_self ih]

end Doc

namespace Json

open Doc (kept keptItems keptMembers)

/-- The flaw of arrays and objects beyond a limit. -/
def beyond (limit depth : Nat) : Option Flaw := if depth ≤ limit then none else some .unusable

theorem beyond_eq_none_iff {limit depth : Nat} : beyond limit depth = none ↔ depth ≤ limit := by
  unfold beyond
  split <;> simp_all

theorem beyond_eq_none_of_le {limit m n : Nat} (hmn : m ≤ n) (hn : beyond limit n = none) :
    beyond limit m = none :=
  beyond_eq_none_iff.mpr (Nat.le_trans hmn (beyond_eq_none_iff.mp hn))

/-! ## What is kept is intact -/

variable (limit : Nat)

theorem intactItems_keptItems {items : List Json}
    (h : ∀ item ∈ items, ∀ depth, Draft.intact (kept (beyond limit) depth item) = true)
    (depth : Nat) : Draft.intactItems (keptItems (beyond limit) depth items) = true := by
  induction items with
  | nil => rfl
  | cons item items ih =>
      obtain ⟨hitem, hitems⟩ := List.forall_mem_cons.mp h
      rw [keptItems, Draft.intactItems, hitem depth, ih hitems]
      rfl

theorem intactMembers_keptMembers {members : List (String × Json)}
    (h : ∀ m ∈ members, ∀ depth, Draft.intact (kept (beyond limit) depth m.2) = true)
    (depth : Nat) : Draft.intactMembers (keptMembers (beyond limit) depth members) = true := by
  induction members with
  | nil => rfl
  | cons m members ih =>
      obtain ⟨hm, hmembers⟩ := List.forall_mem_cons.mp h
      obtain ⟨name, value⟩ := m
      rw [keptMembers, Draft.intactMembers, hm depth, ih hmembers]
      rfl

/-- What is kept of a document has no holes but those that may be skipped. -/
theorem intact_kept {d : Json} (hd : IsTextual d) (depth : Nat) :
    Draft.intact (kept (beyond limit) depth d) = true := by
  induction hd generalizing depth with
  | string s => rfl
  | @array items _ ih =>
      rw [Doc.kept_array, beyond]
      split_ifs
      · exact intactItems_keptItems limit ih (depth + 1)
      · rfl
  | @object members _ ih =>
      rw [Doc.kept_object, beyond]
      split_ifs
      · exact intactMembers_keptMembers limit ih (depth + 1)
      · rfl

/-! ## Building -/

/-- **What reading does with a complete value**: it is the document, or it is put into the
innermost of the open arrays and objects and reading goes on. -/
def settle (value : Draft) (rest : List Lexeme) : List Frame → Draft × List Lexeme
  | [] => (value, rest)
  | frame :: outer => build limit (frame.add value :: outer) .separator rest

/-- A document may be read wherever a value is expected, also as the first item. -/
def Expects.allowsValue : Expects → Bool
  | .value => true
  | .itemOrClose => true
  | _ => false

/-- **A document that is built wherever a value may stand.** -/
def IsBuilt (d : Json) : Prop :=
  ∀ (frames : List Frame) (expects : Expects) (rest : List Lexeme), expects.allowsValue = true →
    build limit frames expects (written d ++ rest) =
      settle limit (kept (beyond limit) frames.length d) rest frames

theorem isBuilt_string (s : String) : IsBuilt limit (.string s) := by
  intro frames expects rest hexpects
  cases expects <;> cases hexpects <;> cases frames <;> rfl

/-- An array that is closed is placed as a whole. -/
theorem build_closeArray (items : List Draft) (outer : List Frame) (expects : Expects)
    (rest : List Lexeme) (hexpects : expects = .itemOrClose ∨ expects = .separator) :
    build limit (.array items :: outer) expects (.closeArray :: rest) =
      settle limit (Frame.closeAt limit (outer.length + 1) (.array items)) rest outer := by
  rcases hexpects with rfl | rfl <;> cases outer <;> rfl

theorem build_closeObject (members : List (String × Draft)) (key : Option String)
    (outer : List Frame) (expects : Expects) (rest : List Lexeme)
    (hexpects : expects = .keyOrClose ∨ expects = .separator) :
    build limit (.object members key :: outer) expects (.closeObject :: rest) =
      settle limit (Frame.closeAt limit (outer.length + 1) (.object members key)) rest outer := by
  rcases hexpects with rfl | rfl <;> cases outer <;> rfl

/-- The items behind the first are put into the array one by one. -/
theorem build_writtenItems {items : List Json} (hitems : ∀ item ∈ items, IsBuilt limit item)
    (before : List Draft) (outer : List Frame) (rest : List Lexeme) :
    build limit (.array before :: outer) .separator
        (writtenItems [.comma] items ++ .closeArray :: rest) =
      settle limit (Frame.closeAt limit (outer.length + 1) (.array
        ((keptItems (beyond limit) (outer.length + 1) items).reverse ++ before))) rest outer := by
  induction items generalizing before with
  | nil => exact build_closeArray limit before outer .separator rest (Or.inr rfl)
  | cons item items ih =>
      obtain ⟨hitem, hitems⟩ := List.forall_mem_cons.mp hitems
      have hvalue := hitem (.array before :: outer) .value
        (writtenItems [.comma] items ++ .closeArray :: rest) rfl
      rw [writtenItems, List.append_assoc, List.append_assoc, List.singleton_append, build]
      -- the comma leads on to a value
      refine hvalue.trans ?_
      rw [settle, Frame.add, ih hitems, keptItems, List.reverse_cons, List.append_assoc]
      rfl

theorem build_writtenMembers {members : List (String × Json)}
    (hmembers : ∀ m ∈ members, IsBuilt limit m.2) (before : List (String × Draft))
    (outer : List Frame) (rest : List Lexeme) :
    build limit (.object before none :: outer) .separator
        (writtenMembers [.comma] members ++ .closeObject :: rest) =
      settle limit (Frame.closeAt limit (outer.length + 1) (.object
        ((keptMembers (beyond limit) (outer.length + 1) members).reverse ++ before) none))
        rest outer := by
  induction members generalizing before with
  | nil => exact build_closeObject limit before none outer .separator rest (Or.inr rfl)
  | cons m members ih =>
      obtain ⟨name, value⟩ := m
      obtain ⟨hvalue, hmembers⟩ := List.forall_mem_cons.mp hmembers
      have hbuilt := hvalue (.object before (some name) :: outer) .value
        (writtenMembers [.comma] members ++ .closeObject :: rest) rfl
      rw [writtenMembers, List.append_assoc, List.append_assoc, List.singleton_append,
        List.cons_append, List.cons_append, build]
      -- the comma, the name and the colon lead on to a value
      refine hbuilt.trans ?_
      rw [settle, Frame.add, member, ih hmembers, keptMembers, List.reverse_cons, List.append_assoc]
      rfl

/-- An array that is closed is what is kept of it. -/
theorem closeAt_array {items : List Json} (hitems : ∀ item ∈ items, IsTextual item)
    (depth : Nat) :
    Frame.closeAt limit (depth + 1)
        (.array (keptItems (beyond limit) (depth + 1) items).reverse) =
      kept (beyond limit) depth (.array items) := by
  have hintact : Draft.intact (.array (keptItems (beyond limit) (depth + 1) items)) = true :=
    intactItems_keptItems limit (fun item hitem => intact_kept limit (hitems item hitem)) (depth + 1)
  rw [Frame.closeAt, Frame.close, List.reverse_reverse, hintact, if_pos rfl, Doc.kept_array, beyond]
  split_ifs <;> rfl

theorem closeAt_object {members : List (String × Json)} (hmembers : ∀ m ∈ members, IsTextual m.2)
    (depth : Nat) :
    Frame.closeAt limit (depth + 1)
        (.object (keptMembers (beyond limit) (depth + 1) members).reverse none) =
      kept (beyond limit) depth (.object members) := by
  have hintact : Draft.intact (.object (keptMembers (beyond limit) (depth + 1) members)) = true :=
    intactMembers_keptMembers limit (fun m hm => intact_kept limit (hmembers m hm)) (depth + 1)
  rw [Frame.closeAt, Frame.close, List.reverse_reverse, hintact, if_pos rfl, Doc.kept_object, beyond]
  split_ifs <;> rfl

theorem isBuilt_array {items : List Json} (htextual : ∀ item ∈ items, IsTextual item)
    (hitems : ∀ item ∈ items, IsBuilt limit item) : IsBuilt limit (.array items) := by
  intro frames expects rest hexpects
  rw [← closeAt_array limit htextual]
  have hopen : build limit frames expects (written (.array items) ++ rest) =
      build limit (.array [] :: frames) .itemOrClose
        (writtenItems [] items ++ .closeArray :: rest) := by
    rw [written, List.cons_append, List.append_assoc, List.singleton_append]
    cases expects <;> cases hexpects <;> rfl
  rw [hopen]
  cases items with
  | nil => exact build_closeArray limit [] frames .itemOrClose rest (Or.inl rfl)
  | cons item items =>
      obtain ⟨hitem, hitems⟩ := List.forall_mem_cons.mp hitems
      have hvalue := hitem (.array [] :: frames) .itemOrClose
        (writtenItems [.comma] items ++ .closeArray :: rest) rfl
      rw [writtenItems, List.nil_append, List.append_assoc, hvalue, settle, Frame.add,
        build_writtenItems limit hitems, keptItems, List.reverse_cons]
      rfl

theorem isBuilt_object {members : List (String × Json)} (htextual : ∀ m ∈ members, IsTextual m.2)
    (hmembers : ∀ m ∈ members, IsBuilt limit m.2) : IsBuilt limit (.object members) := by
  intro frames expects rest hexpects
  rw [← closeAt_object limit htextual]
  have hopen : build limit frames expects (written (.object members) ++ rest) =
      build limit (.object [] none :: frames) .keyOrClose
        (writtenMembers [] members ++ .closeObject :: rest) := by
    rw [written, List.cons_append, List.append_assoc, List.singleton_append]
    cases expects <;> cases hexpects <;> rfl
  rw [hopen]
  cases members with
  | nil => exact build_closeObject limit [] none frames .keyOrClose rest (Or.inl rfl)
  | cons m members =>
      obtain ⟨name, value⟩ := m
      obtain ⟨hvalue, hmembers⟩ := List.forall_mem_cons.mp hmembers
      have hbuilt := hvalue (.object [] (some name) :: frames) .value
        (writtenMembers [.comma] members ++ .closeObject :: rest) rfl
      rw [writtenMembers, List.nil_append, List.append_assoc, List.cons_append, List.cons_append,
        build]
      refine hbuilt.trans ?_
      rw [settle, Frame.add, member, build_writtenMembers limit hmembers, keptMembers,
        List.reverse_cons]
      rfl

/-- **A written document is built** from its lexemes, up to what is too deep. -/
theorem build_written {d : Json} (hd : IsTextual d) : IsBuilt limit d := by
  induction hd with
  | string s => exact isBuilt_string limit s
  | array htextual ih => exact isBuilt_array limit htextual ih
  | object htextual ih => exact isBuilt_object limit htextual ih

/-- **Reading the text of a document** gives what is kept of it, to the end of the text. -/
theorem readDraft_compact {d : Json} (hd : IsTextual d) :
    readDraft limit (compact d) = (kept (beyond limit) 0 d, true) := by
  have hbuilt := build_written limit hd [] .value [] rfl
  rw [List.append_nil] at hbuilt
  rw [readDraft, lexemes_compact hd, hbuilt]
  rfl

end Json

end FilterQuery
