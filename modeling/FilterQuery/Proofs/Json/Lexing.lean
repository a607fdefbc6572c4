/-
# FilterQuery.Proofs.Json.Lexing -- the lexemes of a written document

Whatever characters a string has, it is read back from its written form: an escape is read
as the character it was written for, and a character that needs none is read as itself
(`run_escape`, `run_quote`). A document of strings, arrays and objects is therefore read as
the lexemes it consists of, whatever follows it in the text (`run_compact`).

Numbers, truth values and `null` are left out. Their lexemes end only where the next one
begins, and no written condition has any.
-/
import FilterQuery.Json.Read
import FilterQuery.Json.Write
import Mathlib.Tactic.SplitIfs

namespace FilterQuery.Json

/-! ## Strings -/

theorem hexDigit?_digitChar : ∀ n < 16, hexDigit? (Nat.digitChar n) = some n := by decide

/-- A unit below the surrogates is the character of its number. -/
theorem Quoted.pushUnit_toNat {c : Char} {q : Quoted} (hq : q.half = none) (hc : c.toNat < 0x20) :
    q.pushUnit c.toNat = q.push c := by
  have hlow : (0xD800 ≤ c.toNat && c.toNat ≤ 0xDBFF) = false := by
    simp only [Bool.and_eq_false_iff, decide_eq_false_iff_not]
    omega
  have hhigh : (0xDC00 ≤ c.toNat && c.toNat ≤ 0xDFFF) = false := by
    simp only [Bool.and_eq_false_iff, decide_eq_false_iff_not]
    omega
  simp [pushUnit, push, hq, hlow, hhigh]

/-- The four digits of a control character are read as the character. -/
theorem run_control {c : Char} {q : Quoted} (hq : q.half = none) (hc : c.toNat < 0x20)
    (v : List Char) :
    (State.quoted q).run (['\\', 'u', '0', '0', Nat.digitChar (c.toNat / 16),
      Nat.digitChar (c.toNat % 16)] ++ v) = (State.quoted (q.push c)).run v := by
  have hupper := hexDigit?_digitChar (c.toNat / 16) (by omega)
  have hlower := hexDigit?_digitChar (c.toNat % 16) (by omega)
  have hzero : hexDigit? '0' = some 0 := rfl
  have hvalue : c.toNat / 16 * 16 + c.toNat % 16 = c.toNat := by omega
  simp [State.run, State.step, hzero, hupper, hlower, hvalue, Quoted.pushUnit_toNat hq hc]

/-- A character behind a backslash is read as the one it stands for. -/
theorem run_unescape {c d : Char} (hd : unescape? d = some c) (q : Quoted) (v : List Char) :
    (State.quoted q).run ('\\' :: d :: v) = (State.quoted (q.push c)).run v := by
  have hu : d ≠ 'u' := by
    rintro rfl
    cases hd
  simp [State.run, State.step, hu, hd]

/-- **An escaped character is read as itself.** -/
theorem run_escape (c : Char) {q : Quoted} (hq : q.half = none) (v : List Char) :
    (State.quoted q).run (escape c ++ v) = (State.quoted (q.push c)).run v := by
  unfold escape
  split_ifs with hquote hslash hback hform hline hreturn htab hcontrol
  · subst hquote; exact run_unescape rfl q v
  · subst hslash; exact run_unescape rfl q v
  · subst hback; exact run_unescape rfl q v
  · subst hform; exact run_unescape rfl q v
  · subst hline; exact run_unescape rfl q v
  · subst hreturn; exact run_unescape rfl q v
  · subst htab; exact run_unescape rfl q v
  · exact run_control hq hcontrol v
  · simp [State.run, State.step, hquote, hslash, hcontrol]

/-- The characters of a string are read one by one. -/
theorem run_escapes (cs : List Char) {q : Quoted} (hq : q.half = none) (v : List Char) :
    (State.quoted q).run (cs.flatMap escape ++ v) =
      (State.quoted ⟨cs.reverse ++ q.chars, q.sound, none⟩).run v := by
  induction cs generalizing q with
  | nil =>
      obtain ⟨chars, sound, half⟩ := q
      cases hq
      rfl
  | cons c cs ih =>
      rw [List.flatMap_cons, List.append_assoc, run_escape c hq, ih rfl]
      simp [Quoted.push, hq]

/-- **A written string is one lexeme.** -/
theorem run_quote (s : String) (v : List Char) :
    State.between.run ((quote s).toList ++ v) = .string s :: State.between.run v := by
  have hstart : (State.quoted .start).run (s.toList.flatMap escape ++ '"' :: v) =
      .string s :: State.between.run v := by
    rw [run_escapes s.toList rfl]
    simp [State.run, State.step, Quoted.close, Quoted.start]
  simpa [quote, State.run, State.step, breaks?, isGap] using hstart

/-! ## Documents -/

/-- **A document of strings, arrays and objects only.** -/
inductive IsTextual : Json → Prop where
  | string (s : String) : IsTextual (.string s)
  | array {items : List Json} : (∀ item ∈ items, IsTextual item) → IsTextual (.array items)
  | object {members : List (String × Json)} :
      (∀ m ∈ members, IsTextual m.2) → IsTextual (.object members)

mutual

/-- The lexemes that a document of strings, arrays and objects consists of. -/
def written : Json → List Lexeme
  | .string s => [.string s]
  | .array items => .openArray :: (writtenItems [] items ++ [.closeArray])
  | .object members => .openObject :: (writtenMembers [] members ++ [.closeObject])
  | _ => []

/-- The lexemes of items, the first behind `lead` and the others behind a comma. -/
def writtenItems (lead : List Lexeme) : List Json → List Lexeme
  | [] => []
  | item :: items => lead ++ written item ++ writtenItems [.comma] items

/-- The lexemes of members, the first behind `lead` and the others behind a comma. -/
def writtenMembers (lead : List Lexeme) : List (String × Json) → List Lexeme
  | [] => []
  | (name, value) :: members =>
    lead ++ .string name :: .colon :: written value ++ writtenMembers [.comma] members

end

/-- A mark between lexemes is one itself. -/
theorem run_mark {c : Char} {lexeme : Lexeme} (hc : mark? c = some lexeme) (v : List Char) :
    State.between.run (c :: v) = lexeme :: State.between.run v := by
  have hgap : isGap c = false := by
    unfold mark? at hc
    split_ifs at hc <;> subst_vars <;> rfl
  have hquote : c ≠ '"' := by
    rintro rfl
    cases hc
  simp [State.run, State.step, breaks?, hgap, hquote, hc]

theorem run_compactItems {items : List Json}
    (hitems : ∀ item ∈ items, ∀ v, State.between.run ((compact item).toList ++ v) =
      written item ++ State.between.run v)
    {lead : String} {before : List Lexeme}
    (hlead : ∀ v, State.between.run (lead.toList ++ v) = before ++ State.between.run v)
    (v : List Char) :
    State.between.run ((compactItems lead items).toList ++ v) =
      writtenItems before items ++ State.between.run v := by
  induction items generalizing lead before with
  | nil => rfl
  | cons item items ih =>
      obtain ⟨hitem, hitems⟩ := List.forall_mem_cons.mp hitems
      have hcomma : ∀ v, State.between.run (",".toList ++ v) = [.comma] ++ State.between.run v :=
        fun v => run_mark rfl v
      simp only [compactItems, writtenItems, String.toList_append, List.append_assoc, hlead, hitem,
        ih hitems hcomma]

theorem run_compactMembers {members : List (String × Json)}
    (hmembers : ∀ m ∈ members, ∀ v, State.between.run ((compact m.2).toList ++ v) =
      written m.2 ++ State.between.run v)
    {lead : String} {before : List Lexeme}
    (hlead : ∀ v, State.between.run (lead.toList ++ v) = before ++ State.between.run v)
    (v : List Char) :
    State.between.run ((compactMembers lead members).toList ++ v) =
      writtenMembers before members ++ State.between.run v := by
  induction members generalizing lead before with
  | nil => rfl
  | cons m members ih =>
      obtain ⟨name, value⟩ := m
      obtain ⟨hvalue, hmembers⟩ := List.forall_mem_cons.mp hmembers
      have hcomma : ∀ v, State.between.run (",".toList ++ v) = [.comma] ++ State.between.run v :=
        fun v => run_mark rfl v
      have hcolon : ∀ v, State.between.run (":".toList ++ v) = [.colon] ++ State.between.run v :=
        fun v => run_mark rfl v
      simp only [compactMembers, writtenMembers, String.toList_append, List.append_assoc, hlead,
        run_quote, hcolon, hvalue, ih hmembers hcomma]
      rfl

/-- **A written document is read as its lexemes**, whatever follows it. -/
theorem run_compact {d : Json} (hd : IsTextual d) (v : List Char) :
    State.between.run ((compact d).toList ++ v) = written d ++ State.between.run v := by
  have hnone : ∀ v, State.between.run ("".toList ++ v) = [] ++ State.between.run v := fun _ => rfl
  induction hd generalizing v with
  | string s =>
      rw [compact, written]
      exact run_quote s v
  | @array items _ ih =>
      have hopen : ∀ v, State.between.run ('[' :: v) = .openArray :: State.between.run v :=
        run_mark rfl
      have hclose : ∀ v, State.between.run (']' :: v) = .closeArray :: State.between.run v :=
        run_mark rfl
      have hitems := run_compactItems ih hnone (']' :: v)
      simpa [compact, written, hopen, hclose] using hitems
  | @object members _ ih =>
      have hopen : ∀ v, State.between.run ('\x7b' :: v) = .openObject :: State.between.run v :=
        run_mark rfl
      have hclose : ∀ v, State.between.run ('\x7d' :: v) = .closeObject :: State.between.run v :=
        run_mark rfl
      have hmembers := run_compactMembers ih hnone ('\x7d' :: v)
      simpa [compact, written, hopen, hclose] using hmembers

/-- The lexemes of the text of a document. -/
theorem lexemes_compact {d : Json} (hd : IsTextual d) : lexemes (compact d) = written d := by
  have hrun := run_compact hd []
  rw [List.append_nil] at hrun
  rw [lexemes, hrun]
  exact List.append_nil _

end FilterQuery.Json
