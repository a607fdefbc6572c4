/-
# FilterQuery.Proofs.Query.Reading -- how the reader of queries gets through a text

Two facts about the machine of `Query.Token` carry every law on query text.

* The reader is inside quotes exactly behind an odd number of double quotes
  (`isQuoted_steps`), whatever else the text holds.
* Outside quotes, a blank or a parenthesis ends whatever was under way: the tokens
  of the text before it and of the text behind it do not influence each other
  (`run_append_delimiter`).

On top of them stand the readings of the pieces that rendered conditions are made of,
a literal and a comparison symbol, and one property of all tokens: no literal has a
double quote in it.
-/
import FilterQuery.Query.Parse
import FilterQuery.Query.Render
import Mathlib.Algebra.Ring.Parity

namespace FilterQuery.Token

/-! ## Quotes -/

/-- Whether the reader stands inside quotes. -/
def State.isQuoted : State → Bool
  | .outside _ => false
  | .held _ _ => false
  | .quoted _ => true

@[simp] theorem State.isQuoted_outside (pending : Pending) :
    (State.outside pending).isQuoted = false := rfl

@[simp] theorem State.isQuoted_held (pending : Pending) (c : Char) :
    (State.held pending c).isQuoted = false := rfl

@[simp] theorem State.isQuoted_quoted (chars : List Char) :
    (State.quoted chars).isQuoted = true := rfl

theorem isQuoted_stepOutside (pending : Pending) (c : Char) :
    (stepOutside pending c).2.isQuoted = (c == '"') := by
  by_cases hc : c = '"'
  · simp [stepOutside, hc]
  · rw [stepOutside, if_neg hc]
    have hfalse : (c == '"') = false := by simpa using hc
    split
    · simp [hfalse]
    · split
      · simp [hfalse]
      · split <;> simp [hfalse]

/-- One character takes the reader into or out of quotes exactly if it is one. -/
theorem State.isQuoted_step (s : State) (c : Char) :
    (s.step c).2.isQuoted = (s.isQuoted ^^ (c == '"')) := by
  cases s with
  | outside pending => simp [step, isQuoted_stepOutside]
  | held pending first =>
      rw [step]
      split
      · next h =>
        -- the second character of a pair is never a quote
        have hc : c ≠ '"' := by
          rintro rfl
          simp [pair?] at h
        simpa using hc
      · simp [isQuoted_stepOutside]
  | quoted chars =>
      by_cases hc : c = '"' <;> simp [step, hc]

theorem State.isQuoted_steps (s : State) (u : List Char) :
    (s.steps u).2.isQuoted = (s.isQuoted ^^ decide (Odd (u.count '"'))) := by
  induction u generalizing s with
  | nil => simp [steps]
  | cons c u ih =>
      rw [steps, ih, isQuoted_step]
      by_cases hc : c = '"'
      · subst hc
        have hodd : decide (Odd (u.count '"' + 1)) = !decide (Odd (u.count '"')) := by
          simp only [Nat.odd_add_one, decide_not]
        rw [List.count_cons_self, hodd, beq_self_eq_true, Bool.xor_true, Bool.not_xor, Bool.xor_not]
      · have hfalse : (c == '"') = false := by simpa using hc
        rw [List.count_cons_of_ne hc, hfalse, Bool.xor_false]

/-- A text with an even number of quotes leaves the reader outside of them. -/
theorem isQuoted_steps_outside {u : List Char} (hu : Even (u.count '"')) (pending : Pending) :
    ((State.outside pending).steps u).2.isQuoted = false := by
  rw [State.isQuoted_steps]
  simpa using hu

/-! ## Delimiters -/

/-- The token, if any, of a character that ends every literal and every symbol. -/
def delimiter? (c : Char) : Option (List Token) :=
  if isBlank c then some []
  else if c = '(' then some [.openParen]
  else if c = ')' then some [.closeParen]
  else none

theorem stepOutside_delimiter {d : Char} {ts : List Token} (hd : delimiter? d = some ts)
    (pending : Pending) : stepOutside pending d = (pending.close ++ ts, .outside none) := by
  unfold delimiter? at hd
  split_ifs at hd with hblank hopen hclose <;> cases hd
  · have hquote : d ≠ '"' := by
      rintro rfl
      exact absurd hblank (by decide)
    simp [stepOutside, hquote, hblank]
  · subst hopen
    simp [stepOutside, hblank, mayPair, symbol?]
  · subst hclose
    simp [stepOutside, hblank, mayPair, symbol?]

theorem pair?_delimiter {d : Char} {ts : List Token} (hd : delimiter? d = some ts) (c : Char) :
    pair? c d = none := by
  cases hpair : pair? c d with
  | none => rfl
  | some token =>
      have hsecond : d = '=' ∨ d = '&' ∨ d = '|' := by
        unfold pair? at hpair
        split_ifs at hpair with hle hge hand hor
        · exact Or.inl hle.2
        · exact Or.inl hge.2
        · exact Or.inr (Or.inl hand.2)
        · exact Or.inr (Or.inr hor.2)
      rcases hsecond with rfl | rfl | rfl <;> cases hd

/-- **A delimiter outside quotes** finishes what was under way, and the reader starts
afresh behind it. -/
theorem State.run_delimiter {d : Char} {ts : List Token} (hd : delimiter? d = some ts)
    {s : State} (hs : s.isQuoted = false) (rest : List Char) :
    s.run (d :: rest) = s.finish ++ ts ++ (State.outside none).run rest := by
  cases s with
  | outside pending => simp [run, step, stepOutside_delimiter hd, finish]
  | held pending c =>
      simp [run, step, pair?_delimiter hd, stepOutside_delimiter hd, finish]
  | quoted chars => cases hs

theorem State.run_eq_steps (s : State) (u : List Char) :
    s.run u = (s.steps u).1 ++ (s.steps u).2.finish := by
  simpa [run] using s.run_append u []

/-- **Reading comes apart at delimiters.** -/
theorem run_append_delimiter {u : List Char} (hu : Even (u.count '"')) {d : Char}
    {ts : List Token} (hd : delimiter? d = some ts) (pending : Pending) (v : List Char) :
    (State.outside pending).run (u ++ d :: v) =
      (State.outside pending).run u ++ ts ++ (State.outside none).run v := by
  rw [State.run_append, State.run_delimiter hd (isQuoted_steps_outside hu pending),
    State.run_eq_steps _ u]
  simp only [List.append_assoc]

/-- **A text that stands for itself**: it is read as the tokens `ts`, and its quotes come
in pairs, so that nothing behind a delimiter falls into them. -/
structure Spells (u : List Char) (ts : List Token) : Prop where
  reads : (State.outside none).run u = ts
  paired : Even (u.count '"')

theorem spells_nil : Spells [] [] := ⟨rfl, by simp⟩

theorem spells_symbol (c : Connective) : Spells c.symbol.toList [.connective c] := by
  cases c
  · exact ⟨rfl, by decide⟩
  · exact ⟨rfl, by decide⟩

/-- Texts that stand for themselves still do so on the two sides of a delimiter. -/
theorem Spells.delimit {u v : List Char} {ts us ds : List Token} {d : Char} (hu : Spells u ts)
    (hd : delimiter? d = some ds) (hv : Spells v us) : Spells (u ++ d :: v) (ts ++ ds ++ us) := by
  have hquote : d ≠ '"' := by
    rintro rfl
    cases hd
  refine ⟨?_, ?_⟩
  · rw [run_append_delimiter hu.paired hd, hu.reads, hv.reads]
  · rw [List.count_append, List.count_cons_of_ne hquote]
    exact hu.paired.add hv.paired

/-! ## Literals and comparison symbols -/

/-- A character that is neither a quote nor blank nor a symbol joins the literal under
way. -/
theorem stepOutside_plain {c : Char} (hquote : c ≠ '"') (hblank : isBlank c = false)
    (hsymbol : isSymbol c = false) (pending : Pending) :
    stepOutside pending c = ([], .outside (some (c :: pending.chars))) := by
  simp only [isSymbol, Bool.or_eq_false_iff, beq_eq_false_iff_ne, ne_eq] at hsymbol
  obtain ⟨⟨⟨⟨⟨⟨hopen, hclose⟩, heq⟩, hlt⟩, hgt⟩, hand⟩, hor⟩ := hsymbol
  simp [stepOutside, hquote, hblank, mayPair, hlt, hgt, hand, hor, symbol?, hopen, hclose, heq]

theorem steps_plain {u : List Char} (hne : u ≠ [])
    (hplain : ∀ c ∈ u, c ≠ '"' ∧ isBlank c = false ∧ isSymbol c = false) (pending : Pending) :
    (State.outside pending).steps u = ([], .outside (some (u.reverse ++ pending.chars))) := by
  induction u generalizing pending with
  | nil => exact absurd rfl hne
  | cons c u ih =>
      obtain ⟨hquote, hblank, hsymbol⟩ := hplain c (by simp)
      rw [State.steps, State.step, stepOutside_plain hquote hblank hsymbol]
      cases u with
      | nil => simp [State.steps]
      | cons d u =>
          rw [ih (by simp) fun x hx => hplain x (List.mem_cons_of_mem c hx)]
          simp [Pending.chars]

theorem steps_quoted {u : List Char} (hu : '"' ∉ u) (chars : List Char) :
    (State.quoted chars).steps (u ++ ['"']) = ([], .outside (some (u.reverse ++ chars))) := by
  induction u generalizing chars with
  | nil => simp [State.steps, State.step]
  | cons c u ih =>
      rw [List.mem_cons, not_or] at hu
      have hc : c ≠ '"' := fun h => hu.1 h.symm
      rw [List.cons_append, State.steps, State.step, if_neg hc, ih hu.2]
      simp

/-- **In quotes, every character but the closing quote is taken as it is**, and joins the
literal under way. -/
theorem steps_inQuotes {u : List Char} (hu : '"' ∉ u) (pending : Pending) :
    (State.outside pending).steps ('"' :: (u ++ ['"'])) =
      ([], .outside (some (u.reverse ++ pending.chars))) := by
  rw [State.steps, State.step, stepOutside, if_pos rfl, steps_quoted hu]
  rfl

/-- **A written literal is read as one literal**, quoted or not. -/
theorem steps_renderLiteral {text : String} (h : '"' ∉ text.toList) :
    (State.outside none).steps (renderLiteral text).toList =
      ([], .outside (some text.toList.reverse)) := by
  unfold renderLiteral
  split
  · have hchars : ("\"" ++ text ++ "\"").toList = '"' :: (text.toList ++ ['"']) := by simp
    rw [hchars, steps_inQuotes h]
    simp [Pending.chars]
  · next hquotes =>
    -- without quotes, none of the characters is blank or a symbol
    simp only [needsQuotes, Bool.or_eq_true, beq_iff_eq, List.any_eq_true, not_or, not_exists,
      not_and, Bool.not_eq_true] at hquotes
    have hne : text.toList ≠ [] := by simpa using hquotes.1
    rw [steps_plain hne]
    · simp [Pending.chars]
    · intro c hc
      refine ⟨fun hquote => h (hquote ▸ hc), ?_⟩
      exact hquotes.2 c hc

theorem count_quote_renderLiteral {text : String} (h : '"' ∉ text.toList) :
    Even ((renderLiteral text).toList.count '"') := by
  have hzero : text.toList.count '"' = 0 := List.count_eq_zero.mpr h
  unfold renderLiteral
  split
  · simp [hzero]
  · simp [hzero]

/-- A literal on its own is one token. -/
theorem run_renderLiteral {text : String} (h : '"' ∉ text.toList) :
    (State.outside none).run (renderLiteral text).toList = [.literal text] := by
  rw [State.run_eq_steps, steps_renderLiteral h]
  simp [State.finish, Pending.close]

/-- No literal as it is written begins with the second character of a comparison. -/
theorem head?_renderLiteral_ne (text : String) :
    (renderLiteral text).toList.head? ≠ some '=' := by
  unfold renderLiteral
  split
  · simp
  · next hquotes =>
    intro hhead
    have hmem : '=' ∈ text.toList := List.mem_of_head? hhead
    apply hquotes
    rw [needsQuotes, Bool.or_eq_true, List.any_eq_true]
    exact Or.inr ⟨'=', hmem, rfl⟩

/-- A held character that the next one does not complete is let go first. -/
theorem State.run_held {c : Char} {v : List Char} (hv : ∀ d ∈ v.head?, pair? c d = none)
    (pending : Pending) :
    (State.held pending c).run v =
      (release pending c).1 ++ (State.outside (release pending c).2).run v := by
  cases v with
  | nil => simp [run, finish]
  | cons d v =>
      have hpair : pair? c d = none := hv d rfl
      simp [run, step, hpair]

/-- **A comparison symbol** ends the literal before it, and the reader starts afresh
behind it unless a `=` there would lengthen the symbol. -/
theorem run_symbol (op : CompareOp) (pending : Pending) {v : List Char}
    (hv : v.head? ≠ some '=') :
    (State.outside pending).run (op.symbol.toList ++ v) =
      pending.close ++ .compare op :: (State.outside none).run v := by
  -- a lone `<` or `>` is held, and the next character settles that it is one
  have hlone : ∀ c ∈ ['<', '>'], ∀ d ∈ v.head?, pair? c d = none := by
    intro c hc d hd
    have hne : d ≠ '=' := by
      rintro rfl
      exact hv hd
    simp only [List.mem_cons, List.not_mem_nil, or_false] at hc
    rcases hc with rfl | rfl <;> simp [pair?, hne]
  have hhold : ∀ c ∈ ['<', '>'], stepOutside pending c = ([], .held pending c) := by
    intro c hc
    simp only [List.mem_cons, List.not_mem_nil, or_false] at hc
    rcases hc with rfl | rfl <;> rfl
  cases op with
  | eq =>
      have hstep : stepOutside pending '=' = (pending.close ++ [.compare .eq], .outside none) := rfl
      simp [CompareOp.symbol, State.run, State.step, hstep]
  | lt =>
      have hrun := State.run_held (hlone '<' (by simp)) pending
      simp [CompareOp.symbol, State.run, State.step, hhold '<' (by simp), hrun, release]
  | gt =>
      have hrun := State.run_held (hlone '>' (by simp)) pending
      simp [CompareOp.symbol, State.run, State.step, hhold '>' (by simp), hrun, release]
  | le =>
      have hpair : pair? '<' '=' = some (.compare .le) := rfl
      simp [CompareOp.symbol, State.run, State.step, hhold '<' (by simp), hpair]
  | ge =>
      have hpair : pair? '>' '=' = some (.compare .ge) := rfl
      simp [CompareOp.symbol, State.run, State.step, hhold '>' (by simp), hpair]

/-! ## Literals hold no quotes -/

/-- No literal among the tokens has a double quote in it. -/
def Quoteless (ts : List Token) : Prop := ∀ text, .literal text ∈ ts → '"' ∉ text.toList

theorem quoteless_append {ts us : List Token} :
    Quoteless (ts ++ us) ↔ Quoteless ts ∧ Quoteless us := by
  simp only [Quoteless, List.mem_append, or_imp, forall_and]

theorem quoteless_close {pending : Pending} (h : '"' ∉ pending.chars) :
    Quoteless pending.close := by
  intro text hmem
  cases pending with
  | none => cases hmem
  | some chars =>
      simp only [Pending.close, List.mem_singleton, literal.injEq] at hmem
      subst hmem
      simpa [Pending.chars] using h

theorem symbol?_ne_literal (c : Char) (text : String) : symbol? c ≠ some (.literal text) := by
  unfold symbol?
  split_ifs <;> simp

theorem pair?_ne_literal (c next : Char) (text : String) :
    pair? c next ≠ some (.literal text) := by
  unfold pair?
  split_ifs <;> simp

theorem quoteless_singleton {token : Token} (h : ∀ text, token ≠ .literal text) :
    Quoteless [token] := by
  intro text hmem
  exact absurd (List.mem_singleton.mp hmem).symm (h text)

/-- The characters that the reader has taken in and not yet given out. -/
def State.chars : State → List Char
  | .outside pending => pending.chars
  | .held pending c => c :: pending.chars
  | .quoted chars => chars

theorem stepOutside_quoteless {pending : Pending} (h : '"' ∉ pending.chars) (c : Char) :
    Quoteless (stepOutside pending c).1 ∧ '"' ∉ (stepOutside pending c).2.chars := by
  have hclose := quoteless_close h
  have hnone : '"' ∉ (State.outside none).chars := by simp [State.chars, Pending.chars]
  have hnil : Quoteless [] := by simp [Quoteless]
  by_cases hc : c = '"'
  · simpa [stepOutside, hc, State.chars] using ⟨hnil, h⟩
  · have hcons : '"' ∉ c :: pending.chars := by
      rw [List.mem_cons, not_or]
      exact ⟨fun e => hc e.symm, h⟩
    rw [stepOutside, if_neg hc]
    split
    · exact ⟨hclose, hnone⟩
    · split
      · exact ⟨hnil, hcons⟩
      · split
        · -- a symbol token is no literal, so the only literal is the one that ends here
          next token hsymbol =>
          have htoken : ∀ text, token ≠ .literal text := by
            rintro text rfl
            exact symbol?_ne_literal c text hsymbol
          exact ⟨quoteless_append.mpr ⟨hclose, quoteless_singleton htoken⟩, hnone⟩
        · exact ⟨hnil, hcons⟩

/-- What a held character is let go as: a symbol, or a part of the literal. -/
theorem release_quoteless {pending : Pending} {c : Char} (h : '"' ∉ c :: pending.chars) :
    Quoteless (release pending c).1 ∧ '"' ∉ (release pending c).2.chars := by
  have hclose : Quoteless pending.close := quoteless_close (List.not_mem_of_not_mem_cons h)
  unfold release
  split
  · exact ⟨quoteless_append.mpr ⟨hclose, quoteless_singleton (by simp)⟩, by simp [Pending.chars]⟩
  · split
    · exact ⟨quoteless_append.mpr ⟨hclose, quoteless_singleton (by simp)⟩, by simp [Pending.chars]⟩
    · exact ⟨by simp [Quoteless], h⟩

/-- A reader that holds no quote gives out none and takes none in. -/
theorem State.step_quoteless {s : State} (h : '"' ∉ s.chars) (c : Char) :
    Quoteless (s.step c).1 ∧ '"' ∉ (s.step c).2.chars := by
  cases s with
  | outside pending => exact stepOutside_quoteless h c
  | held pending first =>
      rw [step]
      split
      · next token hpair =>
        have htoken : ∀ text, token ≠ .literal text := by
          rintro text rfl
          exact pair?_ne_literal first c text hpair
        have hclose : Quoteless pending.close := quoteless_close (List.not_mem_of_not_mem_cons h)
        exact ⟨quoteless_append.mpr ⟨hclose, quoteless_singleton htoken⟩, by
          simp [State.chars, Pending.chars]⟩
      · obtain ⟨hfirst, hkept⟩ := release_quoteless h
        obtain ⟨hnext, hchars⟩ := stepOutside_quoteless hkept c
        exact ⟨quoteless_append.mpr ⟨hfirst, hnext⟩, hchars⟩
  | quoted chars =>
      by_cases hc : c = '"'
      · simpa [step, hc, State.chars, Pending.chars, Quoteless] using h
      · have hcons : '"' ∉ c :: chars := by
          rw [List.mem_cons, not_or]
          exact ⟨fun e => hc e.symm, h⟩
        simpa [step, hc, State.chars, Quoteless] using hcons

theorem State.finish_quoteless {s : State} (h : '"' ∉ s.chars) : Quoteless s.finish := by
  cases s with
  | outside pending => exact quoteless_close h
  | held pending c =>
      obtain ⟨hfirst, hkept⟩ := release_quoteless h
      exact quoteless_append.mpr ⟨hfirst, quoteless_close hkept⟩
  | quoted chars =>
      show Quoteless (Pending.close (some chars))
      exact quoteless_close h

theorem State.run_quoteless {s : State} (h : '"' ∉ s.chars) (u : List Char) :
    Quoteless (s.run u) := by
  induction u generalizing s with
  | nil => exact finish_quoteless h
  | cons c u ih =>
      obtain ⟨hstep, hchars⟩ := step_quoteless h c
      exact quoteless_append.mpr ⟨hstep, ih hchars⟩

end FilterQuery.Token

namespace FilterQuery

/-- **Quotes never get into a literal.** -/
theorem tokenize_quoteless (query : String) : Token.Quoteless (tokenize query) :=
  Token.State.run_quoteless (by simp [Token.State.chars, Token.Pending.chars]) query.toList

end FilterQuery
