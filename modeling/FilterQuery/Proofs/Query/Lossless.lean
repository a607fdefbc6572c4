/-
# FilterQuery.Proofs.Query.Lossless -- what the tokens of a query keep of its characters

The reader drops two kinds of characters: double quotes, and blanks that stand outside quotes
(`essential`). Every other character of the query is in the text of one token, and the tokens
have no characters but these (`join_text_tokenize`). Neither a quote left open nor a lone `&`
or `|` is an exception, nor is a comparison symbol at the end.

A character may wait in the literal under way, or be held back because it may begin a symbol
of two, before it gets into a token. So the law of the machine is about the characters given
out and the ones taken in together (`written_step`): each step adds to them the character it
reads, or nothing if that is one of the dropped ones.
-/
import FilterQuery.Proofs.Query.Reading

namespace FilterQuery

/-- The text of a token: a literal's characters, or how a symbol is written. -/
def Token.text : Token → String
  | .literal text => text
  | .compare op => op.symbol
  | .connective c => c.symbol
  | .openParen => "("
  | .closeParen => ")"

/-- **A text without its double quotes and without the blanks outside quotes**, where `quoted`
says whether it begins inside quotes. -/
def essential (quoted : Bool) : List Char → List Char
  | [] => []
  | c :: rest =>
    if c = '"' then essential (!quoted) rest
    else if !quoted && isBlank c then essential quoted rest
    else c :: essential quoted rest

/-- Behind a quote a text goes on on the other side of it, and behind other characters on the
same. -/
theorem essential_cons (quoted : Bool) (c : Char) (rest : List Char) :
    essential quoted (c :: rest) = essential quoted [c] ++ essential (quoted ^^ (c == '"')) rest := by
  by_cases hquote : c = '"'
  · simp [essential, hquote]
  · rw [beq_eq_false_iff_ne.mpr hquote, Bool.xor_false, essential, essential, if_neg hquote,
      if_neg hquote]
    split <;> simp [essential]

namespace Token

/-! ## Symbols -/

theorem text_symbol {c : Char} {token : Token} (h : symbol? c = some token) :
    token.text.toList = [c] := by
  unfold symbol? at h
  split_ifs at h with hopen hclose heq <;> cases h
  · subst hopen
    rfl
  · subst hclose
    rfl
  · subst heq
    rfl

/-- A pair is written as its two characters, of which the second is one that tokens keep. -/
theorem text_pair {c next : Char} {token : Token} (h : pair? c next = some token) :
    token.text.toList = [c, next] ∧ essential false [next] = [next] := by
  unfold pair? at h
  split_ifs at h with hpair hpair hpair hpair <;> cases h <;> obtain ⟨rfl, rfl⟩ := hpair
  · exact ⟨rfl, rfl⟩
  · exact ⟨rfl, rfl⟩
  · exact ⟨rfl, rfl⟩
  · exact ⟨rfl, rfl⟩

/-! ## Characters given out and taken in -/

/-- The characters of some tokens, one after the other. -/
def written (ts : List Token) : List Char := ts.flatMap fun token => token.text.toList

@[simp] theorem written_nil : written [] = [] := rfl

@[simp] theorem written_append (ts us : List Token) : written (ts ++ us) = written ts ++ written us :=
  List.flatMap_append

@[simp] theorem written_singleton (token : Token) : written [token] = token.text.toList := by
  simp [written]

@[simp] theorem written_close (pending : Pending) :
    written pending.close = pending.chars.reverse := by
  cases pending with
  | none => rfl
  | some chars => simp [Pending.close, Pending.chars, text]

/-- A held character that begins no pair is a symbol's only one, or joins the literal. -/
theorem written_release (pending : Pending) (c : Char) :
    written (release pending c).1 ++ (release pending c).2.chars.reverse =
      pending.chars.reverse ++ [c] := by
  unfold release
  split_ifs with hlt hgt
  · simp [hlt, Pending.chars, text, CompareOp.symbol]
  · simp [hgt, Pending.chars, text, CompareOp.symbol]
  · simp [Pending.chars]

theorem written_stepOutside (pending : Pending) (c : Char) :
    written (stepOutside pending c).1 ++ (stepOutside pending c).2.chars.reverse =
      pending.chars.reverse ++ essential false [c] := by
  unfold stepOutside
  split_ifs with hquote hblank hpair
  · simp [hquote, essential, State.chars]
  · simp [hquote, hblank, essential, State.chars, Pending.chars]
  · simp [hquote, hblank, essential, State.chars]
  · cases hsymbol : symbol? c with
    | some token =>
        simp [hquote, hblank, essential, State.chars, text_symbol hsymbol, Pending.chars]
    | none => simp [hquote, hblank, essential, State.chars, Pending.chars]

/-- **One character**: what the reader has given out and what it has taken in grow by the
character, unless it is one that tokens drop. -/
theorem written_step (s : State) (c : Char) :
    written (s.step c).1 ++ (s.step c).2.chars.reverse =
      s.chars.reverse ++ essential s.isQuoted [c] := by
  cases s with
  | outside pending => exact written_stepOutside pending c
  | held pending first =>
      rw [State.step]
      split
      · next token hpair =>
        obtain ⟨htext, hkept⟩ := text_pair hpair
        simp [State.chars, Pending.chars, htext, hkept]
      · have hreleased := written_release pending first
        have hnext := written_stepOutside (release pending first).2 c
        calc
          _ = written (release pending first).1 ++
              (written (stepOutside (release pending first).2 c).1 ++
                (stepOutside (release pending first).2 c).2.chars.reverse) := by simp
          _ = written (release pending first).1 ++ (release pending first).2.chars.reverse ++
              essential false [c] := by rw [hnext, List.append_assoc]
          _ = _ := by simp [hreleased, State.chars]
  | quoted chars =>
      rw [State.step]
      split_ifs with hquote
      · simp [hquote, essential, State.chars, Pending.chars]
      · simp [hquote, essential, State.chars]

theorem written_finish (s : State) : written s.finish = s.chars.reverse := by
  cases s with
  | outside pending => exact written_close pending
  | held pending c => simpa [State.finish, State.chars] using written_release pending c
  | quoted chars => exact written_close (some chars)

/-- **The rest of a query**: its tokens have the characters taken in so far and those of the
rest that tokens keep. -/
theorem written_run (s : State) (u : List Char) :
    written (s.run u) = s.chars.reverse ++ essential s.isQuoted u := by
  induction u generalizing s with
  | nil => simpa [State.run, essential] using written_finish s
  | cons c u ih =>
      rw [State.run, written_append, ih, ← List.append_assoc, written_step, State.isQuoted_step,
        List.append_assoc, ← essential_cons]

end Token

/-- **Reading a query loses nothing and invents nothing.** The texts of the tokens, put one
behind the other, are the query without its double quotes and without the blanks that stand
outside quotes. -/
theorem join_text_tokenize (query : String) :
    String.join ((tokenize query).map Token.text) = String.ofList (essential false query.toList) := by
  have hwritten := Token.written_run (.outside none) query.toList
  rw [Token.written] at hwritten
  apply String.toList_injective
  rw [String.toList_join, List.flatMap_map, String.toList_ofList]
  exact hwritten

/-- A lone `&`, a `<` at the end of a literal, and a quote that is left open around blanks. -/
example : String.join ((tokenize "x & y<\"z  )").map Token.text) = "x&y<z  )" := by
  decide +kernel

end FilterQuery
