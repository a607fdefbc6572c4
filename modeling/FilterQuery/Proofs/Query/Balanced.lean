/-
# FilterQuery.Proofs.Query.Balanced -- queries that may stand in parentheses

A query stands for itself inside another one if its quotes come in pairs and its
parentheses match, where those inside quotes do not count (`IsBalanced`). Nothing else is
asked of it: it may have terms without values, connectives that nothing follows, and
comparison symbols that nothing stands before.

Both conditions are about characters. The reader turns exactly the parentheses outside
quotes into tokens (`foldlM_shift_run`), and the parser comes out of tokens whose
parentheses match at the level where it went in (`exists_parseLevel_append`). So a balanced
query in parentheses adds one sibling, the condition it stands for on its own
(`adds_balanced`): what is half-built at its end stays inside.
-/
import FilterQuery.Proofs.Query.Written
import Mathlib.Data.Nat.PSub

namespace FilterQuery

/-! ## Matching parentheses -/

/-- The characters of a text that stand outside quotes, which `quoted` says whether it
begins in. -/
def unquoted (quoted : Bool) : List Char → List Char
  | [] => []
  | c :: rest =>
    if c = '"' then unquoted (!quoted) rest
    else if quoted then unquoted quoted rest
    else c :: unquoted quoted rest

/-- The depth of parentheses behind one more character; a `)` at depth zero matches
nothing. -/
def shiftDepth (depth : Nat) (c : Char) : Option Nat :=
  if c = '(' then some (depth + 1)
  else if c = ')' then depth.ppred
  else some depth

/-- **A balanced query**: its quotes come in pairs, and its parentheses outside quotes match. -/
structure IsBalanced (query : String) : Prop where
  quotes : Even (query.toList.count '"')
  parentheses : (unquoted false query.toList).foldlM shiftDepth 0 = some 0

namespace Token

/-- The depth of parentheses behind one more token. -/
def shift (depth : Nat) : Token → Option Nat
  | .openParen => some (depth + 1)
  | .closeParen => depth.ppred
  | _ => some depth

/-- The end of a literal does not change the depth. -/
theorem foldlM_shift_close (pending : Pending) (depth : Nat) :
    pending.close.foldlM shift depth = some depth := by
  cases pending <;> rfl

theorem foldlM_shift_release (pending : Pending) (c : Char) (depth : Nat) :
    (release pending c).1.foldlM shift depth = some depth := by
  unfold release
  split
  · rw [List.foldlM_append, foldlM_shift_close]; rfl
  · split
    · rw [List.foldlM_append, foldlM_shift_close]; rfl
    · rfl

theorem foldlM_shift_finish (s : State) (depth : Nat) :
    s.finish.foldlM shift depth = some depth := by
  cases s with
  | outside pending => exact foldlM_shift_close pending depth
  | held pending c =>
      rw [State.finish, List.foldlM_append, foldlM_shift_release]
      exact foldlM_shift_close _ depth
  | quoted chars => exact foldlM_shift_close (some chars) depth

/-- A symbol changes the depth as its token does, and other characters do not change it. -/
theorem shiftDepth_eq_symbol (c : Char) (depth : Nat) :
    shiftDepth depth c = (symbol? c).toList.foldlM shift depth := by
  unfold shiftDepth symbol?
  split_ifs <;> simp [shift]

/-- A character with a property that the parentheses lack does not change the depth. -/
theorem shiftDepth_of_not_paren {P : Char → Bool} {c : Char} (hc : P c = true)
    (hopen : P '(' = false) (hclose : P ')' = false) (depth : Nat) :
    shiftDepth depth c = some depth := by
  have hneOpen : c ≠ '(' := by
    rintro rfl
    exact absurd hc (by simp [hopen])
  have hneClose : c ≠ ')' := by
    rintro rfl
    exact absurd hc (by simp [hclose])
  rw [shiftDepth, if_neg hneOpen, if_neg hneClose]

/-- Outside quotes a character's tokens change the depth as the character does. -/
theorem foldlM_shift_stepOutside (pending : Pending) (c : Char) (depth : Nat) :
    (stepOutside pending c).1.foldlM shift depth = shiftDepth depth c := by
  unfold stepOutside
  split_ifs with hquote hblank hpair
  · subst hquote
    rfl
  · rw [foldlM_shift_close, shiftDepth_of_not_paren hblank (by decide) (by decide)]
  · rw [shiftDepth_of_not_paren hpair (by decide) (by decide)]
    rfl
  · rw [shiftDepth_eq_symbol]
    cases symbol? c with
    | none => rfl
    | some token =>
        show (pending.close ++ [token]).foldlM shift depth = [token].foldlM shift depth
        rw [List.foldlM_append, foldlM_shift_close]
        rfl

/-- The second character of a pair is no parenthesis, nor is the pair. -/
theorem shift_pair {c next : Char} {token : Token} (h : pair? c next = some token) (depth : Nat) :
    shift depth token = shiftDepth depth next := by
  unfold pair? at h
  split_ifs at h with hle hge hand hor <;> cases h
  · rw [hle.2]; rfl
  · rw [hge.2]; rfl
  · rw [hand.2]; rfl
  · rw [hor.2]; rfl

/-- The tokens that a character completes change the depth as the character does outside
quotes, and inside quotes not at all. -/
theorem foldlM_shift_step (s : State) (c : Char) (depth : Nat) :
    (s.step c).1.foldlM shift depth =
      if s.isQuoted then some depth else shiftDepth depth c := by
  cases s with
  | outside pending => exact foldlM_shift_stepOutside pending c depth
  | held pending first =>
      rw [State.step, State.isQuoted_held]
      split
      · next token hpair =>
        simp [List.foldlM_append, foldlM_shift_close, shift_pair hpair]
      · simp [List.foldlM_append, foldlM_shift_release, foldlM_shift_stepOutside]
  | quoted chars =>
      rw [State.step, State.isQuoted_quoted]
      split <;> rfl

/-- **The reader turns the parentheses outside quotes into tokens**, and no others. -/
theorem foldlM_shift_run (s : State) (u : List Char) (depth : Nat) :
    (s.run u).foldlM shift depth = (unquoted s.isQuoted u).foldlM shiftDepth depth := by
  induction u generalizing s depth with
  | nil => exact foldlM_shift_finish s depth
  | cons c u ih =>
      rw [State.run, List.foldlM_append, foldlM_shift_step, unquoted]
      by_cases hquote : c = '"'
      · have hsame : shiftDepth depth c = some depth := by
          subst hquote
          rfl
        rw [if_pos hquote, hsame, ite_self]
        simp only [Option.bind_eq_bind, Option.bind_some, ih, State.isQuoted_step, hquote,
          beq_self_eq_true, Bool.xor_true]
      · have hkept : (s.step c).2.isQuoted = s.isQuoted := by
          rw [State.isQuoted_step, beq_eq_false_iff_ne.mpr hquote, Bool.xor_false]
        rw [if_neg hquote]
        cases hs : s.isQuoted <;> simp [ih, hkept, hs]

end Token

/-- The tokens of a balanced query match, too. -/
theorem IsBalanced.foldlM_shift_tokenize {query : String} (h : IsBalanced query) :
    (tokenize query).foldlM Token.shift 0 = some 0 := by
  rw [tokenize, Token.foldlM_shift_run]
  exact h.parentheses

/-! ## Levels that are opened and closed -/

/-- **Where the parser gets to** on tokens that close no level but those opened inside: what it
builds depends neither on the levels around these nor on the tokens that follow. -/
theorem exists_parseLevel_append {ts : List Token} {inner : List Level} {depth : Nat}
    (h : ts.foldlM Token.shift inner.length = some depth) (level : Level) :
    ∃ (after : Level) (opened : List Level), opened.length = depth ∧
      ∀ outer rest, parseLevel level (inner ++ outer) (ts ++ rest) =
        parseLevel after (opened ++ outer) rest := by
  induction ts generalizing level inner with
  | nil => exact ⟨level, inner, Option.some.inj h, fun outer rest => rfl⟩
  | cons t ts ih =>
      rw [List.foldlM_cons] at h
      cases t with
      | literal text => exact ih h (level.literal text)
      | compare op => exact ih h (level.compare op)
      | connective c => exact ih h (level.connect c)
      | openParen =>
          have hinside : ts.foldlM Token.shift (level :: inner).length = some depth := h
          exact ih hinside .start
      | closeParen =>
          cases inner with
          | nil => cases h
          | cons up inner =>
              have houtside : ts.foldlM Token.shift inner.length = some depth := h
              exact ih houtside (up.nest level)

/-- **A balanced query in parentheses** adds one sibling, the condition it stands for. -/
theorem adds_balanced {query : String} (h : IsBalanced query) :
    Condition.Adds (.openParen :: (tokenize query ++ [.closeParen]))
      fun j => [(parse query).withJoiner j] := by
  have hdepth : (tokenize query).foldlM Token.shift ([] : List Level).length = some 0 :=
    h.foldlM_shift_tokenize
  obtain ⟨after, opened, hopened, hread⟩ := exists_parseLevel_append hdepth .start
  cases List.length_eq_zero_iff.mp hopened
  have hparse : parse query = Condition.ofTerms after.siblings := by
    have hend : parseLevel .start [] (tokenize query) = parseLevel after [] [] := by
      simpa using hread [] []
    rw [parse, hend]
    rfl
  intro level outer rest _
  refine ⟨level.nest after, ?_, ?_⟩
  · rw [Level.siblings_nest, hparse]
  · have hinside := hread (level :: outer) (.closeParen :: rest)
    rw [List.cons_append, List.append_assoc, parseLevel]
    exact hinside

end FilterQuery
