/-
# FilterQuery.Proofs.Query.Descent -- where a group ends, whatever the parentheses

The parser keeps its open levels on a stack. The same reading can be done by descent: a group
reads its tokens up to the `)` that closes it and says how many it took, and the group around
it goes on behind these (`readGroup`). This module shows that the two are one reading
(`parseLevel_eq_readGroup`), that no group takes more tokens than there are
(`taken_readGroup_le`), and where it stops (`taken_readGroup_eq_iff`): right behind the first `)`
that matches no `(` of its own, or else at the end.

From this follows what becomes of queries whose parentheses do not match. What stands behind a
`)` too many is not read at all (`parse_append_closed`). And the end of a query closes what is
open, as so many `)` would have done, of which further ones change nothing
(`parse_append_closeParens`).
-/
import FilterQuery.Proofs.Query.Balanced
import FilterQuery.Proofs.Query.Splitting

namespace FilterQuery

open Token (shift)

/-! ## Groups by descent -/

/-- **What a group is read as**: the level that has come about, and how many tokens it took. -/
structure GroupReading where
  level : Level
  taken : Nat

/-- The same reading, of which `n` more tokens have been taken before. -/
def GroupReading.behind (n : Nat) (reading : GroupReading) : GroupReading :=
  { reading with taken := n + reading.taken }

@[simp] theorem GroupReading.level_behind (n : Nat) (reading : GroupReading) :
    (reading.behind n).level = reading.level := rfl

@[simp] theorem GroupReading.taken_behind (n : Nat) (reading : GroupReading) :
    (reading.behind n).taken = n + reading.taken := rfl

/-- **Reads a group** into a level, up to the `)` that ends it. A `(` begins an inner group,
which is read first, and the reading goes on behind the tokens that the inner one has taken. -/
def readGroup (level : Level) : List Token → GroupReading
  | [] => ⟨level, 0⟩
  | .closeParen :: _ => ⟨level, 1⟩
  | .openParen :: rest =>
    (readGroup (level.nest (readGroup .start rest).level)
      (rest.drop (readGroup .start rest).taken)).behind (1 + (readGroup .start rest).taken)
  | .literal text :: rest => (readGroup (level.literal text) rest).behind 1
  | .compare op :: rest => (readGroup (level.compare op) rest).behind 1
  | .connective c :: rest => (readGroup (level.connect c) rest).behind 1
termination_by tokens => tokens.length
decreasing_by
  · exact Nat.lt_succ_self _
  · exact Nat.lt_succ_of_le (List.drop_sublist _ _).length_le
  all_goals exact Nat.lt_succ_self _

/-- **A group never takes more tokens than there are.** -/
theorem taken_readGroup_le (level : Level) (tokens : List Token) :
    (readGroup level tokens).taken ≤ tokens.length := by
  fun_induction readGroup level tokens with
  | case1 level => exact Nat.le_refl 0
  | case2 level rest => simp
  | case3 level rest hinner hwhole =>
      rw [List.length_drop] at hwhole
      rw [GroupReading.taken_behind, List.length_cons]
      omega
  | case4 level text rest ih =>
      rw [GroupReading.taken_behind, List.length_cons]
      omega
  | case5 level op rest ih =>
      rw [GroupReading.taken_behind, List.length_cons]
      omega
  | case6 level c rest ih =>
      rw [GroupReading.taken_behind, List.length_cons]
      omega

/-- The end of the tokens closes a level as a `)` does. -/
theorem parseLevel_nil (level : Level) (outer : List Level) :
    parseLevel level outer [] = parseLevel level outer [.closeParen] := by
  cases outer <;> rfl

theorem drop_one_add (n : Nat) (t : Token) (rest : List Token) :
    (t :: rest).drop (1 + n) = rest.drop n := by
  rw [Nat.add_comm, List.drop_succ_cons]

/-- **Reading with a stack is reading by descent**: the level under way takes the tokens of its
group, and is then closed. -/
theorem parseLevel_eq_readGroup (level : Level) (outer : List Level) (tokens : List Token) :
    parseLevel level outer tokens =
      parseLevel (readGroup level tokens).level outer
        (.closeParen :: tokens.drop (readGroup level tokens).taken) := by
  fun_induction readGroup level tokens generalizing outer with
  | case1 level => exact parseLevel_nil level outer
  | case2 level rest => rfl
  | case3 level rest hinner hwhole =>
      rw [GroupReading.level_behind, GroupReading.taken_behind, Nat.add_assoc, drop_one_add,
        ← List.drop_drop, ← hwhole outer]
      exact hinner (level :: outer)
  | case4 level text rest ih =>
      rw [GroupReading.level_behind, GroupReading.taken_behind, drop_one_add]
      exact ih outer
  | case5 level op rest ih =>
      rw [GroupReading.level_behind, GroupReading.taken_behind, drop_one_add]
      exact ih outer
  | case6 level c rest ih =>
      rw [GroupReading.level_behind, GroupReading.taken_behind, drop_one_add]
      exact ih outer

/-- Outside of all groups, the tokens behind the group are left over. -/
theorem parseLevel_nil_eq_readGroup (level : Level) (tokens : List Token) :
    parseLevel level [] tokens =
      ((readGroup level tokens).level.siblings, tokens.drop (readGroup level tokens).taken) :=
  parseLevel_eq_readGroup level [] tokens

/-! ## The end of a group -/

/-- **Where a group ends**: right behind the first `)` that matches no `(` of the group, or with
the tokens if there is none. -/
inductive GroupEnd : List Token → Nat → Prop where
  | closed {body rest : List Token} (h : body.foldlM shift 0 = some 0) :
      GroupEnd (body ++ .closeParen :: rest) (body.length + 1)
  | unclosed {tokens : List Token} {depth : Nat} (h : tokens.foldlM shift 0 = some depth) :
      GroupEnd tokens tokens.length

/-- Tokens that close too much do so first at a `)` in front of which all parentheses match. -/
theorem exists_unmatched {tokens : List Token} {depth : Nat}
    (h : tokens.foldlM shift depth = none) :
    ∃ body rest, tokens = body ++ .closeParen :: rest ∧ body.foldlM shift depth = some 0 := by
  induction tokens generalizing depth with
  | nil => cases h
  | cons t ts ih =>
      rw [List.foldlM_cons] at h
      cases hshift : shift depth t with
      | none =>
          -- only a `)` at depth zero gets stuck
          cases t with
          | closeParen =>
              cases depth with
              | zero => exact ⟨[], ts, rfl, rfl⟩
              | succ depth => cases hshift
          | _ => cases hshift
      | some after =>
          rw [hshift] at h
          obtain ⟨body, rest, rfl, hbody⟩ := ih h
          refine ⟨t :: body, rest, rfl, ?_⟩
          rw [List.foldlM_cons, hshift]
          exact hbody

theorem exists_groupEnd (tokens : List Token) : ∃ n, GroupEnd tokens n := by
  cases hdepth : tokens.foldlM shift 0 with
  | some depth => exact ⟨tokens.length, .unclosed hdepth⟩
  | none =>
      obtain ⟨body, rest, rfl, hbody⟩ := exists_unmatched hdepth
      exact ⟨body.length + 1, .closed hbody⟩

/-- Behind tokens whose parentheses match, a `)` ends the reading and leaves over the rest. -/
theorem exists_parseLevel_closed {body : List Token} (h : body.foldlM shift 0 = some 0)
    (level : Level) :
    ∃ after : Level, parseLevel level [] body = (after.siblings, []) ∧
      ∀ rest, parseLevel level [] (body ++ .closeParen :: rest) = (after.siblings, rest) := by
  have hdepth : body.foldlM shift ([] : List Level).length = some 0 := h
  obtain ⟨after, opened, hopened, hread⟩ := exists_parseLevel_append hdepth level
  cases List.length_eq_zero_iff.mp hopened
  refine ⟨after, ?_, ?_⟩
  · have hend := hread [] []
    simp only [List.append_nil] at hend
    exact hend
  · intro rest
    exact hread [] (.closeParen :: rest)

theorem taken_readGroup_of_groupEnd {tokens : List Token} {n : Nat} (h : GroupEnd tokens n)
    (level : Level) : (readGroup level tokens).taken = n := by
  have hle := taken_readGroup_le level tokens
  have hrest : (parseLevel level [] tokens).2 = tokens.drop (readGroup level tokens).taken := by
    rw [parseLevel_nil_eq_readGroup]
  cases h with
  | @closed body rest hbody =>
      obtain ⟨after, -, hread⟩ := exists_parseLevel_closed hbody level
      rw [hread] at hrest
      have hlength := congrArg List.length hrest
      simp only [List.length_drop, List.length_append, List.length_cons] at hlength hle
      omega
  | @unclosed _ depth hdepth =>
      have hinside : tokens.foldlM shift ([] : List Level).length = some depth := hdepth
      obtain ⟨after, opened, -, hread⟩ := exists_parseLevel_append hinside level
      have hend := hread [] []
      simp only [List.append_nil] at hend
      rw [hend, parseLevel] at hrest
      have hlength := congrArg List.length hrest
      simp only [List.length_drop, List.length_nil] at hlength
      omega

/-- **A group ends there and nowhere else.** -/
theorem taken_readGroup_eq_iff {level : Level} {tokens : List Token} {n : Nat} :
    (readGroup level tokens).taken = n ↔ GroupEnd tokens n := by
  constructor
  · rintro rfl
    obtain ⟨n, hn⟩ := exists_groupEnd tokens
    rwa [taken_readGroup_of_groupEnd hn]
  · intro h
    exact taken_readGroup_of_groupEnd h level

/-! ## Parentheses that do not match -/

theorem parse_append_closed {u : String} (hu : IsBalanced u) (v : String) :
    parse (u ++ ")" ++ v) = parse u := by
  have hclose : Token.delimiter? ')' = some [.closeParen] := by decide
  have htokens : tokenize (u ++ ")" ++ v) = tokenize u ++ [.closeParen] ++ tokenize v :=
    tokenize_append_delimiter hu.quotes hclose v
  obtain ⟨after, hend, hread⟩ := exists_parseLevel_closed hu.foldlM_shift_tokenize .start
  rw [parse, parse, htokens, List.append_assoc, List.singleton_append, hread, hend]

/-- **A `)` at the end changes nothing**: it closes what the end would have closed, or is one
too many. -/
theorem parseLevel_append_closeParen (level : Level) (outer : List Level) (tokens : List Token) :
    (parseLevel level outer (tokens ++ [.closeParen])).1 = (parseLevel level outer tokens).1 := by
  fun_induction parseLevel level outer tokens with
  | case1 level outer => rw [List.nil_append, ← parseLevel_nil, parseLevel]
  | case2 level outer text rest ih => exact ih
  | case3 level outer op rest ih => exact ih
  | case4 level outer c rest ih => exact ih
  | case5 level outer rest ih => exact ih
  | case6 level rest => rfl
  | case7 level rest up outer ih => exact ih

/-- Closing parentheses behind a query change nothing, be they as many as there are groups
open, fewer or more. -/
theorem parse_append_closeParens {q : String} (hq : Even (q.toList.count '"')) (k : Nat) :
    parse (q ++ String.ofList (List.replicate k ')')) = parse q := by
  have hclose : Token.delimiter? ')' = some [.closeParen] := by decide
  induction k with
  | zero => simp
  | succ k ih =>
      have hpaired : Even ((q ++ String.ofList (List.replicate k ')')).toList.count '"') := by
        simpa [List.count_replicate] using hq
      have hquery : q ++ String.ofList (List.replicate (k + 1) ')') =
          q ++ String.ofList (List.replicate k ')') ++ ")" ++ "" := by
        apply String.toList_injective
        simp [List.replicate_succ']
      have htokens : tokenize (q ++ String.ofList (List.replicate (k + 1) ')')) =
          tokenize (q ++ String.ofList (List.replicate k ')')) ++ [.closeParen] := by
        have hsplit := tokenize_append_delimiter hpaired hclose ""
        rw [hquery]
        exact hsplit.trans (List.append_nil _)
      rw [← ih, parse, htokens, parseLevel_append_closeParen, ← parse]

/-- **How the parser gets over parentheses that do not match.** A group takes no more tokens
than there are: it ends right behind the first `)` that matches no `(` of its own, or else with
the tokens, and the group around it goes on behind. So nothing behind a `)` too many counts,
and `)` behind a query do what its end would have done. -/
theorem parse_recovers :
    (∀ (level : Level) (outer : List Level) (tokens : List Token),
      parseLevel level outer tokens =
          parseLevel (readGroup level tokens).level outer
            (.closeParen :: tokens.drop (readGroup level tokens).taken) ∧
        (readGroup level tokens).taken ≤ tokens.length ∧
        ∀ n, (readGroup level tokens).taken = n ↔ GroupEnd tokens n) ∧
      (∀ query, parse query =
        Condition.ofTerms (readGroup .start (tokenize query)).level.siblings) ∧
      (∀ u, IsBalanced u → ∀ v, parse (u ++ ")" ++ v) = parse u) ∧
      ∀ q : String, Even (q.toList.count '"') →
        ∀ k, parse (q ++ String.ofList (List.replicate k ')')) = parse q := by
  refine ⟨?_, ?_, ?_, ?_⟩
  · intro level outer tokens
    exact ⟨parseLevel_eq_readGroup level outer tokens, taken_readGroup_le level tokens,
      fun n => taken_readGroup_eq_iff⟩
  · intro query
    rw [parse, parseLevel_nil_eq_readGroup]
  · intro u hu v
    exact parse_append_closed hu v
  · intro q hq k
    exact parse_append_closeParens hq k

/-- A balanced query with a parenthesis in quotes. -/
def quotedParenQuery : String := "(a=\"x)\" || b<2) && c"

/-- A query with two groups left open, and a name in the inner one that waits for its value. -/
def unclosedQuery : String := "a=1 || (b=\"(\" && (c>=3 d"

theorem parse_recovers_unclosed :
    IsBalanced quotedParenQuery ∧ Even (unclosedQuery.toList.count '"') ∧
      parse (quotedParenQuery ++ ")" ++ " || (d=\"4") = parse quotedParenQuery ∧
      parse (unclosedQuery ++ String.ofList (List.replicate 5 ')')) = parse unclosedQuery := by
  have hbalanced : IsBalanced quotedParenQuery := ⟨by decide +kernel, by decide +kernel⟩
  have hpaired : Even (unclosedQuery.toList.count '"') := by decide +kernel
  obtain ⟨-, -, hclosed, hclose⟩ := parse_recovers
  exact ⟨hbalanced, hpaired, hclosed quotedParenQuery hbalanced _, hclose unclosedQuery hpaired 5⟩

end FilterQuery
