/-
# FilterQuery.Proofs.Query.Grammar -- the grammar of well-formed queries

The parser takes any text. The texts it is meant for are those whose tokens derive from

    expr  := item chain
    chain := (connective item)*
    item  := name compare value | name value | '(' ')' | '(' expr ')'

where a name is not empty, and a value without a comparison before it is not empty
either. On these queries reading and writing lose nothing: the tokens of the rendered
condition are the tokens of the query, one by one.

The proof goes through trees. A derivation is turned, phrase by phrase, into the tree
whose tokens it derives (`Derives.hasTree`). That tree is canonical, so the parser
returns it.
-/
import FilterQuery.Proofs.Query.RoundTrip

namespace FilterQuery

/-! ## Derivations -/

/-- The phrases of the grammar. -/
inductive Phrase where
  | expr
  | chain
  | item

/-- **Derivations**: the token lists of each phrase. -/
inductive Derives : Phrase → List Token → Prop where
  | term {name value : String} {op : CompareOp} : name ≠ "" →
      Derives .item [.literal name, .compare op, .literal value]
  | pair {name value : String} : name ≠ "" → value ≠ "" →
      Derives .item [.literal name, .literal value]
  | nothing : Derives .item [.openParen, .closeParen]
  | nested {ts : List Token} : Derives .expr ts →
      Derives .item (.openParen :: (ts ++ [.closeParen]))
  | stop : Derives .chain []
  | more {c : Connective} {ts us : List Token} : Derives .item ts → Derives .chain us →
      Derives .chain (.connective c :: (ts ++ us))
  | expr {ts us : List Token} : Derives .item ts → Derives .chain us → Derives .expr (ts ++ us)

/-! ## The trees behind phrases -/

open Condition in
/-- **The tree behind a phrase** has its tokens. An item is one sibling, under whatever
connective; a chain is the siblings after the first, and an expression is the children
of a group. -/
def Phrase.HasTree : Phrase → List Token → Prop
  | .item, ts => ∀ j, ∃ c : Condition, c.joiner = j ∧ c.IsRegular ∧ c.siblingTokens = ts
  | .chain, ts => ∃ cs : List Condition, (∀ c ∈ cs, c.joiner ≠ none) ∧ (∀ c ∈ cs, c.IsRegular) ∧
      othersTokens cs = ts
  | .expr, ts => ∃ c : Condition, c.IsCanonical ∧ c.isLeaf = false ∧ c.tokens = ts

namespace Condition

theorem siblingTokens_of_named {j : Option Connective} {l : Comparison} (h : l.name ≠ "") :
    (leaf j l).siblingTokens = l.tokens := by
  have hvoid : l.isVoid = false := Comparison.isVoid_eq_false_iff.mpr h
  rw [siblingTokens, hvoid]
  rfl

theorem siblingTokens_group (j : Option Connective) (cs : List Condition) :
    (group j cs).siblingTokens = .openParen :: ((group none cs).tokens ++ [.closeParen]) := by
  cases cs with
  | nil => simp [siblingTokens, tokens]
  | cons first others => simp [siblingTokens, tokens]

end Condition

open Condition in
/-- **Every derivation has its tree**, if none of its literals has a quote in it. -/
theorem Derives.hasTree {phrase : Phrase} {ts : List Token} (h : Derives phrase ts)
    (hquotes : Token.Quoteless ts) : phrase.HasTree ts := by
  induction h with
  | @term name value op hname =>
      intro j
      refine ⟨.leaf j ⟨name, some op, value⟩, rfl, ?_, ?_⟩
      · rw [isRegular_leaf_iff]
        exact Or.inr ⟨hname, hquotes name (by simp), hquotes value (by simp), Or.inl (by simp)⟩
      · rw [siblingTokens_of_named hname]
        simp [Comparison.tokens, Comparison.isVoid, hname]
  | @pair name value hname hvalue =>
      intro j
      refine ⟨.leaf j ⟨name, none, value⟩, rfl, ?_, ?_⟩
      · rw [isRegular_leaf_iff]
        exact Or.inr ⟨hname, hquotes name (by simp), hquotes value (by simp), Or.inr hvalue⟩
      · rw [siblingTokens_of_named hname]
        simp [Comparison.tokens, Comparison.isVoid, hname, hvalue]
  | nothing =>
      intro j
      refine ⟨.leaf j .empty, rfl, isRegular_leaf_iff.mpr (Or.inl rfl), ?_⟩
      rw [siblingTokens]
      rfl
  | @nested ts _ ih =>
      intro j
      have hinner : Token.Quoteless ts := fun text hmem => hquotes text (by simp [hmem])
      obtain ⟨c, hc, hgroup, htokens⟩ := ih hinner
      cases c with
      | leaf k l => cases hgroup
      | group k cs =>
          -- the tree of the expression stands in its parentheses, joined by `j`
          obtain ⟨rfl, hcs⟩ := isCanonical_group_iff.mp hc
          refine ⟨.group j cs, rfl, isRegular_group_iff.mpr hcs, ?_⟩
          rw [siblingTokens_group, htokens]
  | stop => exact ⟨[], by simp, by simp, rfl⟩
  | @more c ts us _ _ ihItem ihChain =>
      have hitem : Token.Quoteless ts := fun text hmem => hquotes text (by simp [hmem])
      have hchain : Token.Quoteless us := fun text hmem => hquotes text (by simp [hmem])
      obtain ⟨first, hjoiner, hfirst, hts⟩ := ihItem hitem (some c)
      obtain ⟨cs, hjoined, hcs, hus⟩ := ihChain hchain
      refine ⟨first :: cs, ?_, List.forall_mem_cons.mpr ⟨hfirst, hcs⟩, ?_⟩
      · exact List.forall_mem_cons.mpr ⟨by simp [hjoiner], hjoined⟩
      · rw [othersTokens, hjoiner, hts, hus]
        rfl
  | @expr ts us _ _ ihItem ihChain =>
      obtain ⟨hitem, hchain⟩ := Token.quoteless_append.mp hquotes
      obtain ⟨first, hjoiner, hfirst, hts⟩ := ihItem hitem none
      obtain ⟨cs, hjoined, hcs, hus⟩ := ihChain hchain
      refine ⟨.group none (first :: cs), ?_, rfl, ?_⟩
      · exact isCanonical_group_iff.mpr ⟨rfl, by simp, ⟨hjoiner, hjoined⟩,
          List.forall_mem_cons.mpr ⟨hfirst, hcs⟩⟩
      · rw [tokens, hts, hus]

/-! ## Well-formed queries -/

/-- **A well-formed query**: one without tokens, or an expression. -/
def IsWellFormed (query : String) : Prop :=
  tokenize query = [] ∨ Derives .expr (tokenize query)

/-- The tokens of a well-formed query are those of the canonical condition that it is
parsed as. -/
theorem parse_of_isWellFormed {query : String} (h : IsWellFormed query) :
    (parse query).IsCanonical ∧ (parse query).tokens = tokenize query := by
  rcases h with hnil | hexpr
  · rw [parse, hnil]
    exact ⟨Condition.isCanonical_empty, rfl⟩
  · obtain ⟨c, hc, -, htokens⟩ := hexpr.hasTree (tokenize_quoteless query)
    have hparse : parse query = c := by
      rw [parse, ← htokens, Condition.terms_tokens]
      exact (Condition.reread_eq_self_iff hc.toIsRegular.isQuoteFree).mpr hc
    rw [hparse]
    exact ⟨hc, htokens⟩

/-- **Text to tree to text** keeps every token of a well-formed query, in order, and
with the tokens the condition. -/
theorem tokenize_render_parse {query : String} (h : IsWellFormed query) :
    tokenize (parse query).render = tokenize query ∧
      parse (parse query).render = parse query := by
  obtain ⟨hcanonical, htokens⟩ := parse_of_isWellFormed h
  have hrendered : tokenize (parse query).render = tokenize query := by
    rw [Condition.tokenize_render (isQuoteFree_parse query), htokens]
  refine ⟨hrendered, ?_⟩
  rw [parse, hrendered]
  rfl

/-- Quoted symbols, a pair without operator, empty and nested parentheses, and no value. -/
def sampleQuery : String := "a<=\"<b c\"||( (R&D \"x\") && ()&&e=\"\")"

theorem isWellFormed_sampleQuery : IsWellFormed sampleQuery := by
  have hpair := Derives.expr (@Derives.pair "R&D" "x" (by decide) (by decide)) .stop
  have hvalueless := @Derives.term "e" "" .eq (by decide)
  have hgroup := Derives.nested (Derives.expr (Derives.nested hpair)
    (.more (c := .and) .nothing (.more (c := .and) hvalueless .stop)))
  have hquery := Derives.expr (@Derives.term "a" "<b c" .le (by decide))
    (.more (c := .or) hgroup .stop)
  have htokens : tokenize sampleQuery =
      [.literal "a", .compare .le, .literal "<b c", .connective .or, .openParen, .openParen,
        .literal "R&D", .literal "x", .closeParen, .connective .and, .openParen, .closeParen,
        .connective .and, .literal "e", .compare .eq, .literal "", .closeParen] := by decide
  rw [IsWellFormed, htokens]
  exact Or.inr hquery

theorem tokenize_render_parse_sampleQuery :
    IsWellFormed sampleQuery ∧
      tokenize (parse sampleQuery).render = tokenize sampleQuery ∧
      parse (parse sampleQuery).render = parse sampleQuery :=
  ⟨isWellFormed_sampleQuery, tokenize_render_parse isWellFormed_sampleQuery⟩

end FilterQuery
