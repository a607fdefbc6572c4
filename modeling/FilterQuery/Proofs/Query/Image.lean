/-
# FilterQuery.Proofs.Query.Image -- which trees are parsed from some query

Parsing never fails, and so its results are all there is to say about the queries it was
not meant for. A level takes its siblings in one after the other and never gives up a
connective again: once a sibling has one, all later ones have one too. Closing a level
makes a group of its siblings, or the empty leaf where there are none. This and the
absence of quotes is all that parsed trees have in common (`exists_parse_eq_iff`).

One half is an invariant of the parser (`isOrderly_parse`). For the other half every such
tree is put into words: tokens from which the parser builds it sibling by sibling
(`parseLevel_words`), in a query that has exactly these tokens (`tokenize_spell`).
-/
import FilterQuery.Proofs.Query.Parsed

namespace FilterQuery

/-! ## Texts for tokens -/

namespace Token

/-- A token as text. -/
def spelling : Token → String
  | .literal text => renderLiteral text
  | .compare op => op.symbol
  | .connective c => c.symbol
  | .openParen => "("
  | .closeParen => ")"

theorem spells_spelling {t : Token} (ht : Quoteless [t]) : Spells t.spelling.toList [t] := by
  cases t with
  | literal text =>
      have htext : '"' ∉ text.toList := ht text (by simp)
      exact ⟨run_renderLiteral htext, count_quote_renderLiteral htext⟩
  | compare op => cases op <;> exact ⟨rfl, by decide⟩
  | connective c => exact spells_symbol c
  | openParen => exact ⟨rfl, by decide⟩
  | closeParen => exact ⟨rfl, by decide⟩

/-- A text for some tokens, each followed by a blank. -/
def spell : List Token → String
  | [] => ""
  | t :: ts => t.spelling ++ " " ++ spell ts

theorem spells_spell {ts : List Token} (hts : Quoteless ts) : Spells (spell ts).toList ts := by
  induction ts with
  | nil => exact spells_nil
  | cons t ts ih =>
      have hsplit : Quoteless ([t] ++ ts) := hts
      obtain ⟨ht, hrest⟩ := quoteless_append.mp hsplit
      have hblank : delimiter? ' ' = some [] := by decide
      simpa [spell] using (spells_spelling ht).delimit hblank (ih hrest)

/-- **Every list of tokens without quotes is read from some text.** -/
theorem tokenize_spell {ts : List Token} (hts : Quoteless ts) : tokenize (spell ts) = ts :=
  (spells_spell hts).reads

end Token

namespace Condition

/-! ## Orderly trees -/

/-- Siblings of which none goes without a connective behind one that has it. -/
def StaysJoined (cs : List Condition) : Prop :=
  cs.Pairwise fun c d => c.joiner ≠ none → d.joiner ≠ none

/-- **An orderly tree**: no group is empty, and no siblings stop being joined. -/
structure IsOrderly (c : Condition) : Prop where
  inhabited : c.IsInhabited
  staysJoined : ∀ cs ∈ c.siblingLists, StaysJoined cs

theorem isOrderly_leaf (j : Option Connective) (l : Comparison) : (leaf j l).IsOrderly :=
  ⟨isInhabited_leaf j l, by simp⟩

theorem isOrderly_group_iff {j : Option Connective} {cs : List Condition} :
    (group j cs).IsOrderly ↔ cs ≠ [] ∧ StaysJoined cs ∧ ∀ c ∈ cs, c.IsOrderly := by
  constructor
  · intro h
    obtain ⟨hne, hinhabited⟩ := isInhabited_group_iff.mp h.inhabited
    obtain ⟨hjoined, hstays⟩ := forall_mem_siblingLists_group.mp h.staysJoined
    exact ⟨hne, hjoined, fun c hc => ⟨hinhabited c hc, hstays c hc⟩⟩
  · rintro ⟨hne, hjoined, hall⟩
    refine ⟨isInhabited_group_iff.mpr ⟨hne, fun c hc => (hall c hc).inhabited⟩, ?_⟩
    exact forall_mem_siblingLists_group.mpr ⟨hjoined, fun c hc => (hall c hc).staysJoined⟩

theorem IsOrderly.withJoiner {c : Condition} (h : c.IsOrderly) (j : Option Connective) :
    (c.withJoiner j).IsOrderly := by
  refine ⟨?_, ?_⟩
  · rw [IsInhabited, siblingLists_withJoiner]
    exact h.inhabited
  · rw [siblingLists_withJoiner]
    exact h.staysJoined

theorem isOrderly_ofTerms {cs : List Condition} (hjoined : StaysJoined cs)
    (hcs : ∀ c ∈ cs, c.IsOrderly) : (ofTerms cs).IsOrderly := by
  cases cs with
  | nil => exact isOrderly_leaf _ _
  | cons first others => exact isOrderly_group_iff.mpr ⟨by simp, hjoined, hcs⟩

end Condition

/-! ## What the parser builds -/

/-- **An orderly level**: its siblings are orderly trees that stay joined, and once one of
them has a connective, so will the next. -/
structure Level.IsOrderly (level : Level) : Prop where
  trees : ∀ c ∈ level.siblings, c.IsOrderly
  staysJoined : Condition.StaysJoined level.siblings
  joins : ∀ c ∈ level.siblings, c.joiner ≠ none → level.joiner ≠ none

/-- A level stays orderly when it takes in an orderly sibling behind its connective. -/
theorem Level.IsOrderly.push {level after : Level} (h : level.IsOrderly) {c : Condition}
    (hc : c.IsOrderly) (hterms : after.terms = c :: level.terms)
    (hc' : c.joiner = level.joiner) (hafter : after.joiner = level.joiner) : after.IsOrderly := by
  have hsiblings : after.siblings = level.siblings ++ [c] := by simp [siblings, hterms]
  refine ⟨?_, ?_, ?_⟩
  · intro d hd
    rw [hsiblings, List.mem_append, List.mem_singleton] at hd
    rcases hd with hd | rfl
    · exact h.trees d hd
    · exact hc
  · rw [hsiblings, Condition.StaysJoined, List.pairwise_append]
    refine ⟨h.staysJoined, List.pairwise_singleton _ _, ?_⟩
    intro d hd e he
    rw [List.mem_singleton.mp he, hc']
    exact h.joins d hd
  · intro d hd
    rw [hsiblings, List.mem_append, List.mem_singleton] at hd
    rw [hafter]
    rcases hd with hd | rfl
    · exact h.joins d hd
    · rw [hc']
      exact id

theorem Level.isInvariant_isOrderly : IsInvariant IsOrderly fun text => '"' ∉ text.toList where
  start := ⟨by simp [Level.start, siblings], .nil, by simp [Level.start, siblings]⟩
  literal := by
    intro text level _ hlevel
    rw [Level.literal]
    split
    · exact ⟨hlevel.trees, hlevel.staysJoined, hlevel.joins⟩
    · exact hlevel.push (Condition.isOrderly_leaf _ _) rfl rfl rfl
  compare := fun hlevel => ⟨hlevel.trees, hlevel.staysJoined, hlevel.joins⟩
  connect := fun hlevel => ⟨hlevel.trees, hlevel.staysJoined, by simp [Level.connect]⟩
  nest := by
    intro outer inner houter hinner
    have hgroup := Condition.isOrderly_ofTerms hinner.staysJoined hinner.trees
    exact houter.push (hgroup.withJoiner outer.joiner) rfl (Condition.joiner_withJoiner _ _) rfl

namespace Condition

theorem joiner_ofTerms (cs : List Condition) : (ofTerms cs).joiner = none := by
  cases cs <;> rfl

/-- **Parsed conditions are orderly**, whatever the query, and nothing joins them. -/
theorem isOrderly_parse (query : String) :
    (parse query).IsOrderly ∧ (parse query).joiner = none ∧
      (parse query = empty ∨ (parse query).isLeaf = false) := by
  obtain ⟨last, hlast, hparse⟩ := parse_keeps Level.isInvariant_isOrderly query
  rw [hparse]
  refine ⟨isOrderly_ofTerms hlast.staysJoined hlast.trees, joiner_ofTerms _, ?_⟩
  cases last.siblings with
  | nil => exact Or.inl rfl
  | cons first others => exact Or.inr rfl

/-! ## Trees in words -/

/-- The token of a connective, if there is one. -/
def joinerTokens (j : Option Connective) : List Token := j.toList.map .connective

/-- The tokens of a comparison, its name and its value among them even if they are empty. -/
def comparisonTokens (l : Comparison) : List Token :=
  .literal l.name :: (l.operator.toList.map .compare ++ [.literal l.value])

mutual

/-- **A tree in words**: tokens from which the parser builds it as a sibling. -/
def words : Condition → List Token
  | .leaf j l => joinerTokens j ++ comparisonTokens l
  | .group j cs => joinerTokens j ++ .openParen :: (wordsAll cs ++ [.closeParen])

/-- Siblings in words. -/
def wordsAll : List Condition → List Token
  | [] => []
  | c :: cs => c.words ++ wordsAll cs

end

theorem quoteless_joinerTokens (j : Option Connective) : Token.Quoteless (joinerTokens j) := by
  cases j <;> simp [joinerTokens, Token.Quoteless]

theorem quoteless_comparisonTokens {l : Comparison} (hl : l.IsQuoteFree) :
    Token.Quoteless (comparisonTokens l) := by
  obtain ⟨hname, hvalue⟩ := hl
  intro text hmem
  simp only [comparisonTokens, List.mem_cons, List.mem_append, List.mem_map, Token.literal.injEq,
    List.not_mem_nil, or_false, reduceCtorEq, and_false, exists_false, false_or] at hmem
  rcases hmem with rfl | rfl
  · exact hname
  · exact hvalue

theorem quoteless_wordsAll {cs : List Condition} (hcs : ∀ c ∈ cs, Token.Quoteless c.words) :
    Token.Quoteless (wordsAll cs) := by
  induction cs with
  | nil => simp [wordsAll, Token.Quoteless]
  | cons c cs ih =>
      obtain ⟨hc, hcs⟩ := List.forall_mem_cons.mp hcs
      rw [wordsAll]
      exact Token.quoteless_append.mpr ⟨hc, ih hcs⟩

theorem quoteless_words {c : Condition} (hc : c.IsQuoteFree) : Token.Quoteless c.words := by
  induction c using Condition.induction with
  | leaf j l =>
      rw [words]
      exact Token.quoteless_append.mpr
        ⟨quoteless_joinerTokens j, quoteless_comparisonTokens (isQuoteFree_leaf_iff.mp hc)⟩
  | group j cs ih =>
      have hchildren := isQuoteFree_group_iff.mp hc
      have hall := quoteless_wordsAll fun c hmem => ih c hmem (hchildren c hmem)
      rw [words]
      refine Token.quoteless_append.mpr ⟨quoteless_joinerTokens j, ?_⟩
      intro text hmem
      exact hall text (by simpa using hmem)

end Condition

/-! ## Reading the words -/

namespace Level

/-- A level that has taken in one more sibling, and whose connective is that sibling's. -/
def take (level : Level) (c : Condition) : Level := ⟨c :: level.terms, c.joiner, none⟩

theorem siblings_foldl_take (level : Level) (cs : List Condition) :
    (cs.foldl take level).siblings = level.siblings ++ cs := by
  induction cs generalizing level with
  | nil => simp
  | cons c cs ih => rw [List.foldl_cons, ih]; simp [take, siblings]

/-- **A level that can take in a sibling**: no term is under way, and the level has no
connective that the sibling would have to go without. -/
structure Admits (level : Level) (c : Condition) : Prop where
  started : level.started = none
  joins : level.joiner ≠ none → c.joiner ≠ none

/-- The level behind the connective of a sibling. -/
theorem parseLevel_joinerTokens {level : Level} {c : Condition} (h : level.Admits c)
    (outer : List Level) (rest : List Token) :
    parseLevel level outer (Condition.joinerTokens c.joiner ++ rest) =
      parseLevel ⟨level.terms, c.joiner, none⟩ outer rest := by
  cases hc : c.joiner with
  | some k => rfl
  | none =>
      have hlevel : level.joiner = none := by
        by_contra hne
        exact h.joins hne hc
      obtain ⟨terms, joiner, started⟩ := level
      cases hlevel
      cases h.started
      rfl

theorem parseLevel_comparisonTokens (terms : List Condition) (j : Option Connective)
    (l : Comparison) (outer : List Level) (rest : List Token) :
    parseLevel ⟨terms, j, none⟩ outer (Condition.comparisonTokens l ++ rest) =
      parseLevel ⟨.leaf j l :: terms, j, none⟩ outer rest := by
  obtain ⟨name, operator, value⟩ := l
  cases operator <;> rfl

end Level

namespace Condition

/-- Siblings that stay joined are taken in one by one. -/
theorem parseLevel_wordsAll {cs : List Condition}
    (hcs : ∀ c ∈ cs, ∀ (level : Level) (outer : List Level) (rest : List Token),
      level.Admits c → parseLevel level outer (c.words ++ rest) = parseLevel (level.take c) outer rest)
    (hjoined : StaysJoined cs) {level : Level} (hlevel : ∀ c ∈ cs, level.Admits c)
    (outer : List Level) (rest : List Token) :
    parseLevel level outer (wordsAll cs ++ rest) = parseLevel (cs.foldl Level.take level) outer rest := by
  induction cs generalizing level with
  | nil => rfl
  | cons c cs ih =>
      obtain ⟨hc, hcs⟩ := List.forall_mem_cons.mp hcs
      obtain ⟨hbehind, hjoined⟩ := List.pairwise_cons.mp hjoined
      have hadmits : ∀ d ∈ cs, (level.take c).Admits d := fun d hd => ⟨rfl, hbehind d hd⟩
      rw [wordsAll, List.append_assoc, hc level outer _ (hlevel c (by simp)), List.foldl_cons]
      exact ih hcs hjoined hadmits

/-- **The words of an orderly tree build it.** -/
theorem parseLevel_words {c : Condition} (hc : c.IsOrderly) {level : Level}
    (hlevel : level.Admits c) (outer : List Level) (rest : List Token) :
    parseLevel level outer (c.words ++ rest) = parseLevel (level.take c) outer rest := by
  induction c using Condition.induction generalizing level outer rest with
  | leaf j l =>
      rw [words, List.append_assoc]
      exact (Level.parseLevel_joinerTokens hlevel outer _).trans
        (Level.parseLevel_comparisonTokens level.terms j l outer rest)
  | group j cs ih =>
      obtain ⟨hne, hjoined, hchildren⟩ := isOrderly_group_iff.mp hc
      have hstart : ∀ c ∈ cs, Level.start.Admits c := fun c _ => ⟨rfl, fun h => absurd rfl h⟩
      have hinner := parseLevel_wordsAll
        (fun c hmem level outer rest hlevel => ih c hmem (hchildren c hmem) hlevel outer rest)
        hjoined hstart (⟨level.terms, j, none⟩ :: outer) (.closeParen :: rest)
      have hgroup : ofTerms (cs.foldl Level.take .start).siblings = group none cs := by
        rw [Level.siblings_foldl_take]
        cases cs with
        | nil => exact absurd rfl hne
        | cons first others => rfl
      have hopen : (group j cs).words ++ rest =
          joinerTokens j ++ .openParen :: (wordsAll cs ++ .closeParen :: rest) := by
        simp [words]
      rw [hopen]
      refine (Level.parseLevel_joinerTokens hlevel outer _).trans ?_
      -- the inner level is built from nothing and closed into the outer one
      rw [joiner, parseLevel, hinner, parseLevel, Level.nest, hgroup]
      rfl

theorem parse_spell_wordsAll {cs : List Condition} (hne : cs ≠ []) (hjoined : StaysJoined cs)
    (hcs : ∀ c ∈ cs, c.IsOrderly) (hfree : ∀ c ∈ cs, c.IsQuoteFree) :
    parse (Token.spell (wordsAll cs)) = group none cs := by
  have hwords := quoteless_wordsAll fun c hc => quoteless_words (hfree c hc)
  have hstart : ∀ c ∈ cs, Level.start.Admits c := fun c _ => ⟨rfl, fun h => absurd rfl h⟩
  have hbuild := parseLevel_wordsAll
    (fun c hc level outer rest hlevel => parseLevel_words (hcs c hc) hlevel outer rest)
    hjoined hstart [] []
  rw [List.append_nil] at hbuild
  rw [parse, Token.tokenize_spell hwords, hbuild, parseLevel, Level.closeAll,
    Level.siblings_foldl_take]
  cases cs with
  | nil => exact absurd rfl hne
  | cons first others => rfl

/-! ## The image -/

/-- **Which conditions are parsed from some query**: the empty one, and every group that
nothing joins and that is orderly and without quotes. -/
theorem exists_parse_eq_iff (c : Condition) :
    (∃ query : String, parse query = c) ↔
      c = empty ∨ (c.isLeaf = false ∧ c.joiner = none ∧ c.IsOrderly ∧ c.IsQuoteFree) := by
  constructor
  · rintro ⟨query, rfl⟩
    obtain ⟨horderly, hjoiner, hroot⟩ := isOrderly_parse query
    exact hroot.imp_right fun hgroup => ⟨hgroup, hjoiner, horderly, isQuoteFree_parse query⟩
  · rintro (rfl | ⟨hgroup, hjoiner, horderly, hfree⟩)
    · exact ⟨"", rfl⟩
    · cases c with
      | leaf j l => cases hgroup
      | group j cs =>
          obtain ⟨hne, hjoined, hchildren⟩ := isOrderly_group_iff.mp horderly
          cases hjoiner
          exact ⟨_, parse_spell_wordsAll hne hjoined hchildren (isQuoteFree_group_iff.mp hfree)⟩

end Condition

end FilterQuery
