/-
# FilterQuery.Proofs.Query.Parsed -- what every parsed condition has in common

The parser is one loop over tokens with a stack of open levels. Whatever is true of a
level before its first token, and survives a literal, a comparison symbol, a connective
and the closing of an inner level, is true of the level whose siblings the query ends
up with (`parseLevel_keeps`). The induction over tokens and levels is done here once;
properties of parsed conditions only supply the steps.

The first such property is that parsed conditions hold no double quotes
(`isQuoteFree_parse`).
-/
import FilterQuery.Proofs.Query.Written

namespace FilterQuery

/-! ## Invariants of the loop -/

/-- **A property of levels that reading keeps**, for queries whose literals all are
`allowed`. -/
structure Level.IsInvariant (P : Level → Prop) (allowed : String → Prop) : Prop where
  start : P .start
  literal : ∀ {text level}, allowed text → P level → P (level.literal text)
  compare : ∀ {op level}, P level → P (level.compare op)
  connect : ∀ {c level}, P level → P (level.connect c)
  nest : ∀ {outer inner}, P outer → P inner → P (outer.nest inner)

theorem Level.IsInvariant.closeAll {P : Level → Prop} {allowed : String → Prop}
    (h : IsInvariant P allowed) {level : Level} {outer : List Level} (hlevel : P level)
    (houter : ∀ up ∈ outer, P up) : P (level.closeAll outer) := by
  induction outer generalizing level with
  | nil => exact hlevel
  | cons up outer ih =>
      obtain ⟨hup, houter⟩ := List.forall_mem_cons.mp houter
      exact ih (h.nest hup hlevel) houter

/-- The siblings that a reading ends with are those of a level with the property. -/
theorem parseLevel_keeps {P : Level → Prop} {allowed : String → Prop}
    (h : Level.IsInvariant P allowed) {level : Level} {outer : List Level} {tokens : List Token}
    (hlevel : P level) (houter : ∀ up ∈ outer, P up)
    (hallowed : ∀ text, .literal text ∈ tokens → allowed text) :
    ∃ last : Level, P last ∧ (parseLevel level outer tokens).1 = last.siblings := by
  fun_induction parseLevel level outer tokens with
  | case1 level outer => exact ⟨level.closeAll outer, h.closeAll hlevel houter, rfl⟩
  | case2 level outer text rest ih =>
      have htext := hallowed text (by simp)
      exact ih (h.literal htext hlevel) houter fun t ht => hallowed t (List.mem_cons_of_mem _ ht)
  | case3 level outer op rest ih =>
      exact ih (h.compare hlevel) houter fun t ht => hallowed t (List.mem_cons_of_mem _ ht)
  | case4 level outer c rest ih =>
      exact ih (h.connect hlevel) houter fun t ht => hallowed t (List.mem_cons_of_mem _ ht)
  | case5 level outer rest ih =>
      exact ih h.start (List.forall_mem_cons.mpr ⟨hlevel, houter⟩) fun t ht =>
        hallowed t (List.mem_cons_of_mem _ ht)
  | case6 level rest => exact ⟨level, hlevel, rfl⟩
  | case7 level rest up outer ih =>
      obtain ⟨hup, houter⟩ := List.forall_mem_cons.mp houter
      exact ih (h.nest hup hlevel) houter fun t ht => hallowed t (List.mem_cons_of_mem _ ht)

/-- **What the parser keeps** is true of the level that a query's condition comes from;
no literal of a query has a double quote in it. -/
theorem parse_keeps {P : Level → Prop} (h : Level.IsInvariant P fun text => '"' ∉ text.toList)
    (query : String) :
    ∃ last : Level, P last ∧ parse query = Condition.ofTerms last.siblings := by
  have hnil : ∀ up ∈ ([] : List Level), P up := fun _ hup => absurd hup List.not_mem_nil
  obtain ⟨last, hlast, hsiblings⟩ := parseLevel_keeps h h.start hnil (tokenize_quoteless query)
  exact ⟨last, hlast, by rw [parse, hsiblings]⟩

/-! ## Quotes -/

namespace Condition

theorem isQuoteFree_empty : empty.IsQuoteFree := by
  rw [empty, isQuoteFree_leaf_iff]
  decide

theorem isQuoteFree_ofTerms {cs : List Condition} (h : ∀ c ∈ cs, c.IsQuoteFree) :
    (ofTerms cs).IsQuoteFree := by
  cases cs with
  | nil => exact isQuoteFree_empty
  | cons first others => exact isQuoteFree_group_iff.mpr h

theorem isQuoteFree_withJoiner {c : Condition} (h : c.IsQuoteFree) (j : Option Connective) :
    (c.withJoiner j).IsQuoteFree := by
  rw [IsQuoteFree, leaves_withJoiner]
  exact h

end Condition

/-- A level that holds no quotes, neither in its terms nor in the one under way. -/
structure Level.IsQuoteFree (level : Level) : Prop where
  terms : ∀ c ∈ level.terms, c.IsQuoteFree
  started : ∀ comparison ∈ level.started, comparison.IsQuoteFree

theorem Level.isInvariant_isQuoteFree :
    IsInvariant IsQuoteFree fun text => '"' ∉ text.toList where
  start := ⟨by simp [Level.start], by simp [Level.start]⟩
  literal := by
    intro text level htext hlevel
    rw [Level.literal]
    split
    · next hnone =>
      -- the literal begins a term
      refine ⟨hlevel.terms, ?_⟩
      rintro comparison ⟨rfl⟩
      exact ⟨htext, by simp [Comparison.named]⟩
    · next comparison hsome =>
      -- the literal is the value that ends the term under way
      refine ⟨?_, by simp⟩
      rintro c (- | ⟨_, hc⟩)
      · rw [Condition.isQuoteFree_leaf_iff]
        exact ⟨(hlevel.started comparison hsome).1, htext⟩
      · exact hlevel.terms c hc
  compare := by
    intro op level hlevel
    refine ⟨hlevel.terms, ?_⟩
    intro comparison hmem
    obtain ⟨before, hbefore, rfl⟩ := Option.mem_map.mp hmem
    exact hlevel.started before hbefore
  connect := fun hlevel => ⟨hlevel.terms, by simp [Level.connect]⟩
  nest := by
    intro outer inner houter hinner
    refine ⟨?_, houter.started⟩
    rintro c (- | ⟨_, hc⟩)
    · have hsiblings : ∀ c ∈ inner.siblings, c.IsQuoteFree := fun c hc =>
        hinner.terms c (List.mem_reverse.mp hc)
      exact Condition.isQuoteFree_withJoiner (Condition.isQuoteFree_ofTerms hsiblings) _
    · exact houter.terms c hc

/-- **Parsed conditions hold no double quotes**, in whatever query. -/
theorem isQuoteFree_parse (query : String) : (parse query).IsQuoteFree := by
  obtain ⟨last, hlast, hparse⟩ := parse_keeps Level.isInvariant_isQuoteFree query
  rw [hparse]
  exact Condition.isQuoteFree_ofTerms fun c hc => hlast.terms c (List.mem_reverse.mp hc)

end FilterQuery
