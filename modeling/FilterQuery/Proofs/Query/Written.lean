/-
# FilterQuery.Proofs.Query.Written -- what a written condition is read back as

Writing a condition and reading the text again is two steps, and each has a
description of its own that never mentions characters:

* `Condition.tokens` lists the tokens of the text, and reading the text yields them
  (`tokenize_render`), provided that no name and no value holds a double quote;
* `Condition.reread` is the tree that the parser makes of these tokens
  (`terms_tokens`): a void leaf and a group without children come back as the empty
  leaf, a leaf with a name but neither operator nor value does not come back, and
  every sibling but the first comes back with a connective.

Together they say what `parse` undoes of `render` (`parse_render`), for every tree
without quotes, whatever else is odd about it.
-/
import FilterQuery.Proofs.Condition.Tree
import FilterQuery.Proofs.Query.Reading

namespace FilterQuery

/-! ## Comparisons -/

/-- A comparison whose texts hold no double quote. -/
def Comparison.IsQuoteFree (c : Comparison) : Prop :=
  '"' ∉ c.name.toList ∧ '"' ∉ c.value.toList

instance (c : Comparison) : Decidable c.IsQuoteFree := inferInstanceAs (Decidable (_ ∧ _))

/-- A comparison that got no further than its name. -/
def Comparison.isUnfinished (c : Comparison) : Bool :=
  !c.isVoid && c.operator == none && c.value == ""

/-- The tokens of a comparison as it is written. -/
def Comparison.tokens (c : Comparison) : List Token :=
  if c.isVoid then []
  else
    match c.operator with
    | some op => [.literal c.name, .compare op, .literal c.value]
    | none => if c.value = "" then [.literal c.name] else [.literal c.name, .literal c.value]

open Token in
/-- **A written comparison is read as its tokens.** -/
theorem Comparison.spells_render {c : Comparison} (hc : c.IsQuoteFree) :
    Spells c.render.toList c.tokens := by
  obtain ⟨hname, hvalue⟩ := hc
  have hnameSpells : Spells (renderLiteral c.name).toList [.literal c.name] :=
    ⟨run_renderLiteral hname, count_quote_renderLiteral hname⟩
  have hvalueSpells : Spells (renderLiteral c.value).toList [.literal c.value] :=
    ⟨run_renderLiteral hvalue, count_quote_renderLiteral hvalue⟩
  unfold Comparison.render Comparison.tokens
  split
  · exact spells_nil
  · cases c.operator with
    | some op =>
        have hsymbol : op.symbol.toList.count '"' = 0 := by cases op <;> rfl
        refine ⟨?_, ?_⟩
        · rw [String.toList_append, String.toList_append, List.append_assoc, State.run_append,
            steps_renderLiteral hname, run_symbol op _ (head?_renderLiteral_ne c.value),
            hvalueSpells.reads]
          simp [Pending.close]
        · rw [String.toList_append, String.toList_append, List.count_append, List.count_append,
            hsymbol]
          exact (hnameSpells.paired.add Even.zero).add hvalueSpells.paired
    | none =>
        by_cases hempty : c.value = ""
        · rw [if_pos hempty, if_pos hempty]
          exact hnameSpells
        · rw [if_neg hempty, if_neg hempty]
          have hblank : delimiter? ' ' = some [] := by decide
          simpa using hnameSpells.delimit hblank hvalueSpells

namespace Condition

/-! ## The tokens of a tree -/

mutual

/-- The tokens of a condition as it is written, without parentheses around it. -/
def tokens : Condition → List Token
  | .leaf _ comparison => comparison.tokens
  | .group _ [] => []
  | .group _ (first :: others) => first.siblingTokens ++ othersTokens others

/-- The tokens of a condition among siblings. -/
def siblingTokens : Condition → List Token
  | .leaf _ comparison =>
    if comparison.isVoid then [.openParen, .closeParen] else comparison.tokens
  | .group _ [] => [.openParen, .closeParen]
  | .group _ (first :: others) =>
    .openParen :: (first.siblingTokens ++ othersTokens others ++ [.closeParen])

/-- The tokens of the siblings after the first, each behind its connective. -/
def othersTokens : List Condition → List Token
  | [] => []
  | c :: cs => .connective (c.joiner.getD .and) :: (c.siblingTokens ++ othersTokens cs)

end

/-- A condition none of whose names and values holds a double quote. -/
def IsQuoteFree (c : Condition) : Prop := ∀ l ∈ c.leaves, l.IsQuoteFree

theorem isQuoteFree_leaf_iff {j : Option Connective} {l : Comparison} :
    (leaf j l).IsQuoteFree ↔ l.IsQuoteFree := by
  simp [IsQuoteFree]

theorem isQuoteFree_group_iff {j : Option Connective} {cs : List Condition} :
    (group j cs).IsQuoteFree ↔ ∀ c ∈ cs, c.IsQuoteFree :=
  forall_mem_leaves_group

section Reading

open Token

theorem spells_renderOthers {cs : List Condition}
    (hcs : ∀ c ∈ cs, Spells c.renderSibling.toList c.siblingTokens) {u : List Char}
    {ts : List Token} (hu : Spells u ts) :
    Spells (u ++ (renderOthers cs).toList) (ts ++ othersTokens cs) := by
  induction cs generalizing u ts with
  | nil => simpa [renderOthers, othersTokens] using hu
  | cons c cs ih =>
      -- the connective and the sibling each stand behind a blank
      have hblank : delimiter? ' ' = some [] := by decide
      have hjoined := hu.delimit hblank
        ((spells_symbol (c.joiner.getD .and)).delimit hblank (hcs c (by simp)))
      have hrest := ih (fun x hx => hcs x (List.mem_cons_of_mem c hx)) hjoined
      simpa [renderOthers, othersTokens, separator] using hrest

/-- Siblings that each stand for themselves do so together. -/
theorem spells_siblings {first : Condition} {others : List Condition}
    (h : ∀ c ∈ first :: others, Spells c.renderSibling.toList c.siblingTokens) :
    Spells (first.renderSibling.toList ++ (renderOthers others).toList)
      (first.siblingTokens ++ othersTokens others) := by
  obtain ⟨hfirst, hothers⟩ := List.forall_mem_cons.mp h
  exact spells_renderOthers hothers hfirst

/-- Parentheses around a text that stands for itself. -/
theorem spells_parenthesized {u : List Char} {ts : List Token} (hu : Spells u ts) :
    Spells ('(' :: (u ++ [')'])) (.openParen :: (ts ++ [.closeParen])) := by
  have hopen : delimiter? '(' = some [.openParen] := by decide
  have hclose : delimiter? ')' = some [.closeParen] := by decide
  simpa using spells_nil.delimit hopen (hu.delimit hclose spells_nil)

theorem spells_renderSibling (c : Condition) (hc : c.IsQuoteFree) :
    Spells c.renderSibling.toList c.siblingTokens := by
  induction c using Condition.induction with
  | leaf j comparison =>
      rw [renderSibling, siblingTokens]
      split
      · exact spells_parenthesized spells_nil
      · exact Comparison.spells_render (isQuoteFree_leaf_iff.mp hc)
  | group j cs ih =>
      cases cs with
      | nil =>
          rw [renderSibling, siblingTokens]
          exact spells_parenthesized spells_nil
      | cons first others =>
          have hchildren := isQuoteFree_group_iff.mp hc
          have hinner := spells_siblings fun c hmem => ih c hmem (hchildren c hmem)
          simpa [renderSibling, siblingTokens] using spells_parenthesized hinner

/-- **The tokens of a written condition.** -/
theorem tokenize_render {c : Condition} (hc : c.IsQuoteFree) : tokenize c.render = c.tokens := by
  cases c with
  | leaf j comparison => exact (Comparison.spells_render (isQuoteFree_leaf_iff.mp hc)).reads
  | group j cs =>
      cases cs with
      | nil => rfl
      | cons first others =>
          -- the siblings of the root stand without the parentheses of an inner group
          have hchildren := isQuoteFree_group_iff.mp hc
          have hinner := spells_siblings fun c hmem => spells_renderSibling c (hchildren c hmem)
          rw [tokenize, render, String.toList_append, tokens]
          exact hinner.reads

end Reading

/-! ## The tree read back -/

mutual

/-- What a sibling is read back as behind the connective `j`: nothing if it is an
unfinished leaf, one sibling otherwise. -/
def rereadSibling (j : Option Connective) : Condition → List Condition
  | .leaf _ comparison =>
    if comparison.isVoid then [.leaf j .empty]
    else if comparison.isUnfinished then []
    else [.leaf j comparison]
  | .group _ [] => [.leaf j .empty]
  | .group _ (first :: others) =>
    [(ofTerms (first.rereadSibling none ++ rereadOthers others)).withJoiner j]

/-- What the siblings after the first are read back as. -/
def rereadOthers : List Condition → List Condition
  | [] => []
  | c :: cs => c.rereadSibling (some (c.joiner.getD .and)) ++ rereadOthers cs

end

/-- What the siblings of a level are read back as. -/
def rereadAll : List Condition → List Condition
  | [] => []
  | first :: others => first.rereadSibling none ++ rereadOthers others

theorem rereadSibling_group (j k : Option Connective) (first : Condition)
    (others : List Condition) :
    (group k (first :: others)).rereadSibling j =
      [(ofTerms (rereadAll (first :: others))).withJoiner j] := by
  rw [rereadSibling, rereadAll]

/-- **The condition that is read back** when a condition has been written. A leaf is
written without parentheses, so it comes back inside the group of the query. -/
def reread : Condition → Condition
  | .leaf _ comparison =>
    if comparison.isVoid then .empty else ofTerms ((leaf none comparison).rereadSibling none)
  | .group _ cs => ofTerms (rereadAll cs)

end Condition

namespace Level

theorem siblings_nest (outer inner : Level) :
    (outer.nest inner).siblings =
      outer.siblings ++ [(Condition.ofTerms inner.siblings).withJoiner outer.joiner] := by
  simp [nest, siblings]

/-- Two literals between terms are a term without operator. -/
theorem siblings_literal_literal {level : Level} (h : level.started = none)
    (name value : String) :
    ((level.literal name).literal value).siblings =
      level.siblings ++ [.leaf level.joiner ⟨name, none, value⟩] := by
  simp [literal, h, siblings, Comparison.named]

/-- Two literals with a comparison symbol between them are a term. -/
theorem siblings_literal_compare_literal {level : Level} (h : level.started = none)
    (name : String) (op : CompareOp) (value : String) :
    (((level.literal name).compare op).literal value).siblings =
      level.siblings ++ [.leaf level.joiner ⟨name, some op, value⟩] := by
  simp [literal, compare, h, siblings, Comparison.named]

/-- A literal alone adds nothing yet. -/
theorem siblings_literal {level : Level} (h : level.started = none) (name : String) :
    (level.literal name).siblings = level.siblings := by
  simp [literal, h, siblings]

end Level

namespace Condition

/-! ## Reading the tokens -/

/-- **What tokens add to a level.** Read between two terms of any level, `ts` leave it
with the siblings `add j` more, where `j` is the level's connective. What else is left
behind, a connective or the name of an unfinished term, does not matter. -/
def Adds (ts : List Token) (add : Option Connective → List Condition) : Prop :=
  ∀ (level : Level) (outer : List Level) (rest : List Token), level.started = none →
    ∃ after : Level, after.siblings = level.siblings ++ add level.joiner ∧
      parseLevel level outer (ts ++ rest) = parseLevel after outer rest

theorem adds_comparison {comparison : Comparison} (hvoid : comparison.isVoid = false) :
    Adds comparison.tokens fun j =>
      if comparison.isUnfinished then [] else [.leaf j comparison] := by
  obtain ⟨name, operator, value⟩ := comparison
  intro level outer rest hstarted
  rw [Comparison.tokens, if_neg (by simp [hvoid])]
  cases operator with
  | some op =>
      refine ⟨((level.literal name).compare op).literal value, ?_, rfl⟩
      simpa [Comparison.isUnfinished] using
        Level.siblings_literal_compare_literal hstarted name op value
  | none =>
      by_cases hempty : value = ""
      · subst hempty
        refine ⟨level.literal name, ?_, rfl⟩
        simpa [Comparison.isUnfinished, hvoid] using Level.siblings_literal hstarted name
      · refine ⟨(level.literal name).literal value, ?_, ?_⟩
        · simpa [Comparison.isUnfinished, hempty] using
            Level.siblings_literal_literal hstarted name value
        · simp [hempty, parseLevel]

/-- Parentheses add one sibling, the group of what is inside. -/
theorem adds_parenthesized {ts : List Token} {add : Option Connective → List Condition}
    (h : Adds ts add) :
    Adds (.openParen :: (ts ++ [.closeParen])) fun j => [(ofTerms (add none)).withJoiner j] := by
  intro level outer rest _
  -- the inner level starts afresh, whatever the outer one has under way
  obtain ⟨inner, hinner, hparse⟩ := h .start (level :: outer) (.closeParen :: rest) rfl
  refine ⟨level.nest inner, ?_, ?_⟩
  · rw [Level.siblings_nest, hinner]
    rfl
  · simp only [List.cons_append, List.append_assoc, List.nil_append, parseLevel, hparse]

theorem adds_nil : Adds [] fun _ => [] :=
  fun level _ _ _ => ⟨level, by simp, rfl⟩

/-- Empty parentheses add the empty leaf. -/
theorem adds_parentheses : Adds [.openParen, .closeParen] fun j => [.leaf j .empty] :=
  adds_parenthesized adds_nil

/-- Tokens behind a connective add what they add behind it, whatever `ts` has left behind
besides its siblings. -/
theorem Adds.connect {ts us : List Token} {add add' : Option Connective → List Condition}
    (h : Adds ts add) (h' : Adds us add') (k : Connective) :
    Adds (ts ++ .connective k :: us) fun j => add j ++ add' (some k) := by
  intro level outer rest hstarted
  obtain ⟨before, hbefore, hparse⟩ := h level outer (.connective k :: us ++ rest) hstarted
  obtain ⟨after, hafter, hparse'⟩ := h' (before.connect k) outer rest rfl
  refine ⟨after, ?_, ?_⟩
  · rw [hafter, ← List.append_assoc, ← hbefore]
    rfl
  · rw [List.append_assoc, hparse, List.cons_append, parseLevel, hparse']

/-- Siblings behind their connectives, after tokens that add something themselves. -/
theorem Adds.others {ts : List Token} {add : Option Connective → List Condition}
    (h : Adds ts add) {cs : List Condition}
    (hcs : ∀ c ∈ cs, Adds c.siblingTokens fun j => c.rereadSibling j) :
    Adds (ts ++ othersTokens cs) fun j => add j ++ rereadOthers cs := by
  induction cs generalizing ts add with
  | nil => simpa [othersTokens, rereadOthers] using h
  | cons c cs ih =>
      have hjoined := h.connect (hcs c (by simp)) (c.joiner.getD .and)
      have hrest := ih hjoined fun x hx => hcs x (List.mem_cons_of_mem c hx)
      simpa [othersTokens, rereadOthers] using hrest

theorem adds_siblingTokens (c : Condition) : Adds c.siblingTokens fun j => c.rereadSibling j := by
  induction c using Condition.induction with
  | leaf j comparison =>
      by_cases hvoid : comparison.isVoid
      · simpa [siblingTokens, rereadSibling, hvoid] using adds_parentheses
      · have hfilled : comparison.isVoid = false := by simpa using hvoid
        simpa [siblingTokens, rereadSibling, hfilled] using adds_comparison hfilled
  | group j cs ih =>
      cases cs with
      | nil => simpa [siblingTokens, rereadSibling] using adds_parentheses
      | cons first others =>
          have hinner := (ih first (by simp)).others fun c hc =>
            ih c (List.mem_cons_of_mem first hc)
          simpa [siblingTokens, rereadSibling] using adds_parenthesized hinner

/-- The siblings that tokens add to the empty level are the terms of their query. -/
theorem Adds.terms {ts : List Token} {add : Option Connective → List Condition}
    (h : Adds ts add) : (parseLevel .start [] ts).1 = add none := by
  obtain ⟨after, hafter, hparse⟩ := h .start [] [] rfl
  rw [List.append_nil] at hparse
  rw [hparse, parseLevel, Level.closeAll, hafter]
  rfl

/-- **The parser on the tokens of a written condition.** -/
theorem terms_tokens (c : Condition) : ofTerms (parseLevel .start [] c.tokens).1 = c.reread := by
  cases c with
  | leaf j comparison =>
      by_cases hvoid : comparison.isVoid
      · simp [tokens, Comparison.tokens, reread, hvoid, parseLevel, Level.closeAll, Level.siblings,
          Level.start, ofTerms]
      · have hfilled : comparison.isVoid = false := by simpa using hvoid
        rw [tokens, reread, (adds_comparison hfilled).terms, rereadSibling]
        simp [hfilled]
  | group j cs =>
      cases cs with
      | nil => rfl
      | cons first others =>
          have hothers : ∀ c ∈ others, Adds c.siblingTokens fun j => c.rereadSibling j :=
            fun c _ => adds_siblingTokens c
          have hinner := (adds_siblingTokens first).others hothers
          rw [tokens, hinner.terms, reread, rereadAll]

/-- **Reading what was written**: the text of a condition without quotes is parsed as
the condition `reread`. -/
theorem parse_render {c : Condition} (hc : c.IsQuoteFree) : parse c.render = c.reread := by
  rw [parse, tokenize_render hc, terms_tokens]

end Condition

end FilterQuery
