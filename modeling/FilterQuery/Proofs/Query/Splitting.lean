/-
# FilterQuery.Proofs.Query.Splitting -- where the tokens of a query come apart

A blank or a parenthesis outside quotes ends whatever is under way, so that the query on its
left and the query on its right are read as if each stood alone (`tokenize_append_delimiter`).
It does not matter what the left one ends in: a comparison symbol that might have been longer,
a lone `&`, or a pair of quotes with nothing between them.

Quotes take a text out of the language. Between blanks it is one literal, whatever symbols,
connectives and parentheses it holds (`spells_quoted`).
-/
import FilterQuery.Proofs.Query.Reading

namespace FilterQuery

namespace Token

theorem delimiter?_of_isBlank {c : Char} (hc : isBlank c = true) : delimiter? c = some [] :=
  if_pos hc

/-- **A text in quotes stands for itself as one literal**, if it has no quotes of its own. -/
theorem spells_quoted {text : String} (h : '"' ∉ text.toList) :
    Spells ('"' :: (text.toList ++ ['"'])) [.literal text] := by
  refine ⟨?_, ?_⟩
  · rw [State.run_eq_steps, steps_inQuotes h]
    simp [State.finish, Pending.close, Pending.chars]
  · have hinside : text.toList.count '"' = 0 := List.count_eq_zero.mpr h
    simp [hinside]

end Token

open Token (delimiter? spells_quoted)

/-- **A delimiter outside quotes** takes a query apart, and is a token itself or nothing. -/
theorem tokenize_append_delimiter {u : String} (hu : Even (u.toList.count '"')) {d : Char}
    {ts : List Token} (hd : delimiter? d = some ts) (v : String) :
    tokenize (u ++ String.singleton d ++ v) = tokenize u ++ ts ++ tokenize v := by
  have hchars : (u ++ String.singleton d ++ v).toList = u.toList ++ d :: v.toList := by simp
  rw [tokenize, hchars, Token.run_append_delimiter hu hd none v.toList]
  rfl

theorem tokenize_append_quoted {u : String} (hu : Even (u.toList.count '"')) {text : String}
    (htext : '"' ∉ text.toList) (v : String) :
    tokenize (u ++ " \"" ++ text ++ "\" " ++ v) = tokenize u ++ [.literal text] ++ tokenize v := by
  have hblank : delimiter? ' ' = some [] := by decide
  have hquoted := spells_quoted htext
  have hchars : (u ++ " \"" ++ text ++ "\" " ++ v).toList =
      u.toList ++ ' ' :: (('"' :: (text.toList ++ ['"'])) ++ ' ' :: v.toList) := by
    simp
  rw [tokenize, hchars, Token.run_append_delimiter hu hblank,
    Token.run_append_delimiter hquoted.paired hblank, hquoted.reads]
  simp [tokenize]

/-- **Where queries come apart.** Behind a query whose quotes come in pairs, a blank separates,
a parenthesis is a token of its own, and a text in quotes between blanks is one literal. None
of these changes how the query before it and the query behind it are read. -/
theorem tokenize_append {u : String} (hu : Even (u.toList.count '"')) (v : String) :
    (∀ w : Char, isBlank w = true →
        tokenize (u ++ String.singleton w ++ v) = tokenize u ++ tokenize v) ∧
      tokenize (u ++ "(" ++ v) = tokenize u ++ [.openParen] ++ tokenize v ∧
      tokenize (u ++ ")" ++ v) = tokenize u ++ [.closeParen] ++ tokenize v ∧
      ∀ text : String, '"' ∉ text.toList →
        tokenize (u ++ " \"" ++ text ++ "\" " ++ v) =
          tokenize u ++ [.literal text] ++ tokenize v := by
  have hopen : delimiter? '(' = some [.openParen] := by decide
  have hclose : delimiter? ')' = some [.closeParen] := by decide
  refine ⟨?_, tokenize_append_delimiter hu hopen v, tokenize_append_delimiter hu hclose v, ?_⟩
  · intro w hw
    rw [tokenize_append_delimiter hu (Token.delimiter?_of_isBlank hw) v, List.append_nil]
  · intro text htext
    exact tokenize_append_quoted hu htext v

/-- A query that ends in an empty literal, a lone `&` and half a comparison symbol. -/
def brokenQuery : String := "a=\"b c\" || \"\"&<"

/-- A text of symbols. -/
def symbolsText : String := "x && (y<=1)"

theorem tokenize_append_broken :
    Even (brokenQuery.toList.count '"') ∧ isBlank '\t' = true ∧ '"' ∉ symbolsText.toList ∧
      tokenize (brokenQuery ++ String.singleton '\t' ++ "=1") =
        tokenize brokenQuery ++ tokenize "=1" ∧
      tokenize (brokenQuery ++ "(" ++ "=1") =
        tokenize brokenQuery ++ [.openParen] ++ tokenize "=1" ∧
      tokenize (brokenQuery ++ ")" ++ "=1") =
        tokenize brokenQuery ++ [.closeParen] ++ tokenize "=1" ∧
      tokenize (brokenQuery ++ " \"" ++ symbolsText ++ "\" " ++ "=1") =
        tokenize brokenQuery ++ [.literal symbolsText] ++ tokenize "=1" := by
  have hpaired : Even (brokenQuery.toList.count '"') := by decide +kernel
  have hblank : isBlank '\t' = true := by decide
  have hquoteless : '"' ∉ symbolsText.toList := by decide
  obtain ⟨hblanks, hopen, hclose, hquoted⟩ := tokenize_append hpaired "=1"
  exact ⟨hpaired, hblank, hquoteless, hblanks '\t' hblank, hopen, hclose,
    hquoted symbolsText hquoteless⟩

end FilterQuery
