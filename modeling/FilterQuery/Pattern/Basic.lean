/-
# FilterQuery.Pattern.Basic -- patterns and what they match

A pattern is a regular expression. It matches a text if some part of the text is as the
pattern says; where a pattern may be read in two ways, either will do.

Matching follows the pattern. It starts from places in the text and asks which places the
pattern leads to, so that a sequence is one pattern after the other, and a repetition goes
on until it leads to no new place. A text of `n` characters has `n + 1` places, from before
its first character to behind its last.
-/

namespace FilterQuery

/-! ## Sets of characters -/

/-- **A set of characters.** -/
inductive CharSet where
  | ranges (bounds : List (Char × Char))
  | union (s t : CharSet)
  | inter (s t : CharSet)
  | diff (s t : CharSet)
  | symmDiff (s t : CharSet)
  | compl (s : CharSet)
  | anyCase (s : CharSet)
  deriving DecidableEq, Repr

namespace CharSet

/-- The set of one character. -/
def single (c : Char) : CharSet := .ranges [(c, c)]

/-- A letter of ASCII in its other case; any other character is as it is. -/
def otherCase (c : Char) : Char := if c.isLower then c.toUpper else c.toLower

/-- Whether a character is in a set. -/
def has (c : Char) : CharSet → Bool
  | .ranges bounds => bounds.any fun range => range.1 ≤ c && c ≤ range.2
  | .union s t => s.has c || t.has c
  | .inter s t => s.has c && t.has c
  | .diff s t => s.has c && !t.has c
  | .symmDiff s t => s.has c != t.has c
  | .compl s => !s.has c
  | .anyCase s => s.has c || s.has (otherCase c)

/-- Whether a set is known to hold characters of ASCII only. -/
def isAscii : CharSet → Bool
  | .ranges bounds => bounds.all fun range => range.2.toNat < 0x80
  | .union s t => s.isAscii && t.isAscii
  | .inter s t => s.isAscii || t.isAscii
  | .diff s _ => s.isAscii
  | .symmDiff s t => s.isAscii && t.isAscii
  | .compl _ => false
  | .anyCase s => s.isAscii

/-- The only character of a set, where it is written as such. -/
def single? : CharSet → Option Char
  | .ranges [(first, last)] => if first = last then some first else none
  | _ => none

/-- How many runs of neighbouring characters of ASCII a set has. -/
def asciiRuns (s : CharSet) : Nat :=
  let inSet := fun n => s.has (Char.ofNat n)
  (List.range 0x80).countP fun n => inSet n && (n == 0 || !inSet (n - 1))

end CharSet

/-! ## Anchors -/

/-- How a place lies to the words of a text. -/
inductive WordPlace where
  | edge
  | inner
  | start
  | finish
  | noWordBefore
  | noWordBehind
  deriving DecidableEq, Repr

/-- **What a place in a text may be asked to be.** Lines end with a line feed, and with
`returns` set also with a carriage return or both. Words consist of letters, digits and
underscores, of ASCII or of any script. -/
inductive Anchor where
  | textStart
  | textEnd
  | lineStart (returns : Bool)
  | lineEnd (returns : Bool)
  | word (place : WordPlace) (ascii : Bool)
  deriving DecidableEq, Repr

/-- Whether a character belongs to a word of ASCII. -/
def isWordChar (c : Char) : Bool := c.isAlphanum || c == '_'

/-- Whether the words before and behind a place are as asked. -/
def WordPlace.holds (before behind : Bool) : WordPlace → Bool
  | .edge => before != behind
  | .inner => before == behind
  | .start => !before && behind
  | .finish => before && !behind
  | .noWordBefore => !before
  | .noWordBehind => !behind

/-- Whether a place is as asked, which is known from the characters before and behind it.
No line ends between a carriage return and a line feed. -/
def Anchor.holds (before behind : Option Char) : Anchor → Bool
  | .textStart => before.isNone
  | .textEnd => behind.isNone
  | .lineStart false => before.isNone || before == some '\n'
  | .lineStart true =>
    before.isNone || before == some '\n' || (before == some '\r' && behind != some '\n')
  | .lineEnd false => behind.isNone || behind == some '\n'
  | .lineEnd true =>
    behind.isNone || behind == some '\r' || (behind == some '\n' && before != some '\r')
  | .word place _ => place.holds (before.any isWordChar) (behind.any isWordChar)

/-! ## Patterns -/

/-- **A pattern**: a regular expression. The bounds of a repetition say how often the
pattern comes at least and at most. -/
inductive Pattern where
  | empty
  | one (set : CharSet)
  | anchor (a : Anchor)
  | seq (p q : Pattern)
  | alt (p q : Pattern)
  | times (p : Pattern) (least : Nat) (most : Option Nat)
  | group (p : Pattern)
  deriving DecidableEq, Repr

namespace Pattern

/-- Whether a pattern takes up no character, whatever it matches. -/
def isWeightless : Pattern → Bool
  | .empty => true
  | .one _ => false
  | .anchor _ => true
  | .seq p q => p.isWeightless && q.isWeightless
  | .alt p q => p.isWeightless && q.isWeightless
  | .times p _ _ => p.isWeightless
  | .group p => p.isWeightless

/-- The repetition of a pattern. What takes up no character comes at most once, what never
comes or always comes once is no repetition, and what comes at will comes at will however
often it is repeated. -/
def repeated (p : Pattern) (least : Nat) (most : Option Nat) : Pattern :=
  let least' := if p.isWeightless then min least 1 else least
  let most' := if p.isWeightless then some (min (most.getD 1) 1) else most
  if most' = some 0 then .empty
  else if least' = 1 ∧ most' = some 1 then p
  else
    match p with
    | .times _ 0 none => p
    | .times q 1 none =>
      if least' ≤ 1 ∧ most' = none then .times q least' none else .times p least' most'
    | _ => .times p least' most'

/-! ## Places -/

/-- **Places in a text**, marked from before its first character to behind its last. -/
abbrev Marks := List Bool

/-- The places that are marked here or there. -/
def Marks.join (m n : Marks) : Marks := List.zipWith (· || ·) m n

/-- The places behind one character of a set. -/
def Marks.pass (text : List Char) (set : CharSet) (m : Marks) : Marks :=
  false :: List.zipWith (fun marked c => marked && set.has c) m text

/-- The places that are as asked. -/
def Marks.keep (text : List Char) (a : Anchor) (m : Marks) : Marks :=
  let places := List.zip (none :: text.map some) (text.map some ++ [none])
  List.zipWith (fun marked place => marked && a.holds place.1 place.2) m places

/-- The places to which a step leads when it is taken so many times. -/
def Marks.repeatStep (step : Marks → Marks) : Nat → Marks → Marks
  | 0, m => m
  | n + 1, m =>
    let next := step m
    if next = m then m else repeatStep step n next

/-- The places to which a step leads when it is taken so many times at most. -/
def Marks.spread (step : Marks → Marks) : Nat → Marks → Marks
  | 0, m => m
  | n + 1, m =>
    let next := m.join (step m)
    if next = m then m else spread step n next

/-! ## Matching -/

/-- **The places to which a pattern leads** from the places that are marked. It never
leads back, so that a repetition leads nowhere new once there were more of it than places. -/
def reach (text : List Char) : Pattern → Marks → Marks
  | .empty, m => m
  | .one set, m => m.pass text set
  | .anchor a, m => m.keep text a
  | .seq p q, m => q.reach text (p.reach text m)
  | .alt p q, m => (p.reach text m).join (q.reach text m)
  | .times p least most, m =>
    let places := text.length + 1
    let required := Marks.repeatStep (p.reach text) (min least places) m
    Marks.spread (p.reach text) (min ((most.map (· - least)).getD places) places) required
  | .group p, m => p.reach text m

/-- **Whether a pattern matches some part of a text.** -/
def isIn (p : Pattern) (text : String) : Bool :=
  (p.reach text.toList (List.replicate (text.toList.length + 1) true)).any id

/-! ## Patterns that are of no use -/

/-- Whether a pattern asks for words of any script. -/
def needsScripts : Pattern → Bool
  | .anchor (.word _ ascii) => !ascii
  | .seq p q => p.needsScripts || q.needsScripts
  | .alt p q => p.needsScripts || q.needsScripts
  | .times p _ _ => p.needsScripts
  | .group p => p.needsScripts
  | _ => false

/-- How many bytes a set takes up in an automaton over the bytes of UTF-8, which reads them
forward or backward. A state takes 32 bytes, a further way out of it 4 or 8. A character has a
state for each of its bytes, a set of ASCII has two; what is beyond ASCII is reckoned like
the set of all characters but one. -/
def setBytes (backward : Bool) (set : CharSet) : Nat :=
  match set.single? with
  | some c => 32 * c.utf8Size
  | none => if set.isAscii then 64 + 8 * set.asciiRuns else if backward then 1000 else 424

/-- How many bytes a pattern takes up in such an automaton, its repetitions written out. Only
one that reads forward marks the ends of groups. -/
def bytes (backward : Bool) : Pattern → Nat
  | .empty => 0
  | .one set => setBytes backward set
  | .anchor _ => 32
  | .seq p q => p.bytes backward + q.bytes backward
  | .alt p q => p.bytes backward + q.bytes backward + 72
  | .times p least none => max least 1 * p.bytes backward + 40
  | .times p least (some most) =>
    if least = most then least * p.bytes backward
    else least * p.bytes backward + (most - least) * (p.bytes backward + 40) + 32
  | .group p => p.bytes backward + if backward then 0 else 64

/-- How many bytes an automaton may take up. -/
def byteLimit : Nat := 10485760

/-- **Whether a pattern is of use**: it asks for words of ASCII only, and is not too large. -/
def isUsable (p : Pattern) : Bool :=
  !p.needsScripts && p.bytes false ≤ byteLimit && p.bytes true ≤ byteLimit

end Pattern

end FilterQuery
