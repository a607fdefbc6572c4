/-
# FilterQuery.Yaml.Token -- the tokens of YAML text

Indentation and one-line keys have no marks of their own in the text, so the tokens
for them are found while it is read:

* a column that is deeper than the innermost block collection begins a collection,
  and one that is less deep ends those it leaves;
* whatever may turn out to be a key is remembered, one candidate for each open
  bracket, and a later colon puts the tokens for the key in front of it. A candidate
  is dropped at the end of its line or after 1024 bytes. Where a block mapping
  expects a key, dropping its candidate is an error.
-/
import FilterQuery.Yaml.Scalar

namespace FilterQuery

namespace Yaml

/-- **A token** of YAML text. Of a tag only its handle is kept. -/
inductive Token where
  | version (major minor : Nat)
  | tagHandle (handle : String)
  | documentStart
  | documentEnd
  | blockSequence
  | blockMapping
  | blockEnd
  | flowSequence
  | flowSequenceEnd
  | flowMapping
  | flowMappingEnd
  | entry
  | comma
  | key
  | value
  | anchor (name : String)
  | alias (name : String)
  | tag (handle : String)
  | scalar (text : String) (plain : Bool)
  deriving DecidableEq, Repr

/-! ## The state of reading -/

/-- **A key candidate**: the number of the token it begins with, its place, and
whether a key has to be there. -/
structure KeyCandidate where
  number : Nat
  place : Glyph
  needed : Bool

/-- Whether a candidate is too far back to be a key of what stands at a place. -/
def KeyCandidate.isStale (here : Glyph) (candidate : KeyCandidate) : Bool :=
  candidate.place.line < here.line || candidate.place.offset + 1024 < here.offset

/-- **The state of reading**: the indentations of the open block collections,
innermost first; a candidate for the block context and for each open bracket,
innermost first; whether a key may begin here; and the tokens so far. -/
structure Reader where
  indents : List Int
  candidates : List (Option KeyCandidate)
  keyAllowed : Bool
  tokens : Array Token

namespace Reader

/-- Reading before the first glyph. -/
def start : Reader := ⟨[], [none], true, #[]⟩

/-- The indentation of the innermost block collection, or -1 outside of all. -/
def indent (r : Reader) : Int := r.indents.head?.getD (-1)

/-- Whether a bracket is open. -/
def inFlow (r : Reader) : Bool := 1 < r.candidates.length

/-- Adds a token. -/
def emit (token : Token) (r : Reader) : Reader := { r with tokens := r.tokens.push token }

/-- Says whether a key may begin at the next token. -/
def allowKey (allowed : Bool) (r : Reader) : Reader := { r with keyAllowed := allowed }

/-- Puts tokens in front of the token of some number. -/
def insertAt (number : Nat) (tokens : List Token) (r : Reader) : Reader :=
  { r with tokens := r.tokens.take number ++ tokens.toArray ++ r.tokens.drop number }

/-! ## Indentation -/

/-- Ends the block collections that are indented deeper than a column. -/
def closeDeeper (column : Int) (r : Reader) : Reader :=
  if r.inFlow then r
  else
    let (deeper, others) := r.indents.span (column < ·)
    { r with indents := others, tokens := r.tokens ++ Array.replicate deeper.length .blockEnd }

/-- Begins a block collection in front of the token of some number, if a column is
deeper than those that are open. -/
def openBlock (column : Int) (number : Nat) (token : Token) (r : Reader) : Reader :=
  if !r.inFlow && r.indent < column then
    { r.insertAt number [token] with indents := column :: r.indents }
  else r

/-! ## Key candidates -/

/-- Drops the innermost candidate, unless a key is needed there. -/
def dropCandidate (r : Reader) : Option Reader :=
  match r.candidates with
  | [] => some r
  | candidate :: outer =>
    if candidate.any (·.needed) then none else some { r with candidates := none :: outer }

/-- Remembers a candidate at the next token, where a key may begin. -/
def saveCandidate (g : Glyph) (r : Reader) : Option Reader :=
  if r.keyAllowed then do
    let r ← r.dropCandidate
    let needed := !r.inFlow && r.indent == g.column
    return { r with candidates := some ⟨r.tokens.size, g, needed⟩ :: r.candidates.tail }
  else some r

/-- Drops the candidates that are too far back, unless a key is needed there. -/
def dropStale (here : Glyph) (r : Reader) : Option Reader :=
  if r.candidates.any (·.any fun c => KeyCandidate.isStale here c && c.needed) then none
  else
    some { r with candidates := r.candidates.map (·.filter fun c => !KeyCandidate.isStale here c) }

/-! ## Marks -/

/-- Ends all block collections for a directive or a mark between documents. -/
def leaveDocument (r : Reader) : Option Reader :=
  ((r.closeDeeper (-1)).dropCandidate).map (allowKey false)

/-- Opens a bracket. -/
def openFlow (g : Glyph) (token : Token) (r : Reader) : Option Reader := do
  let r ← r.saveCandidate g
  return ({ r with candidates := none :: r.candidates }.allowKey true).emit token

/-- Closes a bracket. -/
def closeFlow (token : Token) (r : Reader) : Option Reader := do
  let r ← r.dropCandidate
  let candidates := if r.inFlow then r.candidates.tail else r.candidates
  return ({ r with candidates }.allowKey false).emit token

/-- Reads a comma. -/
def comma (r : Reader) : Option Reader := do
  return ((← r.dropCandidate).allowKey true).emit .comma

/-- Reads the hyphen of a sequence entry. -/
def entry (g : Glyph) (r : Reader) : Option Reader := do
  if !r.inFlow && !r.keyAllowed then none
  else
    let r := r.openBlock g.column r.tokens.size .blockSequence
    return ((← r.dropCandidate).allowKey true).emit .entry

/-- Reads the question mark of a key. -/
def questionMark (g : Glyph) (r : Reader) : Option Reader := do
  if !r.inFlow && !r.keyAllowed then none
  else
    let r := r.openBlock g.column r.tokens.size .blockMapping
    let r ← r.dropCandidate
    return (r.allowKey !r.inFlow).emit .key

/-- Reads the colon of a value. If there is a candidate, it was the key. -/
def colon (g : Glyph) (r : Reader) : Option Reader :=
  match r.candidates with
  | some candidate :: outer =>
    let r := { r with candidates := none :: outer }
    let r := r.insertAt candidate.number [.key]
    let r := r.openBlock candidate.place.column candidate.number .blockMapping
    some ((r.allowKey false).emit .value)
  | _ =>
    if !r.inFlow && !r.keyAllowed then none
    else
      let r := r.openBlock g.column r.tokens.size .blockMapping
      some ((r.allowKey !r.inFlow).emit .value)

end Reader

/-! ## Anchors and tags -/

/-- Splits off the letters, digits, underscores and hyphens in front. -/
def word (text : List Glyph) : String × List Glyph :=
  (String.ofList ((text.takeWhile Glyph.isWord).map Glyph.char), text.dropWhile Glyph.isWord)

/-- Reads the name of an anchor, and checks what follows it. -/
def anchorName? (text : List Glyph) : Option (String × List Glyph) :=
  let (name, rest) := word text
  if name = "" then none
  else if atGap rest || rest.head?.any (Glyph.isOneOf "?:,]\x7d%@\x60") then some (name, rest)
  else none

/-- Reads one octet that is written as a percent sign and two digits. -/
def octet? (g h : Glyph) : Option Nat := do
  return (← hexDigit? g.char) * 16 + (← hexDigit? h.char)

/-- How many octets follow the first octet of a character. -/
def octetsOwed? (octet : Nat) : Option Nat :=
  if octet < 0x80 then some 0
  else if 0xC0 ≤ octet && octet < 0xE0 then some 1
  else if 0xE0 ≤ octet && octet < 0xF0 then some 2
  else if 0xF0 ≤ octet && octet < 0xF8 then some 3
  else none

/-- Passes the characters of a tag, given how many octets of a character are still
owed, and says whether there were any. -/
def skipTag? (verbatim found : Bool) (owed : Nat) : List Glyph → Option (Bool × List Glyph)
  | [] => if owed = 0 then some (found, []) else none
  | g :: rest =>
    if g.char = '%' then
      match rest with
      | a :: b :: rest => do
        let octet ← octet? a b
        if owed = 0 then skipTag? verbatim true (← octetsOwed? octet) rest
        else if 0x80 ≤ octet && octet < 0xC0 then skipTag? verbatim true (owed - 1) rest
        else none
      | _ => none
    else if owed ≠ 0 then none
    else if g.isWord || g.isOneOf ";/?:@&=+$.!~*'()" || verbatim && g.isOneOf ",[]" then
      skipTag? verbatim true 0 rest
    else some (found, g :: rest)

/-- The handle at the start of a tag, behind its exclamation mark: a word and a second
exclamation mark, or a word that belongs to the rest of the tag. -/
def tagHandle (text : List Glyph) : String × Bool × List Glyph :=
  let (name, rest) := word text
  match rest with
  | g :: others =>
    if g.char = '!' then ("!" ++ name ++ "!", true, others) else ("!" ++ name, false, rest)
  | [] => ("!" ++ name, false, [])

/-- Reads a tag behind its exclamation mark and returns its handle, which is empty for
tags that need none. -/
def tag? (inFlow : Bool) (text : List Glyph) : Option (String × List Glyph) := do
  let (handle, rest) ←
    if atChar '<' text then do
      let (found, rest) ← skipTag? true false 0 text.tail
      if found && atChar '>' rest then some ("", rest.tail) else none
    else do
      let (handle, isHandle, rest) := tagHandle text
      let (found, rest) ← skipTag? false (!isHandle) 0 rest
      if !found then none
      else if isHandle then some (handle, rest)
      else some (if handle = "!" && rest.length = text.length then "" else "!", rest)
  if atGap rest || inFlow && atChar ',' rest then some (handle, rest) else none

/-! ## Directives -/

/-- Reads a number of up to nine digits. -/
def versionNumber? (text : List Glyph) : Option (Nat × List Glyph) :=
  let digits := text.takeWhile (·.char.isDigit)
  if digits.isEmpty || 9 < digits.length then none
  else some (Nat.ofDigitChars 10 (digits.map Glyph.char) 0, text.dropWhile (·.char.isDigit))

/-- Reads a directive behind its percent sign. -/
def directive? (text : List Glyph) : Option (Token × List Glyph) := do
  let (name, rest) := word text
  if !atGap rest then none
  else if name = "YAML" then
    let (major, rest) ← versionNumber? (skipBlanks rest)
    if !atChar '.' rest then none
    else
      let (minor, rest) ← versionNumber? rest.tail
      return (.version major minor, ← endLine? rest)
  else if name = "TAG" then
    let rest := skipBlanks rest
    if !atChar '!' rest then none
    else
      let (handle, isHandle, rest) := tagHandle rest.tail
      if !(isHandle || handle = "!") || atLineEnd rest || !atGap rest then none
      else
        let (found, rest) ← skipTag? true false 0 (skipBlanks rest)
        if !found || !atGap rest then none else return (.tagHandle handle, ← endLine? rest)
  else none

/-! ## Reading -/

namespace Reader

/-- Passes blanks, comments, ends of lines and a byte order mark in front of a line, which
takes up a column. Outside brackets, a tab is no blank where a key may begin. -/
def skipGaps (inComment : Bool) (r : Reader) : List Glyph → Reader × List Glyph
  | [] => (r, [])
  | g :: rest =>
    if g.isBreak then skipGaps false (if r.inFlow then r else r.allowKey true) rest
    else if inComment then skipGaps true r rest
    else if g.isByteOrderMark then skipGaps false r rest
    else if g.char == ' ' || g.char == '\t' && (r.inFlow || !r.keyAllowed) then
      skipGaps false r rest
    else if g.char == '#' then skipGaps true r rest
    else (r, g :: rest)

/-- Adds a scalar that may be a key. -/
def keyScalar (g : Glyph) (text : String) (plain keyAllowed : Bool) (r : Reader) :
    Option Reader :=
  (r.saveCandidate g).map fun r => (r.allowKey keyAllowed).emit (.scalar text plain)

/-- Adds an anchor, alias or tag, which may be the start of a key. -/
def keyStart (g : Glyph) (token : Token) (r : Reader) : Option Reader :=
  (r.saveCandidate g).map fun r => (r.allowKey false).emit token

/-- Whether a plain scalar may start with a glyph. -/
def startsPlain (r : Reader) (g : Glyph) (rest : List Glyph) : Bool :=
  !(g.isBlank || g.isBreak || g.isOneOf "-?:,[]\x7b\x7d#&*!|>'\"%@\x60") ||
    g.char == '-' && !rest.head?.any Glyph.isBlank ||
    !r.inFlow && (g.char == '?' || g.char == ':') && !atGap rest

/-- **Reads one token**, which begins with a glyph. -/
def step (r : Reader) (g : Glyph) (rest : List Glyph) : Option (Reader × List Glyph) := do
  let r := (← r.dropStale g).closeDeeper g.column
  let c := g.char
  if c = '%' ∧ g.column = 0 then
    let r ← r.leaveDocument
    let (token, rest) ← directive? rest
    return (r.emit token, rest)
  else if atDocumentMark (g :: rest) then
    let r ← r.leaveDocument
    return (r.emit (if c = '-' then .documentStart else .documentEnd), rest.drop 2)
  else if c = '[' then return (← r.openFlow g .flowSequence, rest)
  else if c = '\x7b' then return (← r.openFlow g .flowMapping, rest)
  else if c = ']' then return (← r.closeFlow .flowSequenceEnd, rest)
  else if c = '\x7d' then return (← r.closeFlow .flowMappingEnd, rest)
  else if c = ',' then return (← r.comma, rest)
  else if c = '-' ∧ atGap rest then return (← r.entry g, rest)
  else if c = '?' ∧ (r.inFlow ∨ atGap rest) then return (← r.questionMark g, rest)
  else if c = ':' ∧ (r.inFlow ∨ atGap rest) then return (← r.colon g, rest)
  else if c = '*' then
    let (name, rest) ← anchorName? rest
    return (← r.keyStart g (.alias name), rest)
  else if c = '&' then
    let (name, rest) ← anchorName? rest
    return (← r.keyStart g (.anchor name), rest)
  else if c = '!' then
    let (handle, rest) ← tag? r.inFlow rest
    return (← r.keyStart g (.tag handle), rest)
  else if (c = '|' ∨ c = '>') ∧ !r.inFlow then
    let r ← r.dropCandidate
    let (text, rest) ← readBlock (c = '>') r.indent rest
    return ((r.allowKey true).emit (.scalar text false), rest)
  else if c = '\'' then
    let (text, rest) ← scanSingleQuoted [] .none rest
    return (← r.keyScalar g text false false, rest)
  else if c = '"' then
    let (text, rest) ← scanDoubleQuoted [] .none .among rest
    return (← r.keyScalar g text false false, rest)
  else if r.startsPlain g rest then
    let scalar ← scanPlain r.inFlow (r.indent + 1) [] .none (g :: rest)
    return (← r.keyScalar g scalar.text true scalar.endedLine, scalar.rest)
  else none

/-- The tokens at the end of the text. A candidate that is still needed is an error. -/
def finish (r : Reader) : Option (List Token) :=
  if r.candidates.any (·.any KeyCandidate.needed) then none
  else some (r.closeDeeper (-1)).tokens.toList

/-- Reads tokens to the end. Each takes at least one glyph, so that as many steps as
there are glyphs are enough. -/
def run : Nat → Reader → List Glyph → Option (List Token)
  | 0, r, _ => r.finish
  | steps + 1, r, text =>
    match r.skipGaps false text with
    | (r, []) => r.finish
    | (r, g :: rest) =>
      match r.step g rest with
      | none => none
      | some (r, rest) => run steps r rest

end Reader

/-- **The tokens of a text**, if it has any sense as YAML. -/
def tokens? (text : String) : Option (List Token) := do
  let glyphs ← glyphs? text
  Reader.run (glyphs.length + 1) .start glyphs

end Yaml

end FilterQuery
