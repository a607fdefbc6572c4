/-
# FilterQuery.Yaml.Scalar -- scalars and their text

A scalar is written plainly, in single or double quotes, or as a block of lines
that is literal or folded. Each reader takes the glyphs behind the scalar's start
and returns the text the scalar stands for and the glyphs behind its end.

Where a plain or quoted scalar runs over several lines, the blanks around a line
end go; a single line end becomes a space, and of more than one all but the first
stay.
-/
import FilterQuery.Text.Hexadecimal
import FilterQuery.Yaml.Glyph

namespace FilterQuery

namespace Yaml

/-! ## Gaps inside scalars -/

/-- **What has been passed since the last character of a scalar**, newest first:
blanks on a line, or the ends of lines. The first line end is missing where a
backslash has taken it away. -/
inductive Gap where
  | blanks (chars : List Char)
  | lines (first : Option Char) (others : List Char)

namespace Gap

/-- No gap. -/
def none : Gap := .blanks []

/-- Whether something has been passed. -/
def isOpen : Gap → Bool
  | .blanks chars => !chars.isEmpty
  | .lines _ _ => true

/-- Whether a line has ended. -/
def hasLines : Gap → Bool
  | .blanks _ => false
  | .lines _ _ => true

/-- Passes a blank or the end of a line. Blanks next to a line end do not count. -/
def pass (g : Glyph) : Gap → Gap
  | .blanks chars => if g.isBreak then .lines (some g.char) [] else .blanks (g.char :: chars)
  | .lines first others =>
    if g.isBreak then .lines first (g.char :: others) else .lines first others

/-- Adds what a gap stands for to the text before it, newest first. -/
def join (text : List Char) : Gap → List Char
  | .blanks chars => chars ++ text
  | .lines .none others => others ++ text
  | .lines (some first) others =>
    if first = '\n' then if others.isEmpty then ' ' :: text else others ++ text
    else others ++ first :: text

end Gap

/-! ## Plain scalars -/

/-- **A plain scalar**: its text, whether a line has ended behind its last
character, and the glyphs behind it. -/
structure PlainScalar where
  text : String
  endedLine : Bool
  rest : List Glyph

/-- Reads a plain scalar on from a gap. It ends before a colon that a gap follows,
before a comment, before a mark between documents, inside brackets before commas and
brackets, and outside of them before a line that is not indented enough. -/
def scanPlain (inFlow : Bool) (indent : Int) (text : List Char) (gap : Gap) :
    List Glyph → Option PlainScalar
  | [] => some ⟨String.ofList text.reverse, gap.hasLines, []⟩
  | g :: rest =>
    let stop : PlainScalar := ⟨String.ofList text.reverse, gap.hasLines, g :: rest⟩
    if g.isBlank || g.isBreak then
      if gap.hasLines && g.char == '\t' && g.column < indent then .none
      else scanPlain inFlow indent text (gap.pass g) rest
    else if gap.isOpen &&
        (!inFlow && g.column < indent || atDocumentMark (g :: rest) || g.char == '#') then
      some stop
    else if inFlow && g.char == ':' && rest.head?.any (Glyph.isOneOf ",?[]\x7b\x7d") then .none
    else if g.char == ':' && atGap rest || inFlow && g.isOneOf ",[]\x7b\x7d" then some stop
    else scanPlain inFlow indent (g.char :: gap.join text) .none rest

/-! ## Quoted scalars -/

/-- Reads a single-quoted scalar behind its opening quote. Two quotes stand for one. -/
def scanSingleQuoted (text : List Char) (gap : Gap) : List Glyph → Option (String × List Glyph)
  | [] => .none
  | g :: rest =>
    if g.isBlank || g.isBreak then scanSingleQuoted text (gap.pass g) rest
    else if gap.isOpen && atDocumentMark (g :: rest) then .none
    else if g.char = '\'' then
      match rest with
      | h :: others =>
        if h.char = '\'' then scanSingleQuoted ('\'' :: gap.join text) .none others
        else some (String.ofList (gap.join text).reverse, rest)
      | [] => some (String.ofList (gap.join text).reverse, [])
    else scanSingleQuoted (g.char :: gap.join text) .none rest

/-- What a character behind a backslash stands for. -/
def unescape? (c : Char) : Option Char :=
  match c with
  | '0' => some '\x00'
  | 'a' => some '\x07'
  | 'b' => some '\x08'
  | 't' | '\t' => some '\t'
  | 'n' => some '\n'
  | 'v' => some '\x0B'
  | 'f' => some '\x0C'
  | 'r' => some '\r'
  | 'e' => some '\x1B'
  | ' ' => some ' '
  | '"' => some '"'
  | '/' => some '/'
  | '\\' => some '\\'
  | 'N' => some (Char.ofNat 0x85)
  | '_' => some (Char.ofNat 0xA0)
  | 'L' => some (Char.ofNat 0x2028)
  | 'P' => some (Char.ofNat 0x2029)
  | _ => .none

/-- How many hexadecimal digits follow an escape that takes some. -/
def codeLength? (c : Char) : Option Nat :=
  match c with
  | 'x' => some 2
  | 'u' => some 4
  | 'U' => some 8
  | _ => .none

/-- Where a double-quoted scalar is being read: among its characters, behind a
backslash, or among the digits of a code, with how many are missing and the value
so far. -/
inductive QuotedPlace where
  | among
  | escape
  | code (missing value : Nat)

/-- Reads a double-quoted scalar behind its opening quote. -/
def scanDoubleQuoted (text : List Char) (gap : Gap) (place : QuotedPlace) :
    List Glyph → Option (String × List Glyph)
  | [] => .none
  | g :: rest =>
    match place with
    | .among =>
      if g.isBlank || g.isBreak then scanDoubleQuoted text (gap.pass g) .among rest
      else if gap.isOpen && atDocumentMark (g :: rest) then .none
      else if g.char = '"' then some (String.ofList (gap.join text).reverse, rest)
      else if g.char = '\\' then scanDoubleQuoted (gap.join text) .none .escape rest
      else scanDoubleQuoted (g.char :: gap.join text) .none .among rest
    | .escape =>
      if g.isBreak then scanDoubleQuoted text (.lines .none []) .among rest
      else
        match codeLength? g.char, unescape? g.char with
        | some length, _ => scanDoubleQuoted text .none (.code length 0) rest
        | .none, some c => scanDoubleQuoted (c :: text) .none .among rest
        | .none, .none => .none
    | .code missing value =>
      match hexDigit? g.char with
      | .none => .none
      | some digit =>
        if missing ≤ 1 then
          match charOfCode? (value * 16 + digit) with
          | .none => .none
          | some c => scanDoubleQuoted (c :: text) .none .among rest
        else scanDoubleQuoted text .none (.code (missing - 1) (value * 16 + digit)) rest

/-! ## Block scalars -/

/-- What becomes of the line ends at the end of a block: all go, the first stays, or
all stay. -/
inductive Chomping where
  | strip
  | clip
  | keep

/-- The chomping an indicator asks for. -/
def chomping? (g : Glyph) : Option Chomping :=
  if g.char = '+' then some .keep else if g.char = '-' then some .strip else .none

/-- The indentation a digit asks for; it may not be zero. -/
def increment? (g : Glyph) : Option Nat :=
  if g.char.isDigit && g.char != '0' then some (g.char.toNat - 48) else .none

/-- Reads the indicators behind the start of a block: how it is chomped, and by how
much it is indented, if that is said. -/
def blockHeader? : List Glyph → Option (Chomping × Option Nat × List Glyph)
  | [] => some (.clip, .none, [])
  | g :: rest =>
    match chomping? g with
    | some chomping =>
      match rest with
      | h :: others =>
        if h.char.isDigit then (increment? h).map fun n => (chomping, some n, others)
        else some (chomping, .none, rest)
      | [] => some (chomping, .none, [])
    | .none =>
      if g.char.isDigit then
        (increment? g).map fun n =>
          match rest with
          | h :: others =>
            match chomping? h with
            | some chomping => (chomping, some n, others)
            | .none => (.clip, some n, rest)
          | [] => (.clip, some n, [])
      else some (.clip, .none, g :: rest)

/-- **A block under way**: its text, newest first; the end of its last line; the ends
of the empty lines behind that; and whether its last line began with a blank. -/
structure Block where
  text : List Char
  lineEnd : Option Char
  emptyLines : List Char
  indented : Bool

namespace Block

/-- A block before its first line. -/
def start : Block := ⟨[], none, [], false⟩

/-- Begins a line with its first character. In a folded block the line end before it
becomes a space, or goes if empty lines follow it, unless one of the two lines begins
with a blank. -/
def beginLine (folded : Bool) (g : Glyph) (b : Block) : Block :=
  let joined :=
    if folded && b.lineEnd == some '\n' && !b.indented && !g.isBlank then
      if b.emptyLines.isEmpty then ' ' :: b.text else b.emptyLines ++ b.text
    else b.emptyLines ++ (b.lineEnd.toList ++ b.text)
  ⟨g.char :: joined, none, [], g.isBlank⟩

/-- The text of a block that ends here. -/
def finish (chomping : Chomping) (b : Block) : String :=
  let text :=
    match chomping with
    | .strip => b.text
    | .clip => b.lineEnd.toList ++ b.text
    | .keep => b.emptyLines ++ (b.lineEnd.toList ++ b.text)
  String.ofList text.reverse

end Block

/-- How a block is written: folded or literal, how it is chomped, and the least
indentation that its first line that is not empty may set. -/
structure BlockStyle where
  folded : Bool
  chomping : Chomping
  least : Nat

/-- Reads the lines of a block. `indent` is its indentation once that is known,
`widest` the widest empty line before, and `inLine` whether a line has begun. -/
def scanBlock (style : BlockStyle) (indent : Option Nat) (widest : Nat) (inLine : Bool)
    (b : Block) : List Glyph → Option (String × List Glyph)
  | [] => some (b.finish style.chomping, [])
  | g :: rest =>
    if inLine then
      if g.isBreak then
        scanBlock style indent widest false { b with lineEnd := some g.char } rest
      else scanBlock style indent widest true { b with text := g.char :: b.text } rest
    else
      let short := indent.all (g.column < ·)
      if short && g.char == ' ' then scanBlock style indent widest false b rest
      else if short && g.char == '\t' then none
      else
        let widest := max widest g.column
        if g.isBreak then
          scanBlock style indent widest false { b with emptyLines := g.char :: b.emptyLines } rest
        else
          let indent := indent.getD (max widest style.least)
          if g.column = indent then
            scanBlock style (some indent) widest true (b.beginLine style.folded g) rest
          else some (b.finish style.chomping, g :: rest)

/-- **A block scalar** behind its start, inside a collection of some indentation. -/
def readBlock (folded : Bool) (indent : Int) (text : List Glyph) :
    Option (String × List Glyph) := do
  let (chomping, increment, rest) ← blockHeader? text
  let rest ← endLine? rest
  let style : BlockStyle := ⟨folded, chomping, max (indent + 1).toNat 1⟩
  scanBlock style (increment.map fun n => indent.toNat + n) 0 false .start rest

end Yaml

end FilterQuery
