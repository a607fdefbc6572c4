/-
# FilterQuery.Yaml.Glyph -- the characters of YAML text

Layout is part of YAML's grammar, so its text is read as glyphs: characters that
know their line and column. A line ends with a line feed, a carriage return, both,
or `U+0085`, all of which become a line feed, or with one of the separators `U+2028`
and `U+2029`, which stay what they are.
-/

namespace FilterQuery

namespace Yaml

/-- **A character and its place.** The offset counts the bytes before it in UTF-8, the
column the characters before it on its line. -/
structure Glyph where
  char : Char
  offset : Nat
  line : Nat
  column : Nat
  deriving Repr

/-- Whether YAML text may hold a character at all. -/
def isAllowed (c : Char) : Bool :=
  c == '\t' || c == '\n' || c == '\r' || (0x20 ≤ c.toNat && c.toNat ≤ 0x7E) || c.toNat == 0x85 ||
    (0xA0 ≤ c.toNat && c.toNat ≤ 0xD7FF) ||
    (0xE000 ≤ c.toNat && c.toNat ≤ 0xFFFD) || 0x10000 ≤ c.toNat

/-- Places characters from an offset, line and column on. -/
def placeFrom (offset line column : Nat) : List Char → List Glyph
  | [] => []
  | '\r' :: '\n' :: rest => ⟨'\n', offset, line, column⟩ :: placeFrom (offset + 2) (line + 1) 0 rest
  | c :: rest =>
    if c == '\n' || c == '\r' || c.toNat == 0x85 then
      ⟨'\n', offset, line, column⟩ :: placeFrom (offset + c.utf8Size) (line + 1) 0 rest
    else if c.toNat == 0x2028 || c.toNat == 0x2029 then
      ⟨c, offset, line, column⟩ :: placeFrom (offset + c.utf8Size) (line + 1) 0 rest
    else ⟨c, offset, line, column⟩ :: placeFrom (offset + c.utf8Size) line (column + 1) rest

/-- **The glyphs of a text**, if it holds none but allowed characters. -/
def glyphs? (text : String) : Option (List Glyph) :=
  if text.toList.all isAllowed then some (placeFrom 0 0 0 text.toList) else none

/-! ## Classes -/

namespace Glyph

/-- A space or a tab. -/
def isBlank (g : Glyph) : Bool := g.char == ' ' || g.char == '\t'

/-- The end of a line. -/
def isBreak (g : Glyph) : Bool :=
  g.char == '\n' || g.char.toNat == 0x2028 || g.char.toNat == 0x2029

/-- A byte order mark in front of a line. Anywhere else it is a character like others. -/
def isByteOrderMark (g : Glyph) : Bool := g.column == 0 && g.char.toNat == 0xFEFF

/-- A letter or digit of ASCII, an underscore or a hyphen. -/
def isWord (g : Glyph) : Bool := g.char.isAlphanum || g.char == '_' || g.char == '-'

/-- One of some characters. -/
def isOneOf (chars : String) (g : Glyph) : Bool := chars.toList.contains g.char

end Glyph

/-- Whether a blank, the end of a line or the end of the text comes next. -/
def atGap : List Glyph → Bool
  | [] => true
  | g :: _ => g.isBlank || g.isBreak

/-- Whether the end of a line or the end of the text comes next. -/
def atLineEnd : List Glyph → Bool
  | [] => true
  | g :: _ => g.isBreak

/-- Whether a character comes next. -/
def atChar (c : Char) : List Glyph → Bool
  | [] => false
  | g :: _ => g.char == c

/-- Whether a line begins that consists of a mark between documents: three hyphens
or three points, and nothing glued to them. -/
def atDocumentMark : List Glyph → Bool
  | a :: b :: c :: rest =>
    a.column == 0 && (a.char == '-' || a.char == '.') && b.char == a.char && c.char == a.char &&
      atGap rest
  | _ => false

/-- Passes blanks. -/
def skipBlanks (text : List Glyph) : List Glyph := text.dropWhile Glyph.isBlank

/-- Passes what is left of a line. -/
def skipLine (text : List Glyph) : List Glyph := text.dropWhile fun g => !g.isBreak

/-- Passes blanks, a comment and the end of the line; nothing else may be there. -/
def endLine? (text : List Glyph) : Option (List Glyph) :=
  let rest := skipBlanks text
  let rest := if atChar '#' rest then skipLine rest else rest
  match rest with
  | [] => some []
  | g :: rest => if g.isBreak then some rest else none

end Yaml

end FilterQuery
