/-
# FilterQuery.Pattern.Read -- from the text of a pattern to the pattern

A pattern is written in the usual syntax of regular expressions: `.` and sets in
brackets, groups, `|`, the repetitions `*`, `+`, `?` and `{m,n}`, `^` and `$`, escapes,
and modes such as `(?s)`. Sets may hold sets, and `&&`, `--` and `~~` between them stand
for intersection, difference and symmetric difference.

Letter case and the classes `\d`, `\s` and `\w` are known for ASCII only, so a pattern
that uses them has to turn the mode `u` off, which stands for all scripts. Without it, in
turn, there is nothing that could match characters beyond ASCII but those that are
written out. Words of any script are refused in the end, unless they never come.

A text that is no pattern is refused as a whole, whatever is wrong with it.
-/
import FilterQuery.Pattern.Basic
import FilterQuery.Text.Alphanumeric
import FilterQuery.Text.Blank
import FilterQuery.Text.Hexadecimal

namespace FilterQuery

namespace Pattern

/-! ## Modes -/

/-- **The modes of a pattern**: letters match in either case; `^` and `$` match at every
line; the dot matches line ends, too; all scripts are meant; carriage returns end lines;
blanks and remarks may stand between the parts of the pattern. -/
structure Modes where
  anyCase : Bool
  lines : Bool
  dotAll : Bool
  scripts : Bool
  returns : Bool
  spaced : Bool

namespace Modes

/-- The modes in which a pattern begins. -/
def initial : Modes := ⟨false, false, false, true, false, false⟩

/-- Turns a mode on or off. The order in which repetitions are tried makes no difference
to whether a pattern matches. -/
def set? (m : Modes) (letter : Char) (on : Bool) : Option Modes :=
  match letter with
  | 'i' => some { m with anyCase := on }
  | 'm' => some { m with lines := on }
  | 's' => some { m with dotAll := on }
  | 'u' => some { m with scripts := on }
  | 'R' => some { m with returns := on }
  | 'x' => some { m with spaced := on }
  | 'U' => some m
  | _ => none

/-- Passes over blanks and over remarks, which go from `#` to the end of a line. -/
def skip (inRemark : Bool) : List Char → List Char
  | [] => []
  | c :: rest =>
    if inRemark then skip (c != '\n') rest
    else if isBlank c then skip false rest
    else if c = '#' then skip true rest
    else c :: rest

/-- Passes over what may stand between the parts of a pattern. -/
def pass (m : Modes) (chars : List Char) : List Char := if m.spaced then skip false chars else chars

/-- Takes up to so many characters of a class, passing over what may stand behind each. -/
def takeUpTo (m : Modes) (inClass : Char → Bool) : Nat → List Char → List Char × List Char
  | n + 1, c :: rest =>
    if inClass c then
      let (taken, rest) := m.takeUpTo inClass n (m.pass rest)
      (c :: taken, rest)
    else ([], c :: rest)
  | _, rest => ([], rest)

/-- Takes all characters of a class that come next. -/
def takeAll (m : Modes) (inClass : Char → Bool) (chars : List Char) : List Char × List Char :=
  m.takeUpTo inClass chars.length chars

/-- A set as it is under the modes. -/
def inCase? (m : Modes) (set : CharSet) : Option CharSet :=
  if m.anyCase then if m.scripts then none else some set.anyCase else some set

/-- All but the characters of a set. -/
def but? (m : Modes) (set : CharSet) : Option CharSet := if m.scripts then some set.compl else none

/-- What a dot matches. -/
def dot? (m : Modes) : Option CharSet :=
  if m.dotAll then m.but? (.ranges [])
  else if m.returns then m.but? (.ranges [('\n', '\n'), ('\r', '\r')])
  else m.but? (.single '\n')

end Modes

/-! ## Numbers -/

/-- Reads a decimal number, which may stand between blanks, up to the largest of 32 bits. -/
def readDecimal? (m : Modes) (chars : List Char) : Option (Nat × List Char) :=
  let (digits, rest) := m.takeAll Char.isDigit (chars.dropWhile isBlank)
  let n := Nat.ofDigitChars 10 digits 0
  if digits = [] ∨ 4294967295 < n then none else some (n, rest.dropWhile isBlank)

/-- Reads the bounds of a repetition, behind the opening brace. -/
def readBounds? (m : Modes) (chars : List Char) : Option (Nat × Option Nat × List Char) := do
  let (least, rest) ← readDecimal? m (m.pass chars)
  match rest with
  | '\x7d' :: rest => return (least, some least, rest)
  | ',' :: rest =>
    match m.pass rest with
    | '\x7d' :: rest => return (least, none, rest)
    | rest =>
      let (most, rest) ← readDecimal? m rest
      match rest with
      | '\x7d' :: rest => if least ≤ most then return (least, some most, rest) else none
      | _ => none
  | _ => none

/-! ## Escapes -/

/-- **What a pattern consists of** outside groups and repetitions. -/
inductive Item where
  | char (c : Char)
  | set (s : CharSet)
  | anchor (a : Anchor)

/-- The character of some hexadecimal digits. -/
def hexChar? (digits : List Char) : Option Char := do
  let values ← digits.mapM hexDigit?
  if values = [] then none else charOfCode? (values.foldl (16 * · + ·) 0)

/-- Reads a code point in hexadecimal: so many digits, or any number of them in braces.
Two digits beyond ASCII stand for a byte, which is no character outside the mode `u`. -/
def readHex? (m : Modes) (length : Nat) (chars : List Char) : Option (Char × List Char) :=
  let isHex := fun c => (hexDigit? c).isSome
  match m.pass chars with
  | '\x7b' :: rest =>
    let (digits, rest) := m.takeAll isHex (m.pass rest)
    match rest with
    | '\x7d' :: rest => (hexChar? digits).map ((·, m.pass rest))
    | _ => none
  | rest => do
    let (digits, rest) := m.takeUpTo isHex length rest
    let c ← hexChar? digits
    if digits.length < length ∨ (length = 2 ∧ ¬ m.scripts ∧ 0x80 ≤ c.toNat) then none
    else return (c, rest)

/-- The decimal digits. -/
def digits : CharSet := .ranges [('0', '9')]

/-- The blank characters of ASCII. -/
def blanks : CharSet := .ranges [('\t', '\r'), (' ', ' ')]

/-- The characters of words. -/
def wordChars : CharSet := .ranges [('0', '9'), ('A', 'Z'), ('_', '_'), ('a', 'z')]

/-- The class that a letter stands for, and all but that class where the letter is a
capital. -/
def readClassLetter? (m : Modes) (letter : Char) : Option CharSet :=
  if m.scripts then none
  else
    match letter with
    | 'd' => some digits
    | 's' => some blanks
    | 'w' => some wordChars
    | _ => none

/-- The letters that stand for control characters. -/
def controlChar? (letter : Char) : Option Char :=
  match letter with
  | 'a' => some '\x07'
  | 'f' => some '\x0c'
  | 't' => some '\t'
  | 'n' => some '\n'
  | 'r' => some '\r'
  | 'v' => some '\x0b'
  | _ => none

/-- The places that have a name in braces behind `\b`. -/
def wordPlace? (name : List Char) : Option WordPlace :=
  if name = "start".toList then some .start
  else if name = "end".toList then some .finish
  else if name = "start-half".toList then some .noWordBefore
  else if name = "end-half".toList then some .noWordBehind
  else none

/-- Reads what follows `\b`: perhaps a name in braces. Braces that do not begin with the
character of a name are left to be read as a repetition. -/
def readWordPlace? (m : Modes) (chars : List Char) : Option (WordPlace × List Char) :=
  let inName := fun c : Char => c.isAlpha || c == '-'
  match chars with
  | '\x7b' :: rest =>
    match m.takeAll inName (m.pass rest) with
    | ([], []) => none
    | ([], _) => some (.edge, chars)
    | (name, '\x7d' :: rest) => (wordPlace? name).map ((·, rest))
    | _ => none
  | _ => some (.edge, chars)

/-- Reads an escape, behind the backslash. Signs of ASCII stand for themselves. -/
def readEscape? (m : Modes) : List Char → Option (Item × List Char)
  | [] => none
  | c :: rest =>
    let word := fun place : WordPlace => Item.anchor (.word place (!m.scripts))
    match c with
    | 'x' => (readHex? m 2 rest).map fun (c, rest) => (.char c, rest)
    | 'u' => (readHex? m 4 rest).map fun (c, rest) => (.char c, rest)
    | 'U' => (readHex? m 8 rest).map fun (c, rest) => (.char c, rest)
    | 'A' => some (.anchor .textStart, rest)
    | 'z' => some (.anchor .textEnd, rest)
    | 'b' => (readWordPlace? m rest).map fun (place, rest) => (word place, rest)
    | 'B' => some (word .inner, rest)
    | '<' => some (word .start, rest)
    | '>' => some (word .finish, rest)
    | c =>
      if c.isAlphanum then
        match controlChar? c with
        | some control => some (.char control, rest)
        | none => (readClassLetter? m c).map fun set => (.set set, rest)
      else if c.toNat < 0x80 then some (.char c, rest)
      else none

/-! ## Sets in brackets -/

/-- What may stand between sets. -/
inductive SetOp where
  | inter
  | diff
  | symmDiff

/-- Joins two sets. -/
def SetOp.apply : SetOp → CharSet → CharSet → CharSet
  | .inter => .inter
  | .diff => .diff
  | .symmDiff => .symmDiff

/-- **A set under way**: what stands before the last operator, and the sets read behind
it, newest first. Sets come with the depth to which they are nested. -/
structure SetLevel where
  left : Option (SetOp × CharSet × Nat)
  sets : List (CharSet × Nat)

namespace SetLevel

/-- The union of the sets behind the last operator. -/
def union (level : SetLevel) : CharSet × Nat :=
  match level.sets with
  | [] => (.ranges [], 0)
  | [set] => set
  | sets =>
    ((sets.map Prod.fst).foldl (fun s t => .union t s) (.ranges []),
      1 + (sets.map Prod.snd).foldl max 0)

/-- The set of all that was read. -/
def close (level : SetLevel) : CharSet × Nat :=
  match level.left with
  | none => level.union
  | some (op, set, depth) => (op.apply set level.union.1, 1 + max depth level.union.2)

/-- Adds a set. -/
def add (level : SetLevel) (set : CharSet) (depth : Nat) : SetLevel :=
  { level with sets := (set, depth) :: level.sets }

/-- Goes on behind an operator. -/
def operate (level : SetLevel) (op : SetOp) : SetLevel :=
  ⟨some (op, level.close), []⟩

end SetLevel

/-- The classes that have names. -/
def namedClass? (name : List Char) : Option CharSet :=
  (([("alnum", [('0', '9'), ('A', 'Z'), ('a', 'z')]), ("alpha", [('A', 'Z'), ('a', 'z')]),
      ("ascii", [('\x00', '\x7f')]), ("blank", [('\t', '\t'), (' ', ' ')]),
      ("cntrl", [('\x00', '\x1f'), ('\x7f', '\x7f')]), ("digit", [('0', '9')]),
      ("graph", [('!', '~')]), ("lower", [('a', 'z')]), ("print", [(' ', '~')]),
      ("punct", [('!', '/'), (':', '@'), ('[', '\x60'), ('\x7b', '~')]),
      ("space", [('\t', '\r'), (' ', ' ')]), ("upper", [('A', 'Z')]),
      ("word", [('0', '9'), ('A', 'Z'), ('_', '_'), ('a', 'z')]),
      ("xdigit", [('0', '9'), ('A', 'F'), ('a', 'f')])] :
    List (String × List (Char × Char))).lookup (String.ofList name)).map .ranges

/-- Reads a class by its name between colons, behind the opening bracket, and whether all
but the class is meant. -/
def readNamedClass? (chars : List Char) : Option (CharSet × Bool × List Char) :=
  match chars with
  | ':' :: rest =>
    let (negated, rest) :=
      match rest with
      | '^' :: rest => (true, rest)
      | rest => (false, rest)
    match rest.dropWhile (· != ':') with
    | ':' :: ']' :: behind =>
      (namedClass? (rest.takeWhile (· != ':'))).map ((·, negated, behind))
    | _ => none
  | _ => none

/-- Reads one item of a set. -/
def readSetItem? (m : Modes) : List Char → Option (Item × List Char)
  | [] => none
  | '\\' :: rest => readEscape? m rest
  | c :: rest => some (.char c, rest)

/-- The set of a range. Outside the mode `u` it is one of ASCII. -/
def range? (m : Modes) (first last : Char) : Option CharSet :=
  if first ≤ last ∧ (m.scripts ∨ last.toNat < 0x80) then m.inCase? (.ranges [(first, last)])
  else none

/-- The set of one item. -/
def itemSet? (m : Modes) : Item → Option CharSet
  | .char c => range? m c c
  | .set set => some set
  | .anchor _ => none

/-- Reads an item or a range of a set. A hyphen before the end of the set or before
another hyphen makes no range. -/
def readRange? (m : Modes) (chars : List Char) : Option (CharSet × List Char) := do
  let (item, rest) ← readSetItem? m chars
  match m.pass rest with
  | '-' :: behind =>
    let next := m.pass behind
    if next.head? = some ']' ∨ next.head? = some '-' then
      return (← itemSet? m item, '-' :: behind)
    else
      let (last, rest) ← readSetItem? m next
      match item, last with
      | .char first, .char last => return (← range? m first last, rest)
      | _, _ => none
  | rest => return (← itemSet? m item, rest)

/-- Reads the beginning of a set, behind the opening bracket: whether all but the set is
meant, and the hyphens or the closing bracket that stand for themselves there. -/
def readSetStart? (m : Modes) (chars : List Char) : Option (Bool × SetLevel × List Char) := do
  let (negated, rest) :=
    match m.pass chars with
    | '^' :: rest => (true, m.pass rest)
    | rest => (false, rest)
  let (hyphens, rest) := m.takeAll (· == '-') rest
  let (signs, rest) :=
    match hyphens, rest with
    | [], ']' :: rest => ([']'], m.pass rest)
    | hyphens, rest => (hyphens, rest)
  let sets ← signs.mapM fun c => range? m c c
  return (negated, ⟨none, sets.map (·, 0)⟩, rest)

mutual

/-- Reads a set, behind the opening bracket. -/
def readSet? (m : Modes) : Nat → List Char → Option (CharSet × Nat × List Char)
  | 0, _ => none
  | fuel + 1, chars => do
    let (negated, level, rest) ← readSetStart? m chars
    readSets? m negated fuel level rest

/-- Reads the rest of a set and its closing bracket. -/
def readSets? (m : Modes) (negated : Bool) :
    Nat → SetLevel → List Char → Option (CharSet × Nat × List Char)
  | 0, _, _ => none
  | fuel + 1, level, chars =>
    match m.pass chars with
    | [] => none
    | ']' :: rest =>
      let (set, depth) := level.close
      if negated then (m.but? set).map ((·, depth, rest)) else some (set, depth, rest)
    | '&' :: '&' :: rest => readSets? m negated fuel (level.operate .inter) rest
    | '-' :: '-' :: rest => readSets? m negated fuel (level.operate .diff) rest
    | '~' :: '~' :: rest => readSets? m negated fuel (level.operate .symmDiff) rest
    | '[' :: rest =>
      match readNamedClass? rest with
      | some (named, allBut, rest) => do
        let set ← m.inCase? named
        let set ← if allBut then m.but? set else some set
        readSets? m negated fuel (level.add set 0) rest
      | none => do
        let (set, depth, rest) ← readSet? m fuel rest
        readSets? m negated fuel (level.add set (depth + 1)) rest
    | rest => do
      let (set, rest) ← readRange? m rest
      readSets? m negated fuel (level.add set 0) rest

end

/-! ## Groups -/

/-- **A part of a pattern** and the depth to which it is nested. A change of modes counts
as a part that matches the empty text and cannot be repeated. -/
structure Part where
  pattern : Pattern
  depth : Nat
  isMode : Bool

/-- Joins parts, newest first, into one. -/
def Part.join (op : Pattern → Pattern → Pattern) : List Part → Part
  | [] => ⟨.empty, 0, false⟩
  | [part] => part
  | last :: parts =>
    ⟨parts.foldl (fun p part => op part.pattern p) last.pattern,
      1 + ((last :: parts).map Part.depth).foldl max 0, false⟩

/-- **A group under way**: the alternatives that are complete and the parts of the one
that is not, newest first. -/
structure Level where
  branches : List Part
  parts : List Part

namespace Level

/-- A group before its first part. -/
def start : Level := ⟨[], []⟩

/-- Goes on with another alternative. -/
def branch (level : Level) : Level := ⟨Part.join .seq level.parts :: level.branches, []⟩

/-- What the group matches. -/
def close (level : Level) : Part := Part.join .alt level.branch.branches

/-- Adds a part. -/
def add (level : Level) (part : Part) : Level := { level with parts := part :: level.parts }

/-- Repeats the last part. -/
def repeatLast? (level : Level) (least : Nat) (most : Option Nat) : Option Level :=
  match level.parts with
  | [] => none
  | part :: parts =>
    if part.isMode then none
    else
      let pattern := part.pattern.repeated least most
      some { level with parts := ⟨pattern, part.depth + 1, false⟩ :: parts }

end Level

/-- **A group that is open** around another: what was read of it, the modes to which its
end returns, and whether the inner group can be referred to. -/
structure Opened where
  level : Level
  modes : Modes
  captures : Bool

/-- **Where reading stands**: in a group and those around it, innermost first, in some
modes, after groups with some names. -/
structure Reading where
  level : Level
  outer : List Opened
  modes : Modes
  names : List (List Char)

namespace Reading

/-- Before the first character. -/
def start : Reading := ⟨.start, [], .initial, []⟩

/-- Adds a part that is not nested. -/
def add (r : Reading) (pattern : Pattern) : Reading :=
  { r with level := r.level.add ⟨pattern, 0, false⟩ }

/-- Opens a group. -/
def enter (r : Reading) (modes : Modes) (captures : Bool) : Reading :=
  { r with level := .start, outer := ⟨r.level, r.modes, captures⟩ :: r.outer, modes }

/-- Closes a group. -/
def leave? (r : Reading) : Option Reading :=
  match r.outer with
  | [] => none
  | opened :: outer =>
    let inner := r.level.close
    let pattern := if opened.captures then .group inner.pattern else inner.pattern
    some { r with
      level := opened.level.add ⟨pattern, inner.depth + 1, false⟩
      outer := outer
      modes := opened.modes }

/-- Reads a change of modes, newest letter first: up to a closing parenthesis it is for
what follows, up to a colon for a group. -/
def readModes? (r : Reading) (modes : Modes) (seen : List Char) :
    List Char → Option (Reading × List Char)
  | [] => none
  | c :: rest =>
    if c = ':' ∨ c = ')' then
      if seen.head? = some '-' then none
      else if c = ':' then some (r.enter modes false, rest)
      else if seen = [] then none
      else some ({ r with level := r.level.add ⟨.empty, 0, true⟩, modes }, rest)
    else if seen.contains c then none
    else if c = '-' then r.readModes? modes (c :: seen) rest
    else
      match modes.set? c (!seen.contains '-') with
      | none => none
      | some modes => r.readModes? modes (c :: seen) rest

/-- Whether a character may be in the name of a group. -/
def isNameChar (c : Char) : Bool :=
  isAlphanumeric c || c == '_' || c == '.' || c == '[' || c == ']'

/-- Reads the name of a group, which no other group may have. -/
def readGroupName? (r : Reading) (chars : List Char) : Option (Reading × List Char) :=
  match chars.takeWhile (· != '>'), chars.dropWhile (· != '>') with
  | c :: name, _ :: rest =>
    if (isAlphabetic c || c == '_') && name.all isNameChar && !r.names.contains (c :: name) then
      some ({ r.enter r.modes true with names := (c :: name) :: r.names }, rest)
    else none
  | _, _ => none

/-- Reads the beginning of a group, behind the parenthesis. -/
def readOpening? (r : Reading) (chars : List Char) : Option (Reading × List Char) :=
  match r.modes.pass chars with
  | '?' :: 'P' :: '<' :: rest => r.readGroupName? rest
  | '?' :: '<' :: rest => r.readGroupName? rest
  | '?' :: rest => r.readModes? r.modes [] rest
  | rest => some (r.enter r.modes true, rest)

/-- Repeats the last part. A question mark behind a repetition makes no difference to
whether the pattern matches. -/
def readRepetition? (r : Reading) (least : Nat) (most : Option Nat) (rest : List Char) :
    Option (Reading × List Char) := do
  let r := { r with level := ← r.level.repeatLast? least most }
  match rest with
  | '?' :: rest => return (r, rest)
  | rest => return (r, rest)

/-- Adds an item. -/
def addItem? (r : Reading) : Item → Option Reading
  | .char c => (r.modes.inCase? (.single c)).map fun set => r.add (.one set)
  | .set set => some (r.add (.one set))
  | .anchor a => some (r.add (.anchor a))

/-- Reads what begins with a character. -/
def step? (r : Reading) (c : Char) (rest : List Char) : Option (Reading × List Char) :=
  let m := r.modes
  match c with
  | '(' => r.readOpening? rest
  | ')' => r.leave?.map ((·, rest))
  | '|' => some ({ r with level := r.level.branch }, rest)
  | '[' => do
    let (set, depth, rest) ← readSet? m (2 * rest.length + 2) rest
    return ({ r with level := r.level.add ⟨.one set, depth + 1, false⟩ }, rest)
  | '?' => r.readRepetition? 0 (some 1) rest
  | '*' => r.readRepetition? 0 none rest
  | '+' => r.readRepetition? 1 none rest
  | '\x7b' => do
    let (least, most, rest) ← readBounds? m rest
    r.readRepetition? least most (m.pass rest)
  | '.' => m.dot?.map fun set => (r.add (.one set), rest)
  | '^' => some (r.add (.anchor (if m.lines then .lineStart m.returns else .textStart)), rest)
  | '$' => some (r.add (.anchor (if m.lines then .lineEnd m.returns else .textEnd)), rest)
  | '\\' => do
    let (item, rest) ← readEscape? m rest
    return (← r.addItem? item, rest)
  | c => (r.addItem? (.char c)).map ((·, rest))

/-- Reads to the end, where no group may be open. Every step reads a character. -/
def run? : Nat → Reading → List Char → Option Part
  | 0, _, _ => none
  | fuel + 1, r, chars =>
    match r.modes.pass chars with
    | [] => if r.outer.isEmpty then some r.level.close else none
    | c :: rest =>
      match r.step? c rest with
      | none => none
      | some (r, rest) => r.run? fuel rest

end Reading

/-- The depth to which a pattern may be nested. -/
def depthLimit : Nat := 250

/-- **Reads a pattern.** -/
def read? (text : List Char) : Option Pattern := do
  let part ← Reading.start.run? (text.length + 1) text
  if part.depth ≤ depthLimit ∧ part.pattern.isUsable then return part.pattern else none

end Pattern

end FilterQuery
