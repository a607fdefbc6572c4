/-
# FilterQuery.Yaml.Node -- YAML documents as trees

A document is a tree of scalars, sequences and mappings, in which an alias stands for
a node with an anchor. Of a scalar its text is kept, and whether it is the nothing
that stands where a node was left out. Tags say nothing here, but their handles have
to be known.

Anchors are numbered by how many names are known where they stand. A name that is
given again takes the next number without being a new name, so that the next new
name takes this number over; an alias means the last node of its number.
-/
import FilterQuery.Yaml.Token

namespace FilterQuery

namespace Yaml

/-- **A node**, with the number of its anchor if it has one. -/
inductive Node where
  | scalar (anchor : Option Nat) (text : String) (nothing : Bool)
  | sequence (anchor : Option Nat) (items : List Node)
  | mapping (anchor : Option Nat) (entries : List (Node × Node))
  | alias (number : Nat)

/-- Where a node was left out. -/
def Node.absent : Node := .scalar none "" true

/-! ## Anchors of a tree -/

/-- The anchor of a node itself, as an entry for a table of anchors. -/
def Node.ownAnchor (node : Node) : List (Nat × Node) :=
  match node with
  | .scalar (some n) _ _ => [(n, node)]
  | .sequence (some n) _ => [(n, node)]
  | .mapping (some n) _ => [(n, node)]
  | _ => []

mutual

/-- The nodes with an anchor, in the order in which they begin. -/
def Node.anchored : Node → List (Nat × Node)
  | .sequence anchor items => Node.ownAnchor (.sequence anchor items) ++ Node.anchoredItems items
  | .mapping anchor entries =>
    Node.ownAnchor (.mapping anchor entries) ++ Node.anchoredEntries entries
  | node => node.ownAnchor

/-- The nodes with an anchor among items. -/
def Node.anchoredItems : List Node → List (Nat × Node)
  | [] => []
  | item :: items => Node.anchored item ++ Node.anchoredItems items

/-- The nodes with an anchor among entries. -/
def Node.anchoredEntries : List (Node × Node) → List (Nat × Node)
  | [] => []
  | (key, value) :: entries =>
    Node.anchored key ++ Node.anchored value ++ Node.anchoredEntries entries

end

/-- **A document**: its root, or none if the text holds no document, and its table of
anchors, the last of a number first. -/
structure Document where
  root : Option Node
  anchors : List (Nat × Node)

/-- The document of a root. -/
def Document.ofRoot (root : Node) : Document := ⟨some root, root.anchored.reverse⟩

/-- The node that an alias stands for; every other node stands for itself. -/
def Document.resolve (d : Document) : Node → Node
  | .alias number => (d.anchors.lookup number).getD .absent
  | node => node

/-! ## Reading -/

/-- What is known while the tokens of a document are read: those that are left, the
handles of tags, and the numbers of anchor names. -/
structure Parsing where
  tokens : List Token
  handles : List String
  names : List (String × Nat)

/-- A reader of a part of a document. -/
abbrev Parser := StateT Parsing Option

namespace Parser

/-- The next token. -/
def peek : Parser (Option Token) := do return (← get).tokens.head?

/-- Passes the next token. -/
def skip : Parser Unit := modify fun s => { s with tokens := s.tokens.tail }

/-- Whether the next token is one of some tokens. The end of the text is none. -/
def next (tokens : List Token) : Parser Bool := do
  return (← peek).any tokens.contains

/-- Passes the next token if it is a given one, and says whether it was. -/
def accept (token : Token) : Parser Bool := do
  if ← next [token] then
    skip
    return true
  else return false

/-- Passes the next token, which has to be a given one. -/
def expect (token : Token) : Parser Unit := do
  unless ← accept token do failure

/-- Gives an anchor name its number. -/
def number (name : String) : Parser Nat := do
  let s ← get
  let n := s.names.length
  set { s with names := (name, n) :: s.names.filter (·.1 != name) }
  return n

/-- Reads an anchor and a tag, in any order, and says whether there was either. -/
def properties : Parser (Option Nat × Bool) := do
  let first ← property
  let second ← property
  match first, second with
  | none, _ => return (none, false)
  | some anchor, none => return (anchor, true)
  | some (some n), some none => return (some n, true)
  | some none, some (some n) => return (some n, true)
  | _, _ => failure
where
  /-- One anchor or tag. -/
  property : Parser (Option (Option Nat)) := do
    match ← peek with
    | some (.anchor name) =>
      skip
      return some (some (← number name))
    | some (.tag handle) =>
      skip
      if handle = "" || (← get).handles.contains handle then return some none else failure
    | _ => return none

mutual

/-- Reads a node. In a block context it may be a block collection, and as the value or
key of a mapping also a sequence that is not indented. The fuel bounds how deep the
readers call each other. -/
def node (block unindented : Bool) : Nat → Parser Node
  | 0 => failure
  | fuel + 1 => do
    if let some (.alias name) ← peek then
      skip
      match (← get).names.lookup name with
      | some n => return .alias n
      | none => failure
    else
      let (anchor, any) ← properties
      if ← (if unindented then next [.entry] else pure false) then
        return .sequence anchor (← unindentedEntries fuel)
      match ← peek with
      | some (.scalar text plain) =>
        skip
        return .scalar anchor text (plain && text == "")
      | some .flowSequence =>
        skip
        return .sequence anchor (← flowItems true fuel)
      | some .flowMapping =>
        skip
        return .mapping anchor (← flowEntries true fuel)
      | some .blockSequence =>
        if block then
          skip
          return .sequence anchor (← blockItems fuel)
        else leftOut anchor any
      | some .blockMapping =>
        if block then
          skip
          return .mapping anchor (← blockEntries fuel)
        else leftOut anchor any
      | _ => leftOut anchor any

/-- A node of which nothing is there but an anchor or a tag. -/
def leftOut (anchor : Option Nat) (any : Bool) : Parser Node :=
  if any then return .scalar anchor "" true else failure

/-- Reads a node that is absent if one of some tokens comes next. -/
def nodeUnless (tokens : List Token) (block unindented : Bool) : Nat → Parser Node
  | 0 => failure
  | fuel + 1 => do
    if ← next tokens then return .absent else node block unindented fuel

/-- Reads the entries of a block sequence. -/
def blockItems : Nat → Parser (List Node)
  | 0 => failure
  | fuel + 1 => do
    if ← accept .entry then
      let item ← nodeUnless [.entry, .blockEnd] true false fuel
      return item :: (← blockItems fuel)
    else
      expect .blockEnd
      return []

/-- Reads the entries of a sequence that is not indented; it has no end token. -/
def unindentedEntries : Nat → Parser (List Node)
  | 0 => failure
  | fuel + 1 => do
    if ← accept .entry then
      let item ← nodeUnless [.entry, .key, .value, .blockEnd] true false fuel
      return item :: (← unindentedEntries fuel)
    else return []

/-- Reads the entries of a block mapping. -/
def blockEntries : Nat → Parser (List (Node × Node))
  | 0 => failure
  | fuel + 1 => do
    if ← accept .key then
      let key ← nodeUnless [.key, .value, .blockEnd] true true fuel
      let value ←
        if ← accept .value then nodeUnless [.key, .value, .blockEnd] true true fuel
        else pure .absent
      return (key, value) :: (← blockEntries fuel)
    else
      expect .blockEnd
      return []

/-- Reads the items of a sequence in brackets; each but the first is behind a comma. -/
def flowItems (first : Bool) : Nat → Parser (List Node)
  | 0 => failure
  | fuel + 1 => do
    if ← accept .flowSequenceEnd then return []
    unless first do expect .comma
    if ← accept .flowSequenceEnd then return []
    let item ← if ← accept .key then flowPair fuel else node false false fuel
    return item :: (← flowItems false fuel)

/-- Reads a single pair inside the brackets of a sequence, which is a mapping. Where its
key is left out, the token in the key's place is lost. -/
def flowPair : Nat → Parser Node
  | 0 => failure
  | fuel + 1 => do
    let key ←
      if ← next [.value, .comma, .flowSequenceEnd] then
        skip
        pure .absent
      else node false false fuel
    let value ←
      if ← accept .value then nodeUnless [.comma, .flowSequenceEnd] false false fuel
      else pure .absent
    return .mapping none [(key, value)]

/-- Reads the entries of a mapping in braces; each but the first is behind a comma. A
key without a mark has no value. -/
def flowEntries (first : Bool) : Nat → Parser (List (Node × Node))
  | 0 => failure
  | fuel + 1 => do
    if ← accept .flowMappingEnd then return []
    unless first do expect .comma
    if ← accept .flowMappingEnd then return []
    let entry ←
      if ← accept .key then
        let key ← nodeUnless [.value, .comma, .flowMappingEnd] false false fuel
        let value ←
          if ← accept .value then nodeUnless [.comma, .flowMappingEnd] false false fuel
          else pure .absent
        pure (key, value)
      else pure (← node false false fuel, .absent)
    return entry :: (← flowEntries false fuel)

end

/-- Reads the directives in front of a document: one version at most, which is 1.1 or
1.2, and one tag handle of a name. Says whether there were any. -/
def directives (versionSeen any : Bool) (added : List String) :
    List Token → Option (Bool × List String × List Token)
  | .version major minor :: rest =>
    if versionSeen || major != 1 || (minor != 1 && minor != 2) then none
    else directives true true added rest
  | .tagHandle handle :: rest =>
    if added.contains handle then none else directives versionSeen true (handle :: added) rest
  | rest => some (any, added, rest)

/-- Reads a root. Behind a document start it may be left out. -/
def root (explicit : Bool) (fuel : Nat) : Parser Node := do
  if explicit then
    match ← peek with
    | none | some .documentStart | some .documentEnd | some (.version _ _) | some (.tagHandle _) =>
      return .absent
    | _ => node true false fuel
  else node true false fuel

end Parser

/-- **The document of a text**, if it is YAML and holds no more than one. -/
def Document.ofText? (text : String) : Option Document := do
  let tokens ← tokens? text
  if tokens.isEmpty then return ⟨none, []⟩
  let (any, added, tokens) ← Parser.directives false false [] tokens
  let (explicit, tokens) ←
    match any, tokens with
    | _, .documentStart :: rest => some (true, rest)
    | true, _ => none
    | false, tokens => some (false, tokens)
  let (node, left) ←
    (Parser.root explicit (4 * tokens.length + 4)).run ⟨tokens, "!" :: "!!" :: added, []⟩
  if left.tokens.all (· == .documentEnd) then return .ofRoot node else none

end Yaml

end FilterQuery
