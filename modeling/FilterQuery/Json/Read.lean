/-
# FilterQuery.Json.Read -- from JSON text to a document

Arrays and objects are built on a stack of those that are still open. At the first
lexeme that does not belong where it stands, every open array and object gets a
hole and is closed, and the draft is complete.

Arrays and objects that lie deeper than a limit are not kept: if they are sound,
they leave a hole that may be skipped but not used.
-/
import FilterQuery.Json.Lexeme

namespace FilterQuery

namespace Json

/-! ## Open arrays and objects -/

/-- **An open array or object**: what it holds so far, newest first. An object that
waits for a value has read its name, which is `none` if it stands for no text. -/
inductive Frame where
  | array (items : List Draft)
  | object (members : List (String × Draft)) (key : Option String)

/-- What may come next. -/
inductive Expects where
  | value
  | itemOrClose
  | keyOrClose
  | key
  | colon
  | separator

/-- A member; under a name that is no text it is a hole. -/
def member (key : Option String) (value : Draft) : String × Draft :=
  match key with
  | some key => (key, value)
  | none => ("", .hole (if Draft.intact value then .badKey else .cut))

/-- Puts a value into an open array or object. -/
def Frame.add (value : Draft) : Frame → Frame
  | .array items => .array (value :: items)
  | .object members key => .object (member key value :: members) none

/-- The array or object, closed. -/
def Frame.close : Frame → Draft
  | .array items => .array items.reverse
  | .object members _ => .object members.reverse

/-- Closes an array or object that stands at a depth. -/
def Frame.closeAt (limit depth : Nat) (frame : Frame) : Draft :=
  if depth ≤ limit then frame.close
  else if Draft.intact frame.close then .hole .unusable
  else .hole .cut

/-- Puts a hole where the text broke off. -/
def Frame.cut : Frame → Frame
  | .array items => .array (.hole .cut :: items)
  | .object members (some key) => .object ((key, .hole .cut) :: members) none
  | .object members none => .object (("", .hole .cut) :: members) none

/-- Closes all that is open around a value, innermost first. -/
def closeAll (limit : Nat) (value : Draft) : List Frame → Draft
  | [] => value
  | frame :: outer => closeAll limit ((frame.add value).closeAt limit (outer.length + 1)) outer

/-- The draft of a text that breaks off. -/
def breakOff (limit : Nat) : List Frame → Draft
  | [] => .hole .cut
  | frame :: outer => closeAll limit (frame.cut.closeAt limit (outer.length + 1)) outer

/-! ## Building -/

/-- **What a lexeme does**: it completes the document, leads on, or is a fault. -/
inductive Move where
  | complete (value : Draft)
  | next (open_ : List Frame) (expects : Expects)
  | fault

/-- Places a complete value. -/
def place (value : Draft) : List Frame → Move
  | [] => .complete value
  | frame :: outer => .next (frame.add value :: outer) .separator

/-- The value of a lexeme that is one. -/
def scalar? : Lexeme → Option Draft
  | .null => some .null
  | .bool b => some (.bool b)
  | .number n => some (.number n)
  | .string s => some (.string s)
  | .brokenString => some (.hole .unusable)
  | _ => none

/-- Begins a value. -/
def beginValue (frames : List Frame) (lexeme : Lexeme) : Move :=
  match lexeme with
  | .openArray => .next (.array [] :: frames) .itemOrClose
  | .openObject => .next (.object [] none :: frames) .keyOrClose
  | lexeme =>
    match scalar? lexeme with
    | some value => place value frames
    | none => .fault

/-- Reads the name of a member. -/
def beginMember (frames : List Frame) (lexeme : Lexeme) : Move :=
  match lexeme, frames with
  | .string key, .object members _ :: outer => .next (.object members (some key) :: outer) .colon
  | .brokenString, .object members _ :: outer => .next (.object members none :: outer) .colon
  | _, _ => .fault

/-- Closes the innermost array or object, if the lexeme is its closing mark. -/
def endContainer (limit : Nat) (frames : List Frame) (lexeme : Lexeme) : Move :=
  match lexeme, frames with
  | .closeArray, .array items :: outer =>
    place (Frame.closeAt limit (outer.length + 1) (.array items)) outer
  | .closeObject, .object members key :: outer =>
    place (Frame.closeAt limit (outer.length + 1) (.object members key)) outer
  | _, _ => .fault

/-- **One lexeme** among the open arrays and objects. -/
def move (limit : Nat) (frames : List Frame) (expects : Expects) (lexeme : Lexeme) : Move :=
  match expects with
  | .value => beginValue frames lexeme
  | .itemOrClose =>
    match lexeme with
    | .closeArray => endContainer limit frames lexeme
    | lexeme => beginValue frames lexeme
  | .keyOrClose =>
    match lexeme with
    | .closeObject => endContainer limit frames lexeme
    | lexeme => beginMember frames lexeme
  | .key => beginMember frames lexeme
  | .colon =>
    match lexeme with
    | .colon => .next frames .value
    | _ => .fault
  | .separator =>
    match lexeme, frames with
    | .comma, .array _ :: _ => .next frames .value
    | .comma, .object _ _ :: _ => .next frames .key
    | lexeme, frames => endContainer limit frames lexeme

/-- Builds the document that lexemes begin with; the lexemes behind it are left. -/
def build (limit : Nat) (frames : List Frame) (expects : Expects) :
    List Lexeme → Draft × List Lexeme
  | [] => (breakOff limit frames, [])
  | lexeme :: rest =>
    match move limit frames expects lexeme with
    | .complete value => (value, rest)
    | .next frames expects => build limit frames expects rest
    | .fault => (breakOff limit frames, rest)

/-! ## Reading -/

/-- The draft a text begins with, and whether nothing but gaps follows it. -/
def readDraft (limit : Nat) (text : String) : Draft × Bool :=
  let (draft, rest) := build limit [] .value (lexemes text)
  (draft, rest.isEmpty)

/-- How many arrays and objects of a JSON text may lie inside each other. -/
def depthLimit : Nat := 127

/-- **Reading a text that has to be one document**, to a depth. -/
def read (limit : Nat) (text : String) : Option Json :=
  let (draft, atEnd) := readDraft limit text
  if atEnd then draft.toJson? else none

end Json

end FilterQuery
