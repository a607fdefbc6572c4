/-
# FilterQuery.Json.Lexeme -- the lexemes of JSON text

The text is read character by character by a machine that says, for each of its
states and the next character, which lexemes are complete and how it goes on. The
grammar is the strict one: no leading zeros, no control characters in strings, no
characters between the lexemes but blank, tab, line feed and carriage return.

A string may spell half a surrogate pair. It is sound JSON but stands for no text,
and has a lexeme of its own.
-/
import FilterQuery.Json.Number
import FilterQuery.Text.Hexadecimal

namespace FilterQuery

namespace Json

/-- **A lexeme** of JSON text; `invalid` is where the text stops being JSON. -/
inductive Lexeme where
  | openArray
  | closeArray
  | openObject
  | closeObject
  | comma
  | colon
  | null
  | bool (b : Bool)
  | number (n : JsonNumber)
  | string (s : String)
  | brokenString
  | invalid
  deriving DecidableEq, Repr

/-! ## Runs outside strings -/

/-- The lexeme of a run of characters outside strings. -/
def bareLexeme (text : List Char) : Lexeme :=
  if text = ['n', 'u', 'l', 'l'] then .null
  else if text = ['t', 'r', 'u', 'e'] then .bool true
  else if text = ['f', 'a', 'l', 's', 'e'] then .bool false
  else
    match readNumber text with
    | some n => .number n
    | none => .invalid

/-! ## Strings -/

/-- **A string under way**: its characters, newest first; whether it still stands
for a text; and the first half of a surrogate pair if that was read last. -/
structure Quoted where
  chars : List Char
  sound : Bool
  half : Option Nat

namespace Quoted

/-- A string before its first character. -/
def start : Quoted := ⟨[], true, none⟩

/-- Adds a character. A half surrogate pair before it stays a half. -/
def push (c : Char) (q : Quoted) : Quoted :=
  ⟨c :: q.chars, q.sound && q.half.isNone, none⟩

/-- Adds a 16-bit unit that was spelled by four digits. -/
def pushUnit (n : Nat) (q : Quoted) : Quoted :=
  match q.half with
  | some high =>
    if 0xDC00 ≤ n && n ≤ 0xDFFF then
      ⟨Char.ofNat (0x10000 + (high - 0xD800) * 0x400 + (n - 0xDC00)) :: q.chars, q.sound, none⟩
    else ⟨q.chars, false, none⟩
  | none =>
    if 0xD800 ≤ n && n ≤ 0xDBFF then ⟨q.chars, q.sound, some n⟩
    else if 0xDC00 ≤ n && n ≤ 0xDFFF then ⟨q.chars, false, none⟩
    else ⟨Char.ofNat n :: q.chars, q.sound, none⟩

/-- The lexeme of a string at its closing quote. -/
def close (q : Quoted) : Lexeme :=
  if q.sound && q.half.isNone then .string (String.ofList q.chars.reverse) else .brokenString

end Quoted

/-- What a character behind a backslash stands for, the four digits of a `u` apart. -/
def unescape? (c : Char) : Option Char :=
  if c = '"' ∨ c = '\\' ∨ c = '/' then some c
  else if c = 'b' then some '\x08'
  else if c = 'f' then some '\x0C'
  else if c = 'n' then some '\n'
  else if c = 'r' then some '\r'
  else if c = 't' then some '\t'
  else none

/-! ## The machine -/

/-- **The states of reading**: between lexemes; in a run of characters outside
strings, newest first; in a string; behind a backslash; among the digits of an
escaped unit, with how many are missing and the value so far; and behind a fault. -/
inductive State where
  | between
  | bare (chars : List Char)
  | quoted (q : Quoted)
  | escape (q : Quoted)
  | unit (q : Quoted) (missing value : Nat)
  | stopped

/-- Characters that may stand between lexemes. -/
def isGap (c : Char) : Bool := c == ' ' || c == '\t' || c == '\n' || c == '\r'

/-- The lexemes of one character. -/
def mark? (c : Char) : Option Lexeme :=
  if c = '[' then some .openArray
  else if c = ']' then some .closeArray
  else if c = '\x7b' then some .openObject
  else if c = '\x7d' then some .closeObject
  else if c = ',' then some .comma
  else if c = ':' then some .colon
  else none

/-- A character that no run goes on over: what it yields and begins. -/
def breaks? (c : Char) : Option (List Lexeme × State) :=
  if isGap c then some ([], .between)
  else if c = '"' then some ([], .quoted .start)
  else (mark? c).map fun lexeme => ([lexeme], .between)

/-- **One character**: the lexemes it completes, and the state behind it. -/
def State.step (c : Char) : State → List Lexeme × State
  | .between => (breaks? c).getD ([], .bare [c])
  | .bare chars =>
    match breaks? c with
    | some (lexemes, state) => (bareLexeme chars.reverse :: lexemes, state)
    | none => ([], .bare (c :: chars))
  | .quoted q =>
    if c = '"' then ([q.close], .between)
    else if c = '\\' then ([], .escape q)
    else if c.toNat < 0x20 then ([.invalid], .stopped)
    else ([], .quoted (q.push c))
  | .escape q =>
    if c = 'u' then ([], .unit q 4 0)
    else
      match unescape? c with
      | some d => ([], .quoted (q.push d))
      | none => ([.invalid], .stopped)
  | .unit q missing value =>
    match hexDigit? c with
    | none => ([.invalid], .stopped)
    | some digit =>
      if missing ≤ 1 then ([], .quoted (q.pushUnit (value * 16 + digit)))
      else ([], .unit q (missing - 1) (value * 16 + digit))
  | .stopped => ([], .stopped)

/-- The lexemes that the end of the text completes; a string may not end there. -/
def State.finish : State → List Lexeme
  | .between => []
  | .bare chars => [bareLexeme chars.reverse]
  | .quoted _ => [.invalid]
  | .escape _ => [.invalid]
  | .unit _ _ _ => [.invalid]
  | .stopped => []

/-- The lexemes of the rest of a text. -/
def State.run (state : State) : List Char → List Lexeme
  | [] => state.finish
  | c :: rest => (state.step c).1 ++ (state.step c).2.run rest

/-- **The lexemes of a text.** -/
def lexemes (text : String) : List Lexeme := State.run .between text.toList

end Json

end FilterQuery
