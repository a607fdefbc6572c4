/-
# FilterQuery.Timestamp -- timestamps

The one layout of timestamps is `YYYY-MM-DD HH:MM:SS`, in the Gregorian calendar
extended backwards over a year zero. A minute may have a second 60, which comes
after its second 59 and before the next minute.

Reading is more lenient than writing: numbers may lack their leading zeros, blanks
may stand before each of them, and a year behind a sign may have any number of
digits. What is written is always read back.
-/
import FilterQuery.Number.Integer
import FilterQuery.Text.Blank

namespace FilterQuery

/-! ## The calendar -/

/-- Whether a year has a 29th of February. -/
def isLeapYear (year : Int) : Bool := year % 4 == 0 && (year % 100 != 0 || year % 400 == 0)

/-- The number of days in a month. -/
def daysInMonth (year : Int) (month : Nat) : Nat :=
  if month = 2 then if isLeapYear year then 29 else 28
  else if month = 4 ∨ month = 6 ∨ month = 9 ∨ month = 11 then 30
  else 31

/-- **A timestamp**, exact to the second: a day of the calendar between the years
-262143 and 262142, and a time of that day. -/
structure Timestamp where
  year : Int
  month : Nat
  day : Nat
  hour : Nat
  minute : Nat
  second : Nat
  year_bounds : -262143 ≤ year ∧ year ≤ 262142
  month_bounds : 1 ≤ month ∧ month ≤ 12
  day_bounds : 1 ≤ day ∧ day ≤ daysInMonth year month
  hour_lt : hour < 24
  minute_lt : minute < 60
  second_le : second ≤ 60
  deriving DecidableEq

namespace Timestamp

/-- The timestamp with the given fields, if there is one. -/
def ofFields? (year : Int) (month day hour minute second : Nat) : Option Timestamp :=
  if h : (-262143 ≤ year ∧ year ≤ 262142) ∧ (1 ≤ month ∧ month ≤ 12) ∧
      (1 ≤ day ∧ day ≤ daysInMonth year month) ∧ hour < 24 ∧ minute < 60 ∧ second ≤ 60 then
    some ⟨year, month, day, hour, minute, second, h.1, h.2.1, h.2.2.1, h.2.2.2.1, h.2.2.2.2.1,
      h.2.2.2.2.2⟩
  else none

theorem ofFields?_self (t : Timestamp) :
    ofFields? t.year t.month t.day t.hour t.minute t.second = some t :=
  dif_pos ⟨t.year_bounds, t.month_bounds, t.day_bounds, t.hour_lt, t.minute_lt, t.second_le⟩

/-- The first second of year 1, for which unreadable text counts. -/
def zero : Timestamp :=
  ⟨1, 1, 1, 0, 0, 0, by decide, by decide, by decide, by decide, by decide, by decide⟩

/-- A number that grows with time, with room for a second 60 in every minute. -/
def rank (t : Timestamp) : Int :=
  ((((t.year * 12 + t.month) * 31 + t.day) * 24 + t.hour) * 60 + t.minute) * 61 + t.second

/-- **How two timestamps are ordered.** -/
def order (s t : Timestamp) : Ordering := compare s.rank t.rank

@[simp] theorem order_self (t : Timestamp) : t.order t = .eq := by simp [order]

/-! ## Writing -/

/-- A number in decimal digits, filled up with zeros to a width. -/
def padded (width n : Nat) : List Char :=
  let digits := Nat.toDigits 10 n
  List.replicate (width - digits.length) '0' ++ digits

/-- A year has four digits or more, and outside 0 to 9999 also its sign. -/
def yearText (year : Int) : List Char :=
  if year < 0 then '-' :: padded 4 year.natAbs
  else if 9999 < year then '+' :: padded 4 year.natAbs
  else padded 4 year.natAbs

/-- The characters of a timestamp. -/
def chars (t : Timestamp) : List Char :=
  yearText t.year ++ '-' :: padded 2 t.month ++ '-' :: padded 2 t.day ++ ' ' :: padded 2 t.hour ++
    ':' :: padded 2 t.minute ++ ':' :: padded 2 t.second

/-- **A timestamp as it is written.** -/
def text (t : Timestamp) : String := String.ofList t.chars

/-! ## Reading -/

/-- Splits off the leading digits, at most `limit` of them. -/
def takeDigits : Nat → List Char → List Char × List Char
  | limit + 1, c :: rest =>
    if c.isDigit then (c :: (takeDigits limit rest).1, (takeDigits limit rest).2)
    else ([], c :: rest)
  | _, rest => ([], rest)

/-- Reads a number of one digit up to `limit` digits. -/
def readNumber (limit : Nat) (text : List Char) : Option (Nat × List Char) :=
  let (digits, rest) := takeDigits limit text
  if digits.isEmpty then none else some (digitsValue digits, rest)

/-- Reads a year behind blanks: up to four digits, or a sign and any number. -/
def readYear (text : List Char) : Option (Int × List Char) :=
  match text.dropWhile isBlank with
  | '-' :: rest => (readNumber rest.length rest).map fun (n, rest) => (-(n : Int), rest)
  | '+' :: rest => (readNumber rest.length rest).map fun (n, rest) => ((n : Int), rest)
  | rest => (readNumber 4 rest).map fun (n, rest) => ((n : Int), rest)

/-- Reads one or two digits behind blanks. -/
def readField (text : List Char) : Option (Nat × List Char) :=
  readNumber 2 (text.dropWhile isBlank)

/-- Passes one character, which has to be there. -/
def expect (c : Char) : List Char → Option (List Char)
  | [] => none
  | d :: rest => if c = d then some rest else none

/-- Reads a timestamp that takes up a whole list of characters. -/
def ofChars? (text : List Char) : Option Timestamp := do
  let (year, text) ← readYear text
  let text ← expect '-' text
  let (month, text) ← readField text
  let text ← expect '-' text
  let (day, text) ← readField text
  let (hour, text) ← readField text
  let text ← expect ':' text
  let (minute, text) ← readField text
  let text ← expect ':' text
  let (second, text) ← readField text
  if text.isEmpty then ofFields? year month day hour minute second else none

/-- **Reading a timestamp.** -/
def read (text : String) : Option Timestamp := ofChars? text.toList

end Timestamp

end FilterQuery
