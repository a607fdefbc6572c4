/-
# FilterQuery.Record.Basic -- records and their values

A record is whatever answers two questions: which value it has under a name, and
which record lies under a key. A name `key.rest` that the record has no value for
is looked up as `rest` in the record under `key`, one level deep.
-/
import FilterQuery.Number.Shortest
import FilterQuery.Timestamp

namespace FilterQuery

/-! ## Values -/

/-- **The value of an attribute.** -/
inductive Value where
  | int (n : Int64)
  | float (x : Double)
  | time (t : Timestamp)
  | bool (b : Bool)
  | text (s : String)
  deriving DecidableEq

/-- How doubles are laid out in values: never with an exponent, and whole numbers
without a point. -/
def valueLayout : Double.Layout := ⟨.up, fun _ => true, false⟩

/-- **A value as it is written.** -/
def Value.render : Value → String
  | .int n => integerText n.toInt
  | .float x => x.text valueLayout
  | .time t => t.text
  | .bool b => if b then "true" else "false"
  | .text s => s

/-- The value of an integer of any width; one beyond 64 bits has none. -/
def Value.ofInteger (n : Int) : Option Value :=
  if fitsInt64 n then some (.int (Int64.ofInt n)) else none

/-! ## Errors -/

/-- **Why data cannot be evaluated**: none was given, no record was given, it has
the wrong shape, or a qualified name leads through an entry that is no record. -/
inductive DataError where
  | missing
  | noRecords
  | objectRequired
  | arrayRequired
  | notARecord (key : String)
  deriving DecidableEq, Repr

/-- What is said about data that cannot be evaluated. -/
def DataError.message : DataError → String
  | .missing => "data can't be nil"
  | .noRecords => "data can't be empty"
  | .objectRequired => "invalid type, object is required"
  | .arrayRequired => "invalid type, array is required"
  | .notARecord key => "unable to cast entry '" ++ key ++ "' to a record"

/-! ## Records -/

/-- **A record**: the key it is filed under among others, its values by name, and
the parts it has by key. A key may lead to nothing or to an error. -/
structure Record where
  typeName : String
  value : String → Option Value
  part : String → Except DataError (Option Record)

/-- The record that has nothing under any name. -/
def Record.empty : Record := ⟨"record", fun _ => none, fun _ => .ok none⟩

instance : Inhabited Record := ⟨.empty⟩

/-- Splits a text at its first point. -/
def splitAtPoint : List Char → Option (List Char × List Char)
  | [] => none
  | c :: rest =>
    if c = '.' then some ([], rest)
    else (splitAtPoint rest).map fun (key, tail) => (c :: key, tail)

/-- A name's key and what follows its first point. -/
def splitQualifier (name : String) : Option (String × String) :=
  (splitAtPoint name.toList).map fun (key, rest) => (String.ofList key, String.ofList rest)

/-- **Looking up a name**: as it stands, then through its qualifier. -/
def Record.lookup (r : Record) (name : String) : Except DataError (Option Value) :=
  match r.value name with
  | some v => .ok (some v)
  | none =>
    match splitQualifier name with
    | none => .ok none
    | some (key, rest) => do
      match ← r.part key with
      | none => return none
      | some sub => return sub.value rest

end FilterQuery
