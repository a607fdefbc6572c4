/-
# FilterQuery.Record.Kinds -- the kinds of records

There are three: JSON objects, records of typed fields, and composites that hold
several records under one key each.
-/
import FilterQuery.Json.Basic
import FilterQuery.Record.Basic

namespace FilterQuery

/-! ## JSON objects -/

/-- The value of a JSON scalar. A string in the layout of timestamps is one, and a
number that is no 64-bit integer is a double. -/
def Value.ofJson : Json → Option Value
  | .bool b => some (.bool b)
  | .number (.int n) => some ((Value.ofInteger n).getD (.float (.ofInt n)))
  | .number (.float x) => some (.float x)
  | .string s =>
    match Timestamp.read s with
    | some t => some (.time t)
    | none => some (.text s)
  | _ => none

mutual

/-- What lies under a key of a JSON object: nothing if it is not there or null, a
record if it is an object, and an error for any other entry. -/
def Record.partOfObject : List (String × Json) → String → Except DataError (Option Record)
  | [], _ => .ok none
  | (name, json) :: members, key =>
    if name = key then Record.partOfEntry key json else Record.partOfObject members key

/-- What an entry of a JSON object leads to. -/
def Record.partOfEntry (key : String) : Json → Except DataError (Option Record)
  | .null => .ok none
  | .object members =>
    .ok (some (Record.mk "object" (fun name => (members.lookup name).bind Value.ofJson)
      (Record.partOfObject members)))
  | _ => .error (.notARecord key)

end

/-- **A JSON object as a record.** -/
def Record.ofObject (members : List (String × Json)) : Record :=
  ⟨"object", fun name => (members.lookup name).bind Value.ofJson, Record.partOfObject members⟩

/-! ## Typed fields -/

/-- **A record of typed fields**, of which a nullable one may be without a value.
It has no parts. -/
def Record.ofFields (typeName : String) (fields : List (String × Option Value)) : Record :=
  ⟨typeName, fun name => (fields.lookup name).join, fun _ => .ok none⟩

/-! ## Composites -/

/-- **A composite**: records under keys, in order. -/
abbrev Composite := List (String × Record)

namespace Composite

/-- Files a record under its own key. -/
def push (r : Record) (c : Composite) : Composite := c ++ [(r.typeName, r)]

/-- Files a record under a given key. -/
def insert (key : String) (r : Record) (c : Composite) : Composite := c ++ [(key, r)]

/-- **A composite as a record**: it has no values of its own, and under a key lies
the first record filed under it. -/
def toRecord (c : Composite) : Record :=
  ⟨"composite", fun _ => none, fun key => .ok (c.lookup key)⟩

end Composite

end FilterQuery
