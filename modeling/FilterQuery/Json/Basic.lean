/-
# FilterQuery.Json.Basic -- JSON documents

JSON documents appear in two grades. `Json` is a document as it should be. A
`Draft` is what can be made of a text that may be none: where the text stops being
JSON, or holds what may be skipped but not used, the draft has a hole, and
everything before the hole is there. A reader that walks a draft in written order
meets the first fault of the text first.
-/
import FilterQuery.Number.Double

namespace FilterQuery

/-- **A JSON number**: an integer of 64 bits, with sign or without, or a double. -/
inductive JsonNumber where
  | int (n : Int)
  | float (x : Double)
  deriving DecidableEq, Repr

/-- **A document** with holes of a kind. Objects keep their members in order. -/
inductive Doc (flaw : Type) where
  | hole (f : flaw)
  | null
  | bool (b : Bool)
  | number (n : JsonNumber)
  | string (s : String)
  | array (items : List (Doc flaw))
  | object (members : List (String × Doc flaw))

/-- A JSON document: one without holes. -/
abbrev Json := Doc Empty

/-- **Flaws of a text**:

* `cut`: here the text stopped being JSON; what was open is closed behind it;
* `unusable`: sound JSON that can only be skipped, a string with half a surrogate
  pair or an array or object below the depth limit;
* `badKey`: a member, filed under the empty name, whose name has half a surrogate
  pair; it ends the reading of its object, unless that is skipped itself. -/
inductive Flaw where
  | cut
  | unusable
  | badKey
  deriving DecidableEq, Repr

/-- A document read from a text that may be faulty. -/
abbrev Draft := Doc Flaw

namespace Draft

mutual

/-- Whether the text of a draft was JSON to its end. -/
def intact : Draft → Bool
  | .hole .cut => false
  | .array items => intactItems items
  | .object members => intactMembers members
  | _ => true

/-- Whether all items are intact. -/
def intactItems : List Draft → Bool
  | [] => true
  | item :: items => intact item && intactItems items

/-- Whether the values of all members are intact. -/
def intactMembers : List (String × Draft) → Bool
  | [] => true
  | (_, value) :: members => intact value && intactMembers members

end

/-- Whether a reader may pass over the value of a member it has no use for. -/
def skippable (draft : Draft) : Bool :=
  match draft with
  | .hole .badKey => false
  | draft => intact draft

end Draft

/-! ## Members in order -/

/-- Puts a member into a list that ascends by name, in place of one of its name. -/
def insertMember {α : Type} (name : String) (value : α) :
    List (String × α) → List (String × α)
  | [] => [(name, value)]
  | (other, old) :: rest =>
    if name < other then (name, value) :: (other, old) :: rest
    else if name = other then (name, value) :: rest
    else (other, old) :: insertMember name value rest

mutual

/-- **The document a draft stands for**, if it has no holes and no number beyond
the doubles. Members ascend by name, and the last of several of one name stays. -/
def Draft.toJson? : Draft → Option Json
  | .hole _ => none
  | .null => some .null
  | .bool b => some (.bool b)
  | .number (.int n) => some (.number (.int n))
  | .number (.float (.finite negative units)) => some (.number (.float (.finite negative units)))
  | .number (.float _) => none
  | .string s => some (.string s)
  | .array items => (Draft.itemsToJson? items).map .array
  | .object members => (Draft.membersToJson? [] members).map .object

/-- The documents of all items. -/
def Draft.itemsToJson? : List Draft → Option (List Json)
  | [] => some []
  | item :: items =>
    match Draft.toJson? item with
    | none => none
    | some json => (Draft.itemsToJson? items).map (json :: ·)

/-- Adds the documents of further members to those that are in order. -/
def Draft.membersToJson? (sorted : List (String × Json)) :
    List (String × Draft) → Option (List (String × Json))
  | [] => some sorted
  | (name, value) :: members =>
    match Draft.toJson? value with
    | none => none
    | some json => Draft.membersToJson? (insertMember name json sorted) members

end

end FilterQuery
