/-
# FilterQuery.Matching -- a condition against a condition

A reference condition is a rule, and a candidate is a condition that may satisfy
it. The walk follows the reference. Each of its leaves is held against all leaves
of the candidate that have the same name, joined as they are joined there; leaves
of other names are passed over and do not count as failures.

Before the walk the candidate is completed: for each name of the reference that it
lacks it gets a leaf that equates the name with the empty text.
-/
import FilterQuery.Condition.Siblings
import FilterQuery.Literal
import FilterQuery.Text.Lowercase

namespace FilterQuery

/-! ## Leaves -/

/-- **The leaf of a candidate against a leaf of the reference.** The operator and
the kind of literal are the reference's; of the candidate only the value counts.
Equality is that of texts, without regard to letter case. -/
def Comparison.accepts (reference candidate : Comparison) : Bool :=
  match reference.operator with
  | none => false
  | some .eq => equalButCase candidate.value reference.value
  | some op =>
    match classify reference.value with
    | .temporal => op.holds (some ((timeOrZero candidate.value).order (timeOrZero reference.value)))
    | _ => op.holds ((floatOrZero candidate.value).compare? (floatOrZero reference.value))

namespace Condition

mutual

/-- **A leaf of the reference against a candidate**, or `none` if the candidate has
no leaf of its name. -/
def answers (reference : Comparison) : Condition → Option Bool
  | .leaf _ comparison =>
    if comparison.name = reference.name then some (reference.accepts comparison) else none
  | .group _ children => Verdict.joinAll (answersAll reference children)

/-- The verdicts of those siblings that have leaves of the name. -/
def answersAll (reference : Comparison) : List Condition → List Verdict
  | [] => []
  | c :: cs =>
    match answers reference c with
    | none => answersAll reference cs
    | some holds => ⟨c.joiner, holds⟩ :: answersAll reference cs

end

/-! ## Trees -/

mutual

/-- The walk over the reference. A void leaf is false. -/
def walk (candidate : Condition) : Condition → Bool
  | .leaf _ reference => !reference.isVoid && (answers reference candidate).getD false
  | .group _ children => (Verdict.joinAll (walkAll candidate children)).getD false

/-- The verdicts of siblings of the reference. -/
def walkAll (candidate : Condition) : List Condition → List Verdict
  | [] => []
  | c :: cs => ⟨c.joiner, walk candidate c⟩ :: walkAll candidate cs

end

/-! ## Completing the candidate -/

/-- A leaf that stands in for a name that a candidate lacks. -/
def placeholder (name : String) : Condition := .leaf (some .and) ⟨name, some .eq, ""⟩

/-- The names of the reference that the candidate lacks, ascending. -/
def missingNames (reference candidate : Condition) : List String :=
  reference.names.filter fun name => !candidate.names.contains name

/-- The siblings that a candidate consists of: a leaf is one, without its joiner. -/
def siblings : Condition → List Condition
  | .leaf _ comparison => [.leaf none comparison]
  | .group _ children => children

/-- **The candidate, completed** by a placeholder for every missing name. -/
def normalize (reference candidate : Condition) : Condition :=
  match missingNames reference candidate with
  | [] => candidate
  | missing => .group candidate.joiner (candidate.siblings ++ missing.map placeholder)

/-- **Whether a candidate satisfies a reference.** -/
def accepts (reference candidate : Condition) : Bool :=
  walk (normalize reference candidate) reference

end Condition

end FilterQuery
