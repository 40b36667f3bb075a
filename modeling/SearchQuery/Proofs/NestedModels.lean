import Mathlib.Data.List.Lex
import SearchQuery.Model

/-!
# The model nested in an annotation

The arguments of a type are types again, or values: what a literal allows and
what is remarked of an annotated type.  A place in an annotation is the list of
the indices of the arguments that lead there, and places in the order of reading
are ordered like words.  The search for a model goes through the arguments one
after another, down to the last level of each before it turns to the next, and
so finds the model at the first place that has one.
-/

namespace SearchQuery

namespace Annotation

/-- The arguments of a type, in the order in which they are written.  What may
be absent is an alternative to nothing, and what may be repeated is followed by
a mark. -/
def arguments : Annotation → List Annotation
  | .scalar _ => []
  | .constant _ => []
  | .literal values => values.map .constant
  | .model _ => []
  | .list element => [element]
  | .optional element => [element, .scalar "NoneType"]
  | .dict key value => [key, value]
  | .tuple elements => elements
  | .sequence element => [element, .constant "..."]
  | .union alternatives => alternatives
  | .classOf element => [element]
  | .annotated element remarks => element :: remarks

/-- What stands at a place, which tells the index of an argument at every level. -/
def at? : Annotation → List Nat → Option Annotation
  | a, [] => some a
  | a, i :: place => a.arguments[i]?.bind (fun argument => argument.at? place)

/-- A model stands at a place, and none at any place before it. -/
def FirstAt (a : Annotation) (place : List Nat) (m : ModelName) : Prop :=
  a.at? place = some (.model m) ∧
    ∀ earlier, earlier < place → ∀ other, a.at? earlier ≠ some (.model other)

variable {a b : Annotation} {m : ModelName} {place : List Nat}

/-- Only one model stands at a first place. -/
theorem FirstAt.unique {other : ModelName} {elsewhere : List Nat} (first : a.FirstAt place m)
    (again : a.FirstAt elsewhere other) : m = other := by
  rcases lt_trichotomy place elsewhere with before | rfl | after
  · exact absurd first.1 (again.2 place before m)
  · have same := first.1.symm.trans again.1
    cases same
    rfl
  · exact absurd again.1 (first.2 elsewhere after other)

end Annotation

end SearchQuery
