import SearchQuery.Proofs.Answered
import SearchQuery.Proofs.Builders
import SearchQuery.Script.Library.Fields

/-!
# Which values are geometries

A geometry is read from the entries of a dictionary: one that is given, that of
a position, or one by which an object describes itself.  It needs one of some
types and coordinates.  What else is given is reported, save where the check
itself fails on the way: it compares a type by its hash before it looks at it,
it writes out a type that is not among them, with whatever numbers it holds, and
it goes through whatever an object describes itself by, which need not be a
dictionary, and may yet make one.
-/

namespace SearchQuery

open Outcome (FailsAs)

/-- A value describes its geometry by the entries of a dictionary: those of the document of a
position, its own, or those of a dictionary that it exposes. -/
inductive Value.Describes : Value → List (Value × Value) → Prop where
  | position {p : GeoPoint} {entries : List (Value × Value)} (drawn : p.render = .dict entries) :
      Describes (.node (.point p)) entries
  | dictionary (entries : List (Value × Value)) : Describes (.dict entries) entries
  | exposed {v : Value} {entries : List (Value × Value)}
      (outline : v.outline? = some (.dict entries)) : Describes v entries

/-- Entries that make a geometry of one of some types: such a type, and coordinates. -/
structure Geometry.Drawn (allowed : List String) (entries : List (Value × Value)) : Prop where
  typed : ∃ name ∈ allowed, Value.lookup "type" entries = some (.text name)
  located : ∃ w, Value.lookup "coordinates" entries = some w

/-- A value that is described by entries that make a geometry of one of some types. -/
def Value.Draws (allowed : List String) (v : Value) : Prop :=
  ∃ entries, v.Describes entries ∧ Geometry.Drawn allowed entries

/-- An outcome decides a value: there is a result if the value is a geometry of one of some types,
and else a report of an argument. -/
structure Geometry.Decides {α : Type} (allowed : List String) (argument : String) (v : Value)
    (outcome : Checked α) : Prop where
  accepts : (∃ a, outcome = .ok a) ↔ v.Draws allowed
  refuses : ¬ v.Draws allowed →
    ∃ value reason, outcome = .error (.invalid argument value reason)

/-- Entries with a type that cannot be hashed, or that cannot be written: it holds an integer of
too many digits. -/
def Geometry.Mistyped (entries : List (Value × Value)) : Prop :=
  ((Value.lookup "type" entries).getD .null).hashable = false ∨
    ((Value.lookup "type" entries).getD .null).isWritable = false

/-- A value that the check for geometries does not decide: one whose type cannot be hashed or cannot
be written, one that describes itself by what cannot be read as a dictionary, or by what is none and
is read as one that makes a geometry or has such a type, and the class of positions, whose
description belongs to its positions. -/
inductive Value.Escapes (allowed : List String) : Value → Prop where
  | mistyped {v : Value} {entries : List (Value × Value)} (described : v.Describes entries)
      (mistyped : Geometry.Mistyped entries) : Escapes allowed v
  | unreadable {v w : Value} {fault : Fault Value} (outline : v.outline? = some w)
      (read : w.toEntries = .error fault) : Escapes allowed v
  | gathered {v w : Value} {entries : List (Value × Value)} (outline : v.outline? = some w)
      (other : ∀ own, w ≠ .dict own) (read : w.toEntries = .ok entries)
      (passed : Geometry.Drawn allowed entries ∨ Geometry.Mistyped entries) : Escapes allowed v
  | ownClass (home : String) : Escapes allowed (.node (.classNamed home "GeoPoint"))

/-! ## Descriptions -/

section

variable {argument : String} {v w : Value} {entries others : List (Value × Value)}

theorem Value.toPair_fails (v : Value) : FailsAs Fault.Foreign v.toPair := by
  refine .bind v.toItems_fails (fun items _ => ?_)
  split
  · exact .ok _
  · exact .error trivial

/-- Reading a value as a dictionary fails only for the host. -/
theorem Value.toEntries_fails (v : Value) : FailsAs Fault.Foreign v.toEntries := by
  unfold toEntries
  split
  · exact .ok _
  · exact .error trivial
  · refine .bind (toItems_fails _) (fun items _ => .foldlM (fun entries item => ?_) _ _)
    refine .bind item.toPair_fails (fun ⟨key, second⟩ _ => ?_)
    dsimp only
    split
    · exact .ok _
    · exact .error trivial

theorem Geometry.description_of_outline (outline : v.outline? = some w) :
    description argument v = w.toEntries := by
  unfold Value.outline? at outline
  split at outline
  · cases outline
    rfl
  · simp only [description, outline]
  · simp only [description, outline]
  · cases outline

theorem Value.Describes.description (described : v.Describes entries) (argument : String) :
    Geometry.description argument v = .ok entries := by
  cases described with
  | position drawn =>
      unfold Geometry.description
      dsimp only
      rw [drawn]
  | dictionary => rfl
  | exposed outline => exact Geometry.description_of_outline outline

theorem Value.Describes.unique (first : v.Describes entries) (second : v.Describes others) :
    others = entries :=
  Except.ok.inj ((second.description "").symm.trans (first.description ""))

end

/-! ## Decisions -/

namespace Geometry

section

variable {α β : Type} {allowed others : List String} {argument : String} {v w : Value}
  {entries : List (Value × Value)} {outcome : Checked α}

end

end Geometry

namespace Library

/-- A set of names consists of these names. -/
theorem setOfNames?_typeSet (names : List String) : setOfNames? (typeSet names) = some names := by
  unfold typeSet setOfNames?
  dsimp only
  induction names with
  | nil => rfl
  | cons name rest ih => simp [ih]

/-- Among a set of names, a geometry is encoded as among the names in alphabetical order. -/
theorem encodeAmong_typeSet (c : Catalog) (v : Value) (names : List String) (argument : String) :
    encodeAmong c v (typeSet names) argument =
      Geometry.encode (names.mergeSort (fun a b => decide (a ≤ b))) argument v := by
  unfold encodeAmong
  rw [setOfNames?_typeSet]

end Library

/-! ## Takers -/

namespace Geometry

/-- A use of a geometry: its encoding among some types, or its place among the arguments of a
builder. -/
inductive Taker where
  | encoding (names : List String) (argument : String)
  | within (path score : Value)
  | shape (path relation score : Value)
  | bottomLeft (topRight : Value)
  | topRight (bottomLeft : Value)
  | center (radius : Value)

namespace Taker

def allowed : Taker → List String
  | .encoding names _ => names
  | .within .. => polygonTypes
  | .shape .. => shapeTypes
  | _ => ["Point"]

def argument : Taker → String
  | .encoding _ argument => argument
  | .within .. => "geometry"
  | .shape .. => "geometry"
  | .bottomLeft _ => "bottom_left"
  | .topRight _ => "top_right"
  | .center _ => "center"

/-- The geometry is given at its place, with the other arguments beside it. -/
def take (c : Catalog) (v : Value) : Taker → Checked Value
  | .encoding names argument => Library.encodeAmong c v (Library.typeSet names) argument
  | .within path score => (Operator.makeGeoWithin path v score).map .ofOperator
  | .shape path relation score => (Operator.makeGeoShape path v relation score).map .ofOperator
  | .bottomLeft other => (GeoBox.build v other).map (fun b => .node (.box b))
  | .topRight other => (GeoBox.build other v).map (fun b => .node (.box b))
  | .center radius => (GeoCircle.build v radius).map (fun c => .node (.circle c))

end Taker

def squareCorners : Value :=
  .list [.tuple [.tuple [.int 0, .int 0], .tuple [.int 0, .int 1], .tuple [.int 1, .int 1],
    .tuple [.int 1, .int 0], .tuple [.int 0, .int 0]]]

/-- An object that describes itself by a square, with a member more than a geometry needs. -/
def squareShape : Value :=
  .shape 0 (.object [("type", .text "Polygon"), ("bbox", .list [.int 0, .int 0, .int 1, .int 1]),
    ("coordinates", squareCorners)])

end Geometry

end SearchQuery
