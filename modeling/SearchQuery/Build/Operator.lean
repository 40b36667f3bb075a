import SearchQuery.Build.Node

/-!
# Operators, ranges and compounds

Operators are made by constructors that check what they are given; ranges and
compounds also grow by one bound or some clauses at a time.
-/

namespace SearchQuery

/-!
## Building operators

Every operator has two constructors: a strict one that takes its parts as they
are and checks them in order, and a lenient one that first makes the query and
the path from anything they can be made from.
-/

namespace Operator

def ofText (query path fuzzy score : Value) : Checked (Operator Value) := do
  let q ← Guard.query "query" query
  let p ← Guard.path "path" path
  let f ← Guard.fuzzy fuzzy
  let s ← Guard.score score
  return .text q p f s

def ofPhrase (query path slop score : Value) : Checked (Operator Value) := do
  let q ← Guard.query "query" query
  let p ← Guard.path "path" path
  let n ← Guard.naturalInteger "slop" slop
  let s ← Guard.score score
  return .phrase q p n s

def ofAutocomplete (query path order fuzzy score : Value) : Checked (Operator Value) := do
  let q ← Guard.query "query" query
  let p ← Guard.path "path" path
  let o ← Guard.expect ["AutocompleteTokenOrder"]
    (fun v => match v with | .node (.choice (.order o)) => some o | _ => none) "token_order" order
  let f ← Guard.fuzzy fuzzy
  let s ← Guard.score score
  return .autocomplete q p o f s

def ofPattern (form : PatternForm) (query path analyzed score : Value) :
    Checked (Operator Value) := do
  let q ← Guard.query "query" query
  let p ← Guard.path "path" path
  let a ← Guard.flag "allow_analyzed_field" analyzed
  let s ← Guard.score score
  return .pattern form q p a s

def ofQueryString (defaultPath query score : Value) : Checked (Operator Value) := do
  let f ← Guard.field "default_path" defaultPath
  let q ← Guard.anyText "query" query
  let s ← Guard.score score
  return .queryString f q s

/-- A truth value or an identifier, matched exactly. -/
def ofEquals (path value score : Value) : Checked (Operator Value) := do
  let f ← Guard.field "path" path
  let v ← Guard.expect ["bool", "ObjectId"]
    (fun v => match v with
      | .bool b => some (Exact.flag b)
      | .objectId o => some (Exact.id o)
      | _ => none) "value" value
  let s ← Guard.score score
  return .equals f v s

def ofExistence (path : Value) : Checked (Operator Value) := do
  let f ← Guard.field "path" path
  return .existence f

/-- The point that a value marks: a number, a date-time or a position. -/
def origin (v : Value) : Checked Origin :=
  match v with
  | .number x => .ok (.number x)
  | .dateTime t => .ok (.date t)
  | .node (.point p) => .ok (.point p)
  | _ => .error (.invalid "origin" v .expectedOrigin)

def ofNear (path origin pivot score : Value) : Checked (Operator Value) := do
  let p ← Guard.path "path" path
  let o ← Operator.origin origin
  let x ← Guard.number "pivot" pivot
  let s ← Guard.score score
  return .near p o x s

def box : String → Value → Checked (GeoBox Value) :=
  Guard.expect ["GeoBox"] (fun v => match v with | .node (.box b) => some b | _ => none)

def circle : String → Value → Checked (GeoCircle Value) :=
  Guard.expect ["GeoCircle"] (fun v => match v with | .node (.circle c) => some c | _ => none)

def area (geometry box circle : Value) : Checked (Area Value) :=
  match geometry, box, circle with
  | g, .null, .null =>
    match g with
    | .null => .error (.invalid "geometry" (.list []) .oneArea)
    | g => do
      let g ← Geometry.build polygonTypes "geometry" g
      return .geometry g
  | .null, b, .null => do
    let b ← Operator.box "box" b
    return .box b
  | .null, .null, c => do
    let c ← Operator.circle "circle" c
    return .circle c
  | .null, b, c => .error (.invalid "geometry" (.list [b, c]) .oneArea)
  | g, .null, c => .error (.invalid "geometry" (.list [g, c]) .oneArea)
  | g, b, .null => .error (.invalid "geometry" (.list [g, b]) .oneArea)
  | g, b, c => .error (.invalid "geometry" (.list [g, b, c]) .oneArea)

def ofGeoWithin (path geometry box circle score : Value) : Checked (Operator Value) := do
  let p ← Guard.path "path" path
  let a ← area geometry box circle
  let s ← Guard.score score
  return .geoWithin p a s

def ofGeoShape (path geometry relation score : Value) : Checked (Operator Value) := do
  let p ← Guard.path "path" path
  let g ← Geometry.build shapeTypes "geometry" geometry
  let r ← Guard.expect ["GeoShapeRelation"]
    (fun v => match v with | .node (.choice (.relation r)) => some r | _ => none)
    "relation" relation
  let s ← Guard.score score
  return .geoShape p g r s

def ofRaw (document : Value) : Checked (Operator Value) := do
  let entries ← Guard.expect ["Mapping"]
    (fun v => match v with | .dict entries => some entries | _ => none) "document" document
  return .raw entries

def makeText (query path fuzzy score : Value) : Checked (Operator Value) := do
  let q ← Query.coerce query
  let p ← Path.coerce path
  ofText (.node (.query q)) (.node (.path p)) fuzzy score

/-- An ordered sequence of terms, for anything texts can be taken from. -/
def makePhrase (query path slop score : Value) : Checked (Operator Value) := do
  let q ← Query.coerce query
  let p ← Path.coerce path
  ofPhrase (.node (.query q)) (.node (.path p)) slop score

/-- Search as one types, for anything texts can be taken from. -/
def makeAutocomplete (query path order fuzzy score : Value) : Checked (Operator Value) := do
  let q ← Query.coerce query
  let p ← Path.coerce path
  ofAutocomplete (.node (.query q)) (.node (.path p)) order fuzzy score

/-- Terms with wildcards, or regular expressions, for anything texts can be taken from. -/
def makePattern (form : PatternForm) (query path analyzed score : Value) :
    Checked (Operator Value) := do
  let q ← Query.coerce query
  let p ← Path.coerce path
  ofPattern form (.node (.query q)) (.node (.path p)) analyzed score

/-- Proximity over anything a path can be made from. -/
def makeNear (path origin pivot score : Value) : Checked (Operator Value) := do
  let p ← Path.coerce path
  ofNear (.node (.path p)) origin pivot score

def makeGeoWithin (path geometry score : Value) : Checked (Operator Value) := do
  let p ← Path.coerce path
  ofGeoWithin (.node (.path p)) geometry .null .null score

def makeGeoWithinBox (path box score : Value) : Checked (Operator Value) := do
  let p ← Path.coerce path
  ofGeoWithin (.node (.path p)) .null box .null score

def makeGeoWithinCircle (path circle score : Value) : Checked (Operator Value) := do
  let p ← Path.coerce path
  ofGeoWithin (.node (.path p)) .null .null circle score

def makeGeoShape (path geometry relation score : Value) : Checked (Operator Value) := do
  let p ← Path.coerce path
  ofGeoShape (.node (.path p)) geometry relation score

end Operator

/-!
## Building ranges

A range starts with a path and no bound.  The first bound makes it usable; the
second may only be on the other side.  Bounds are numbers or date-times, both
of one kind.
-/

/-- A bound before its value is known to be a number or a date-time. -/
structure LooseBound where
  value : Value
  inclusive : Value

namespace LooseBound

def toValue (b : LooseBound) : Value :=
  .node (.bound b.value b.inclusive)

def check (argument : String) (b : LooseBound) : Checked (Bound Value) :=
  match b.value with
  | .number x => .ok ⟨.number x, b.inclusive⟩
  | .dateTime t => .ok ⟨.date t, b.inclusive⟩
  | v => .error (.invalid argument v (.expectedBound v.kind))

end LooseBound

namespace Range

def looseBound : String → Value → Checked LooseBound :=
  Guard.expect ["RangeBound"]
    (fun v => match v with
      | .node (.bound value inclusive) => some ⟨value, inclusive⟩
      | _ => none)

def bound (argument : String) (v : Value) : Checked (Option (Bound Value)) :=
  match v with
  | .null => .ok none
  | v => do
    let loose ← looseBound argument v
    let b ← loose.check argument
    return some b

/-- Whether two bounds, as far as they are given, are of one kind. -/
def agree : Option (Bound Value) → Option (Bound Value) → Bool
  | some lower, some upper => lower.limit.sameKind upper.limit
  | _, _ => true

/-- A range with the bounds that are given, at least one. -/
def build (form : RangeForm) (path lower upper score : Value) : Checked (Operator Value) := do
  let p ← Guard.path "path" path
  match lower, upper with
  | .null, .null => throw (.invalid "range" .null .noBound)
  | _, _ =>
    let low ← bound "lower" lower
    let high ← bound "upper" upper
    if !agree low high then
      throw (.invalid "range" (.tuple [lower, upper]) .mixedBounds)
    let s ← Guard.score score
    return .range form p low high s

/-- A path and perhaps a score, without a bound so far. -/
structure Start where
  path : Path
  score : Option Score

def start (path score : Value) : Checked Start := do
  let p ← Guard.path "path" path
  let s ← Guard.score score
  return ⟨p, s⟩

def make (path score : Value) : Checked Start := do
  let p ← Path.coerce path
  start (.node (.path p)) score

/-- A side of a range, and whether the bound on it is taken in. -/
inductive Side where
  | lower (inclusive : Bool)
  | upper (inclusive : Bool)
deriving DecidableEq

namespace Side

def ofMethod? : String → Option Side
  | "gt" => some (.lower false)
  | "gte" => some (.lower true)
  | "lt" => some (.upper false)
  | "lte" => some (.upper true)
  | _ => none

end Side

def boundValue (value : Value) (inclusive : Bool) : Value :=
  .node (.bound value (.bool inclusive))

def first (start : Start) (side : Side) (value : Value) : Checked (Operator Value) :=
  match side with
  | .lower inclusive =>
    build .lowerBounded (.node (.path start.path)) (boundValue value inclusive) .null
      (.ofScore start.score)
  | .upper inclusive =>
    build .upperBounded (.node (.path start.path)) .null (boundValue value inclusive)
      (.ofScore start.score)

def second? (form : RangeForm) (path : Path) (lower upper : Option (Bound Value)) (score : Option Score)
    (side : Side) (value : Value) : Option (Checked (Operator Value)) :=
  match form, side with
  | .lowerBounded, .upper inclusive =>
    some (build .complete (.node (.path path)) (.ofBound lower)
      (boundValue value inclusive) (.ofScore score))
  | .upperBounded, .lower inclusive =>
    some (build .complete (.node (.path path)) (boundValue value inclusive)
      (.ofBound upper) (.ofScore score))
  | _, _ => none

end Range

/-!
## Building compounds

A compound has four lists of clauses, each of them absent until a clause is
given.  Clauses given to one list over several calls accumulate in order.
-/

namespace Compound

/-- The four lists of clauses. -/
inductive Role where
  | must
  | mustNot
  | should
  | filter
deriving DecidableEq

namespace Role

def method : Role → String
  | .must => "must"
  | .mustNot => "must_not"
  | .should => "should"
  | .filter => "filter"

def field : Role → String
  | .must => "must_clauses"
  | .mustNot => "must_not_clauses"
  | .should => "should_clauses"
  | .filter => "filter_clauses"

def ofMethod? (name : String) : Option Role :=
  [Role.must, .mustNot, .should, .filter].find? (fun role => role.method == name)

end Role

/-- The arguments of one call that should be clauses: the arguments themselves,
or the elements of the only one if that can be gone through. -/
def candidates : List Value → List Value
  | [only] => only.elements?.getD [only]
  | several => several

def clauses (argument : String) (given : List Value) : Checked (List (Operator Value)) := do
  let items := candidates given
  if items.isEmpty then throw (.invalid argument (.tuple []) .noClause)
  Guard.each (Guard.operator argument) items

def clauseList (argument : String) (v : Value) : Checked (Option (List (Operator Value))) :=
  match v with
  | .null => .ok none
  | v => do
    let items ← Guard.tuple argument v
    let ops ← Guard.each (Guard.operator argument) items
    return some ops

def build (must mustNot should filter minimum score : Value) : Checked (Operator Value) := do
  let m ← clauseList Role.must.field must
  let n ← clauseList Role.mustNot.field mustNot
  let s ← clauseList Role.should.field should
  let f ← clauseList Role.filter.field filter
  let least ← Guard.naturalInteger "minimum_should_match" minimum
  let score ← Guard.score score
  return .compound m n s f least score

/-- A compound without clauses. -/
def make (score : Value) : Checked (Operator Value) :=
  build .null .null .null .null (.int 0) score

def append (existing : Option (List (Operator Value))) (more : List (Operator Value)) :
    Option (List (Operator Value)) :=
  some (existing.getD [] ++ more)

/-- A compound with clauses added to one of its lists; other operators have none. -/
def add (role : Role) (given : List Value) : Operator Value → Checked (Operator Value)
  | .compound must mustNot should filter minimum score => do
    let more ← clauses role.method given
    return match role with
      | .must => .compound (append must more) mustNot should filter minimum score
      | .mustNot => .compound must (append mustNot more) should filter minimum score
      | .should => .compound must mustNot (append should more) filter minimum score
      | .filter => .compound must mustNot should (append filter more) minimum score
  | op => .ok op

/-- A compound that needs a number of its `should` clauses to match. -/
def atLeast (minimum : Value) : Operator Value → Checked (Operator Value)
  | .compound must mustNot should filter _ score => do
    let least ← Guard.naturalInteger "minimum_should_match" minimum
    return .compound must mustNot should filter least score
  | op => .ok op

end Compound

end SearchQuery
