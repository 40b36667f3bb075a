import SearchQuery.Build.Guard

/-!
# Building the parts of definitions

Options, scores, spans, facets and geographic values are made by constructors
that check what they are given.
-/

namespace SearchQuery

/-!
## Building options
-/

namespace Fuzzy

/-- Fuzzy settings: one or two edits, a prefix that is not negative, and a
positive count of expansions, each of them optional. -/
def build (maxEdits prefixLength maxExpansions : Value) : Checked Fuzzy := do
  let edits ← Guard.optional (Guard.integerBetween 1 2) "max_edits" maxEdits
  let kept ← Guard.optional Guard.naturalInteger "prefix_length" prefixLength
  let expansions ← Guard.optional Guard.positiveInteger "max_expansions" maxExpansions
  return ⟨edits, kept, expansions⟩

end Fuzzy

namespace Count

def type? : Value → Option CountType
  | .node (.choice (.count type)) => some type
  | _ => none

/-- Count settings: a count type and, optionally, a positive threshold. -/
def build (type threshold : Value) : Checked Count := do
  let type ← Guard.expect ["CountType"] type? "type" type
  let threshold ← Guard.optional Guard.positiveInteger "threshold" threshold
  return ⟨type, threshold⟩

end Count

namespace Highlight

/-- Highlight settings: a path and, optionally, two positive limits. -/
def build (path maxChars maxPassages : Value) : Checked Highlight := do
  let path ← Guard.path "path" path
  let chars ← Guard.optional Guard.positiveInteger "max_chars_to_examine" maxChars
  let passages ← Guard.optional Guard.positiveInteger "max_num_passages" maxPassages
  return ⟨path, chars, passages⟩

def make (path maxChars maxPassages : Value) : Checked Highlight := do
  let path ← Path.coerce path
  build (.node (.path path)) maxChars maxPassages

end Highlight

/-!
## Building scores

Boosts and constant scores are positive, the scale of a decay is positive, and
its rate lies strictly between zero and one.
-/

namespace ScoreFunction

def expect : String → Value → Checked ScoreFunction :=
  Guard.expect ["ScoreFunction"]
    (fun v => match v with | .node (.expression f) => some f | _ => none)

def ofPath (path undefined : Value) : Checked ScoreFunction := do
  let p ← Guard.path "path" path
  let u ← Guard.number "undefined" undefined
  return .path p u

def ofConstant (value : Value) : Checked ScoreFunction := do
  let x ← Guard.number "value" value
  return .constant x

/-- The expressions of a tuple, at least two of them. -/
def operands (operator : String) (children : Value) : Checked (List ScoreFunction) := do
  let items ← Guard.tuple "children" children
  if items.length < 2 then throw (.invalid "children" children (.fewExpressions operator))
  Guard.each (expect "children") items

def ofOperands (way : Combination) (children : Value) : Checked ScoreFunction := do
  let fs ← operands way.word children
  return .combined way fs

def rate (argument : String) (v : Value) : Checked Number := do
  let x ← Guard.number argument v
  if Number.lt (.int 0) x && x.lt (.int 1) then return x
  else throw (Guard.outside argument v x .notStrictlyInside)

def ofGauss (path origin scale decay offset : Value) : Checked ScoreFunction := do
  let p ← Guard.path "path" path
  let origin ← Guard.number "origin" origin
  let scale ← Guard.positive "scale" scale
  let decay ← Guard.optional rate "decay" decay
  let offset ← Guard.optional Guard.number "offset" offset
  return .gauss p origin scale decay offset

def ofOperand (way : Transform) (child : Value) : Checked ScoreFunction := do
  let f ← expect "child" child
  return .transformed way f

/-- The value of anything that a path can be made from. -/
def makePath (path undefined : Value) : Checked ScoreFunction := do
  let p ← Path.coerce path
  ofPath (.node (.path p)) undefined

def makeGauss (path origin scale decay offset : Value) : Checked ScoreFunction := do
  let p ← Path.coerce path
  ofGauss (.node (.path p)) origin scale decay offset

end ScoreFunction

namespace Score

def ofBoost (value : Value) : Checked Score := do
  let x ← Guard.positive "value" value
  return .boost x

def ofBoostPath (path undefined : Value) : Checked Score := do
  let p ← Guard.path "path" path
  let u ← Guard.number "undefined" undefined
  return .boostPath p u

def ofConstant (value : Value) : Checked Score := do
  let x ← Guard.positive "value" value
  return .constant x

def ofFunction (function : Value) : Checked Score := do
  let f ← ScoreFunction.expect "function" function
  return .function f

def makeBoostPath (path undefined : Value) : Checked Score := do
  let p ← Path.coerce path
  ofBoostPath (.node (.path p)) undefined

end Score

/-!
## Building spans
-/

namespace Span

def expect : String → Value → Checked Span :=
  Guard.expect ["SpanDefinition"] (fun v => match v with | .node (.span s) => some s | _ => none)

def clauses (argument : String) (v : Value) : Checked (List Span) := do
  let items ← Guard.tuple argument v
  if items.isEmpty then throw (.invalid argument v .noClause)
  Guard.each (expect argument) items

def ofTerm (query path : Value) : Checked Span := do
  let q ← Guard.query "query" query
  let p ← Guard.path "path" path
  return .term q p

def ofFirst (operator endPosition : Value) : Checked Span := do
  let s ← expect "operator" operator
  let w ← Guard.integer "end_position_lte" endPosition
  if w.value < 1 then
    throw (Guard.outside "end_position_lte" endPosition (.whole w) .lessThanOne)
  return .first s w

def ofNear (spans slop inOrder : Value) : Checked Span := do
  let ss ← clauses "clauses" spans
  let w ← Guard.naturalInteger "slop" slop
  let b ← Guard.flag "in_order" inOrder
  return .near ss w b

def ofAlternatives (spans : Value) : Checked Span := do
  let ss ← clauses "clauses" spans
  return .either ss

/-- A span without those that overlap another. -/
def ofSubtract (kept removed : Value) : Checked Span := do
  let k ← expect "include" kept
  let r ← expect "exclude" removed
  return .subtract k r

def makeTerm (query path : Value) : Checked Span := do
  let q ← Query.coerce query
  let p ← Path.coerce path
  ofTerm (.node (.query q)) (.node (.path p))

/-- Spans near one another, from anything that can be gone through. -/
def makeNear (spans slop inOrder : Value) : Checked Span := do
  let items ← spans.toItems
  ofNear (.tuple items) slop inOrder

end Span

def Operator.ofSpan (definition : Value) : Checked (Operator Value) := do
  let s ← Span.expect "definition" definition
  return .span s

/-!
## Building facets

Boundaries are at least two and strictly increasing.  They are compared from
the first on: a neighbouring pair that does not increase is reported before a
later pair that does not compare, and the other way round.
-/

namespace Facet

def expect : String → Value → Checked Facet :=
  Guard.expect ["SearchFacet"] (fun v => match v with | .node (.facet f) => some f | _ => none)

def ofString (name path buckets : Value) : Checked Facet := do
  let n ← Guard.text "name" name
  let p ← Guard.path "path" path
  let w ← Guard.integerBetween 1 1000 "num_buckets" buckets
  return .string n p w

/-- The values of a tuple that are boundaries of one kind, at least two. -/
def boundaries {α : Type} (facet : String) (select : Value → Option α) (v : Value) :
    Checked (List α) := do
  let items ← Guard.tuple "boundaries" v
  if items.length < 2 then throw (.invalid "boundaries" v .fewBoundaries)
  Guard.each (fun item =>
    match select item with
    | some a => .ok a
    | none => .error (.invalid "boundaries" item (.expectedBoundary facet item.kind))) items

/-- The first fault of a list of boundaries: a pair that does not compare or
does not increase. -/
def firstDisorder {α : Type} (comparable notBelow : α → α → Bool) : List α → Option Reason
  | low :: high :: rest =>
    if !comparable low high then some .incomparable
    else if notBelow low high then some .notIncreasing
    else firstDisorder comparable notBelow (high :: rest)
  | _ => none

def outsideName : Value → Checked (Option Words) :=
  Guard.optional Guard.text "default"

def ofNumbers (name path bounds outside : Value) : Checked Facet := do
  let n ← Guard.text "name" name
  let p ← Guard.path "path" path
  let xs ← boundaries "number" Value.asNumber? bounds
  match firstDisorder (fun _ _ => true) (fun low high => Number.le high low) xs with
  | some reason => throw (.invalid "boundaries" bounds reason)
  | none =>
    let o ← outsideName outside
    return .number n p xs o

def ofDates (name path bounds outside : Value) : Checked Facet := do
  let n ← Guard.text "name" name
  let p ← Guard.path "path" path
  let ts ← boundaries "date"
    (fun v => match v with | .dateTime t => some t | _ => none) bounds
  match firstDisorder DateTime.comparable (fun low high => !low.before high) ts with
  | some reason => throw (.invalid "boundaries" bounds reason)
  | none =>
    let o ← outsideName outside
    return .date n p ts o

/-- Counts per distinct value, over anything a path can be made from. -/
def makeString (name path buckets : Value) : Checked Facet := do
  let p ← Path.coerce path
  ofString name (.node (.path p)) buckets

/-- Counts per numeric interval, with anything that can be gone through as boundaries. -/
def makeNumbers (name path bounds outside : Value) : Checked Facet := do
  let p ← Path.coerce path
  let items ← bounds.toItems
  ofNumbers name (.node (.path p)) (.tuple items) outside

/-- Counts per interval of time, with anything that can be gone through as boundaries. -/
def makeDates (name path bounds outside : Value) : Checked Facet := do
  let p ← Path.coerce path
  let items ← bounds.toItems
  ofDates name (.node (.path p)) (.tuple items) outside

/-- The facets of a list, each with a name that no earlier one has.  Code is
never compared with the names seen so far: it can be no member of a set. -/
def distinctNames (seen : List String) : List Value → Checked (List Facet)
  | [] => .ok []
  | v :: rest => do
    let f ← expect "facets" v
    if f.name.isCode then throw (.refused .wrongType)
    if seen.contains f.name.text then
      throw (.invalid "facets" (.text f.name.text) (.duplicateFacet f.name.text))
    let others ← distinctNames (f.name.text :: seen) rest
    return f :: others

end Facet

def Operator.ofFacets (operator facets : Value) : Checked (Operator Value) := do
  let op ← Guard.operator "operator" operator
  let items ← Guard.tuple "facets" facets
  if items.isEmpty then throw (.invalid "facets" facets .noFacet)
  let fs ← Facet.distinctNames [] items
  return .facet op fs

/-!
## Building geographic values

A geometry is read from a position, from a dictionary with a type and
coordinates, or from an object that describes itself by one.  Tuples among its
coordinates become lists.
-/

mutual

/-- Coordinates with every tuple turned into a list, as deep as lists and tuples go. -/
def Value.listify : Value → Value
  | .list items => .list (Value.listifyAll items)
  | .tuple items => .list (Value.listifyAll items)
  | .null => .null
  | .bool b => .bool b
  | .number x => .number x
  | .decimal d => .decimal d
  | .text s => .text s
  | .bytes b => .bytes b
  | .dateTime t => .dateTime t
  | .day d => .day d
  | .objectId o => .objectId o
  | .special s => .special s
  | .set items => .set items
  | .dict entries => .dict entries
  | .stream tag items => .stream tag items
  | .shape tag outline => .shape tag outline
  | .blank tag => .blank tag
  | .node n => .node n

def Value.listifyAll : List Value → List Value
  | [] => []
  | v :: rest => Value.listify v :: Value.listifyAll rest

end

namespace GeoPoint

def build (longitude latitude : Value) : Checked GeoPoint := do
  let _ ← Guard.number "longitude" longitude
  let _ ← Guard.number "latitude" latitude
  let x ← Guard.between (.int (-180)) (.int 180) "longitude" longitude
  let y ← Guard.between (.int (-90)) (.int 90) "latitude" latitude
  return ⟨x, y⟩

def outline (p : GeoPoint) : Value :=
  .object [("type", .text "Point"),
    ("coordinates", .tuple [.number p.longitude, .number p.latitude])]

end GeoPoint

namespace Geometry

def description (argument : String) (v : Value) : Checked (List (Value × Value)) :=
  let describedBy : Option Value → Checked (List (Value × Value)) := fun found =>
    match found with
    | some outline => outline.toEntries
    | none => .error (.invalid argument v .expectedGeometry)
  match v with
  | .null => .error (.invalid argument v .missing)
  | .node (.point p) =>
    match p.render with
    | .dict entries => .ok entries
    | _ => .ok []
  | .dict entries => .ok entries
  | .shape _ outline => outline.toEntries
  | .node (.pointer _ _ _ others) => describedBy (Value.lookup "__geo_interface__" others)
  | .node (.bundle named) => describedBy (Value.named? "__geo_interface__" named)
  | .node (.classNamed _ "GeoPoint") => .error (.refused .wrongType)
  | _ => .error (.invalid argument v .expectedGeometry)

def build (allowed : List String) (argument : String) (v : Value) : Checked (Geometry Value) := do
  let entries ← description argument v
  let type := (Value.lookup "type" entries).getD .null
  if !type.hashable then throw (.refused .wrongType)
  let refuse : Checked (Geometry Value) :=
    throw (.worded type.isWritable (.invalid argument v (.geometryType type.shown allowed)))
  match type with
  | .text name =>
    if !allowed.contains name then refuse
    else
      match Value.lookup "coordinates" entries with
      | some coordinates => return ⟨v, name, coordinates.listify⟩
      | none => throw (.invalid argument v .noCoordinates)
  | _ => refuse

def point (argument : String) (v : Value) : Checked (Geometry Value) :=
  build ["Point"] argument v

def encode (allowed : List String) (argument : String) (v : Value) : Checked Value := do
  let g ← build allowed argument v
  return .object [("type", .text g.type), ("coordinates", g.coordinates)]

end Geometry

namespace GeoBox

def build (bottomLeft topRight : Value) : Checked (GeoBox Value) := do
  let low ← Geometry.point "bottom_left" bottomLeft
  let high ← Geometry.point "top_right" topRight
  return ⟨low, high⟩

end GeoBox

namespace GeoCircle

def build (center radius : Value) : Checked (GeoCircle Value) := do
  let c ← Geometry.point "center" center
  let r ← Guard.positive "radius" radius
  return ⟨c, r⟩

end GeoCircle

end SearchQuery
