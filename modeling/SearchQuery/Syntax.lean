import SearchQuery.Term

/-!
# Definitions

The syntax of search definitions: fields and schemas, the texts and the paths
that are searched, options, scores, spans, facets, geographic values, ranges, and
the operators made of them.
-/

namespace SearchQuery

/-!
## Field references

A definition names the fields it searches either by a text or by a reference
to a member of a model, reached by a chain of member names.  A reference made
by hand may have anything for its model and its chain; whether it leads
anywhere is only found out when it is used.
-/

/-- A member of a model, reached by a chain of member names. -/
structure FieldRef where
  owner : ModelName
  parts : List String
deriving DecidableEq

/-- A field: by name, by reference, or by a reference that is not known to be
a chain of names from a model. -/
inductive Field where
  | name (s : Words)
  | ref (r : FieldRef)
  | loose (owner parts : Term)

/-- Why a reference has no member of some name. -/
inductive AccessError where
  | brokenChain (part : String)
  | notNested (r : FieldRef)
  | noMember (model : ModelName) (name : String)
deriving DecidableEq

namespace FieldRef

/-- The reference written as a dotted name that starts with its model. -/
def text (r : FieldRef) : String :=
  r.owner.name ++ "." ++ Text.dotted r.parts

/-- The reference to a member of the model that a reference leads to. -/
def member (c : Catalog) (r : FieldRef) (name : String) : Except AccessError FieldRef :=
  match c.reach (some r.owner) r.parts with
  | .error part => .error (.brokenChain part)
  | .ok none => .error (.notNested r)
  | .ok (some target) =>
    if ((c target).member? name).isSome then .ok ⟨r.owner, r.parts ++ [name]⟩
    else .error (.noMember target name)

def ofMember (c : Catalog) (owner : ModelName) (name : String) : Except AccessError FieldRef :=
  if ((c owner).member? name).isSome then .ok ⟨owner, [name]⟩
  else .error (.noMember owner name)

end FieldRef

namespace FieldRef

def names? (terms : List Term) : Option (List String) :=
  terms.mapM (fun t => match t with | .text name => some name | _ => none)

def ofTerms? : Term → Term → Option FieldRef
  | .model owner, .tuple parts => (names? parts).map (fun names => ⟨owner, names⟩)
  | _, _ => none

end FieldRef

namespace Field

def ofTerms (owner parts : Term) : Field :=
  match FieldRef.ofTerms? owner parts with
  | some r => .ref r
  | none => .loose owner parts

end Field

/-!
## Schemas

A schema turns field references into the names under which the fields are
stored: names as given, names looked up in a model, or names with a text in
front.  Two further things count as schemas: what merely offers the name of
the operation and fails as soon as it is used.
-/

/-- How field references are resolved. -/
inductive Schema where
  | untyped
  | modelled (m : ModelName)
  | prepending (text : String)
  | unusable
deriving DecidableEq

/-- Why a field cannot be resolved. -/
inductive Mismatch where
  | needsModel
  | notText
  | foreign (owner model : String)
  | notField
  | unknown (model segment : String)
  | unknownPart (model shown : String)
deriving DecidableEq

namespace Mismatch

def text : Mismatch → String
  | .needsModel => "typed field references need a ModelSchema"
  | .notText => "expected a field name"
  | .foreign owner model => "member of " ++ owner ++ ", not of " ++ model
  | .notField => "expected a field name or FieldRef"
  | .unknown model segment => model ++ " has no field " ++ Text.quoted segment
  | .unknownPart model shown => model ++ " has no field " ++ shown

end Mismatch

namespace Schema

def serialize (c : Catalog) (m : ModelName) (segments : List String) : Except Mismatch String :=
  match c.storedNames (some m) segments with
  | .ok names => .ok (Text.dotted names)
  | .error unknown => .error (.unknown unknown.model.name unknown.segment)

/-- The stored name of a chain of members.  The chain must start at the model
or at one that it extends. -/
def resolveChain (c : Catalog) (m : ModelName) (r : FieldRef) : Except Mismatch String :=
  if c.inherits m r.owner then serialize c m r.parts
  else .error (.foreign r.owner.name m.name)

/-- The stored name of a dotted name, which must not be empty. -/
def resolveName (c : Catalog) (m : ModelName) (name : String) : Except Mismatch String :=
  if name = "" then .error .notField else serialize c m (Text.segments name)

end Schema

/-!
## Query texts

An operator searches for one text or for any of several.
-/

/-- The literal text an operator searches for. -/
inductive Query where
  | single (text : Words)
  | many (texts : List Words)

/-!
## Paths

The indexed fields an operator searches: one field, several, one field through
an alternate analyzer, or every field whose name matches a pattern.
-/

/-- The fields an operator searches. -/
inductive Path where
  | single (field : Field)
  | many (fields : List Field)
  | analyzed (field : Field) (analyzer : Words)
  | wildcard (pattern : Words)

namespace Path

/-- The fields of a path, which a schema resolves; a pattern has none. -/
def fields : Path → List Field
  | .single field => [field]
  | .many fields => fields
  | .analyzed field _ => [field]
  | .wildcard _ => []

end Path

/-!
## Options

Settings attached to operators and stages.  A setting that is not given is left
to the server.
-/

/-- Approximate matching of terms. -/
structure Fuzzy where
  maxEdits : Option Whole
  prefixLength : Option Whole
  maxExpansions : Option Whole
deriving DecidableEq

/-- How a stage counts matching documents. -/
structure Count where
  type : CountType
  threshold : Option Whole
deriving DecidableEq

/-- The fields for which a stage returns highlighted passages. -/
structure Highlight where
  path : Path
  maxChars : Option Whole
  maxPassages : Option Whole

/-!
## Scores

A score modifies the relevance of an operator's matches, in the most general
case by an arithmetic expression over numeric fields.
-/

/-- How several expressions are combined to one; the most general way has no name. -/
inductive Combination where
  | sum
  | product
  | unnamed
deriving DecidableEq

/-- How one expression is transformed to another; the most general way has no name. -/
inductive Transform where
  | log
  | log1p
  | unnamed
deriving DecidableEq

/-- An arithmetic expression that computes the score of a document. -/
inductive ScoreFunction where
  | path (path : Path) (undefined : Number)
  | relevance
  | constant (value : Number)
  | combined (way : Combination) (children : List ScoreFunction)
  | gauss (path : Path) (origin scale : Number) (decay offset : Option Number)
  | transformed (way : Transform) (child : ScoreFunction)

namespace Combination

def word : Combination → String
  | .sum => "add"
  | .product => "multiply"
  | .unnamed => ""

end Combination

namespace Transform

def word : Transform → String
  | .log => "log"
  | .log1p => "log1p"
  | .unnamed => ""

end Transform

/-- How an operator modifies the score of its matches. -/
inductive Score where
  | boost (value : Number)
  | boostPath (path : Path) (undefined : Number)
  | constant (value : Number)
  | function (expression : ScoreFunction)

/-!
## Spans

Positional queries: terms, terms near the beginning of a field, spans near one
another, alternatives, and spans without those that overlap others.
-/

/-- A positional query. -/
inductive Span where
  | term (query : Query) (path : Path)
  | first (operator : Span) (endPosition : Whole)
  | near (clauses : List Span) (slop : Whole) (inOrder : Bool)
  | either (clauses : List Span)
  | subtract (kept removed : Span)

/-!
## Facets

Bucketed counts computed beside a search, per distinct value or per interval
between boundaries.
-/

/-- A named facet. -/
inductive Facet where
  | string (name : Words) (path : Path) (buckets : Whole)
  | number (name : Words) (path : Path) (boundaries : List Number) (outside : Option Words)
  | date (name : Words) (path : Path) (boundaries : List DateTime) (outside : Option Words)

namespace Facet

def name : Facet → Words
  | .string name .. => name
  | .number name .. => name
  | .date name .. => name

end Facet

/-!
## Geographic values

Positions, boxes, circles and geometries.  A geometry keeps the value it was
given, which is what it is shown and compared as, beside the type and the
coordinates read from it, which is what a document holds.
-/

/-- A position, longitude first. -/
structure GeoPoint where
  longitude : Number
  latitude : Number
deriving DecidableEq

/-- A geometry over given values. -/
structure Geometry (V : Type) where
  given : V
  type : String
  coordinates : V

/-- A box between its bottom-left and top-right corners. -/
structure GeoBox (V : Type) where
  bottomLeft : Geometry V
  topRight : Geometry V

/-- A circle; its radius is in meters. -/
structure GeoCircle (V : Type) where
  center : Geometry V
  radius : Number

/-- The area that a search is restricted to. -/
inductive Area (V : Type) where
  | geometry (g : Geometry V)
  | box (b : GeoBox V)
  | circle (c : GeoCircle V)

/-!
## Range bounds

A range is bounded by numbers or by dates, each bound taken in or left out, as
the truth of a value says.
-/

/-- The value of a bound. -/
inductive Limit where
  | number (x : Number)
  | date (t : DateTime)
deriving DecidableEq

namespace Limit

def sameKind : Limit → Limit → Bool
  | .number _, .number _ => true
  | .date _, .date _ => true
  | _, _ => false

end Limit

/-- A bound, and the value that says whether the range takes it in. -/
structure Bound (V : Type) where
  limit : Limit
  inclusive : V

/-- Which bounds a range still accepts: an upper one, a lower one, or none. -/
inductive RangeForm where
  | lowerBounded
  | upperBounded
  | complete
deriving DecidableEq

/-!
## Operators

The search operators, over the values that geometries and hand-written
documents are made of.
-/

/-- A value that can be matched exactly. -/
inductive Exact where
  | flag (b : Bool)
  | id (o : ObjectId)
deriving DecidableEq

/-- The point from which proximity is measured. -/
inductive Origin where
  | number (x : Number)
  | date (t : DateTime)
  | point (p : GeoPoint)
deriving DecidableEq

/-- The patterns that an operator matches; the most general ones have no name. -/
inductive PatternForm where
  | wildcard
  | regex
  | unnamed
deriving DecidableEq

namespace PatternForm

def word : PatternForm → String
  | .wildcard => "wildcard"
  | .regex => "regex"
  | .unnamed => ""

end PatternForm

/-- A search operator. -/
inductive Operator (V : Type) where
  | text (query : Query) (path : Path) (fuzzy : Option Fuzzy) (score : Option Score)
  | phrase (query : Query) (path : Path) (slop : Whole) (score : Option Score)
  | autocomplete (query : Query) (path : Path) (order : TokenOrder) (fuzzy : Option Fuzzy)
      (score : Option Score)
  | pattern (form : PatternForm) (query : Query) (path : Path) (analyzed : Bool)
      (score : Option Score)
  | queryString (defaultPath : Field) (query : Words) (score : Option Score)
  | equals (path : Field) (value : Exact) (score : Option Score)
  | existence (path : Field)
  | near (path : Path) (origin : Origin) (pivot : Number) (score : Option Score)
  | geoWithin (path : Path) (area : Area V) (score : Option Score)
  | geoShape (path : Path) (geometry : Geometry V) (relation : ShapeRelation)
      (score : Option Score)
  | range (form : RangeForm) (path : Path) (lower upper : Option (Bound V)) (score : Option Score)
  | compound (must mustNot should filter : Option (List (Operator V))) (minimum : Whole)
      (score : Option Score)
  | span (span : Span)
  | facet (operator : Operator V) (facets : List Facet)
  | raw (entries : List (V × V))

end SearchQuery
