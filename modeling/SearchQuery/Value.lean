import SearchQuery.Syntax

/-!
# Faults and values

Definitions are built from values of any kind, and what cannot be built is
refused with a fault.  Every value has a kind, which faults name.
-/

namespace SearchQuery

/-!
## Faults

What can go wrong when a definition is built, resolved or printed.  A refused
argument is reported with its name, its value and the reason; the reasons are
causes, and their wording is in one place.
-/

/-- Why an argument is refused. -/
inductive Reason where
  | missing
  | expectedNumber (got : String)
  | expectedInt (got : String)
  | expectedString (got : String)
  | expectedKind (kinds : List String) (got : String)
  | expectedTexts (got : String)
  | expectedField (got : String)
  | expectedBound (got : String)
  | expectedBoundary (facet got : String)
  | expectedOrigin
  | expectedModel
  | expectedSchema
  | expectedGeometry
  | notPositive (value : String)
  | negative (value : String)
  | lessThanOne (value : String)
  | outside (low high value : String)
  | notStrictlyInside (value : String)
  | empty
  | fewExpressions (operator : String)
  | fewBoundaries
  | notIncreasing
  | incomparable
  | oneArea
  | geometryType (shown : String) (allowed : List String)
  | noCoordinates
  | noClause
  | noFacet
  | duplicateFacet (name : String)
  | noBound
  | mixedBounds
  | notJson
deriving DecidableEq

namespace Reason

def text : Reason → String
  | .missing => "must not be None"
  | .expectedNumber got => "expected a number, got " ++ got
  | .expectedInt got => "expected an int, got " ++ got
  | .expectedString got => "expected a string, got " ++ got
  | .expectedKind kinds got => "expected " ++ " or ".intercalate kinds ++ ", got " ++ got
  | .expectedTexts got => "expected a string or strings, got " ++ got
  | .expectedField got => "expected a field name or FieldRef, got " ++ got
  | .expectedBound got => "expected a number or a datetime, got " ++ got
  | .expectedBoundary facet got => "expected a " ++ facet ++ " boundary, got " ++ got
  | .expectedOrigin => "expected a number, a datetime or a GeoPoint"
  | .expectedModel => "expected a pydantic model class"
  | .expectedSchema => "expected a Schema or a pydantic model class"
  | .expectedGeometry => "expected a GeoJSON mapping or an object with __geo_interface__"
  | .notPositive value => "value is not greater than zero: " ++ value
  | .negative value => "value is less than zero: " ++ value
  | .lessThanOne value => "value is less than one: " ++ value
  | .outside low high value => "value is not between " ++ low ++ " and " ++ high ++ ": " ++ value
  | .notStrictlyInside value => "value is not strictly between 0 and 1: " ++ value
  | .empty => "must not be empty"
  | .fewExpressions operator => operator ++ " needs at least two expressions"
  | .fewBoundaries => "at least two values are required"
  | .notIncreasing => "values must be strictly increasing"
  | .incomparable => "can't compare offset-naive and offset-aware datetimes"
  | .oneArea => "exactly one of geometry, box or circle is required"
  | .geometryType shown allowed =>
    "geometry type " ++ shown ++ " is not one of " ++ ", ".intercalate allowed
  | .noCoordinates => "geometry has no coordinates"
  | .noClause => "at least one clause is required"
  | .noFacet => "at least one facet is required"
  | .duplicateFacet name => "duplicate facet name " ++ Text.quoted name
  | .noBound => "at least one bound is required"
  | .mixedBounds => "bounds must both be numbers or both datetimes"
  | .notJson => "not valid JSON"

end Reason

/-- Why a value has no attribute of some name. -/
inductive AttributeError where
  | withheld (name : String)
  | absent (kind name : String)
  | absentOnClass (kind name : String)
  | notNested (r : FieldRef)
  | noMember (model : ModelName) (name : String)
  | stated (text : String)
deriving DecidableEq

namespace AttributeError

def text : AttributeError → String
  | .withheld name => name
  | .absent kind name => "'" ++ kind ++ "' object has no attribute '" ++ name ++ "'"
  | .absentOnClass kind name =>
    "type object '" ++ kind ++ "' has no attribute '" ++ name ++ "'"
  | .notNested r => r.text ++ " is not a nested model"
  | .noMember model name => model.name ++ " has no field " ++ Text.quoted name
  | .stated text => text

end AttributeError

/-- What the host refuses on its own account, with no words of this library. -/
inductive Refusal where
  | wrongType
  | badValue
  | badObjectId
  | badPosition
  | badBytes
  | noModule
  | noInstance
  | unfilled (model : String) (members : List String)
  | stopped
  | overflow
  | dateOverflow
  | decimalMalformed
  | decimalInexact
  | decimalOverflow
deriving DecidableEq

/-- A fault over the values it reports; one made by hand keeps its parts as they
were given. -/
inductive Fault (V : Type) where
  | invalid (argument : String) (value : V) (reason : Reason)
  | outOfRange (argument : String) (value : V) (reason : Reason)
  | unresolved (field : V) (reason : Mismatch)
  | general (given : List V)
  | noAttribute (error : AttributeError)
  | noKey (key : V)
  | unhandledRelation (relation : V)
  | wholeOnly
  | refused (refusal : Refusal)
  | unbound (name : String)
  | told (kind : String) (parts : List (String × V)) (message : String)

/-- A fault whose message shows something: instead of it the host refuses what cannot be written. -/
def Fault.worded {V : Type} (writable : Bool) (f : Fault V) : Fault V :=
  if writable then f else .refused .badValue

/-!
## Values

Definitions are built from values of any kind and checked on the way, so one
type holds all of them: plain data, containers, the host's objects, and the
nodes of definitions.  Rendered documents are values too: texts, numbers,
lists, and dictionaries that keep the order of their entries.

Objects without a value of their own carry a tag, and are equal only when the
tags agree.  Other objects of the host are known by their kind and by the
values that they hold.
-/

/-- A node of a definition, or another object a program can hold. -/
inductive Node (V : Type) where
  | choice (c : Choice)
  | classNamed (home name : String)
  | operation (name : String)
  | model (m : ModelName)
  | memberInfo (m : Member)
  | generic (a : Annotation) (unpacked : Bool) (held : List V)
  | field (r : FieldRef)
  | looseField (owner parts : V)
  | members (m : ModelName) (tag : Nat)
  | looseMembers (owner : V) (tag : Nat)
  | schema (s : Schema) (tag : Nat)
  | query (q : Query)
  | path (p : Path)
  | fuzzy (f : Fuzzy)
  | count (c : Count)
  | highlight (h : Highlight)
  | expression (f : ScoreFunction)
  | score (s : Score)
  | span (s : Span)
  | facet (f : Facet)
  | point (p : GeoPoint)
  | box (b : GeoBox V)
  | circle (c : GeoCircle V)
  | bound (value inclusive : V)
  | rangeStart (path : Path) (score : Option Score)
  | operator (op : Operator V)
  | fault (f : Fault V) (tag : Nat)
  | bundle (entries : List (String × V))
  | code (text : String) (scope : V)
  | pointer (collection : Words) (id : V) (database : Option Words) (others : List (V × V))
  | outlined (t : Term)
  | module (name : String)
  | other (kind : String) (held : List V)

/-- A value of any kind. -/
inductive Value where
  | null
  | bool (b : Bool)
  | number (x : Number)
  | decimal (d : Decimal)
  | text (s : String)
  | bytes (b : List UInt8)
  | dateTime (t : DateTime)
  | day (d : Date)
  | objectId (o : ObjectId)
  | special (s : Special)
  | list (items : List Value)
  | tuple (items : List Value)
  | set (items : List Value)
  | dict (entries : List (Value × Value))
  | stream (tag : Nat) (items : List Value)
  | shape (tag : Nat) (outline : Value)
  | blank (tag : Nat)
  | node (n : Node Value)

namespace Value

abbrev int (n : Int) : Value :=
  .number (.whole (.int n))

def object (entries : List (String × Value)) : Value :=
  .dict (entries.map (fun entry => (.text entry.1, entry.2)))

def ofOption {α : Type} (wrap : α → Value) : Option α → Value
  | none => .null
  | some a => wrap a

abbrev whole (w : Whole) : Value :=
  .number (.whole w)

mutual

def ofTerm : Term → Value
  | .null => .null
  | .bool b => .bool b
  | .number x => .number x
  | .decimal d => .decimal d
  | .text s => .text s
  | .bytes b => .bytes b
  | .dateTime t => .dateTime t
  | .day d => .day d
  | .objectId o => .objectId o
  | .special s => .special s
  | .choice c => .node (.choice c)
  | .model m => .node (.model m)
  | .kindNamed home name => .node (.classNamed home name)
  | .operation name => .node (.operation name)
  | .stream tag items => .stream tag (ofTerms items)
  | .shape tag outline => .shape tag (ofTerm outline)
  | .list items => .list (ofTerms items)
  | .tuple items => .tuple (ofTerms items)
  | .set items => .set (ofTerms items)
  | .dict entries => .dict (ofEntryTerms entries)
  | .bundle entries => .node (.bundle (ofNamedTerms entries))
  | .code s scope => .node (.code s (ofTerm scope))
  | .pointer collection id database others =>
    match Words.ofTerm? collection with
    | some name =>
      .node (.pointer name (ofTerm id) (Words.ofTerm? database) (ofEntryTerms others))
    | none => .node (.outlined (.pointer collection id database others))
  | .record "FieldRef" [("model", owner), ("parts", parts)] =>
    match FieldRef.ofTerms? owner parts with
    | some r => .node (.field r)
    | none => .node (.looseField (ofTerm owner) (ofTerm parts))
  | t => .node (.outlined t)

def ofTerms : List Term → List Value
  | [] => []
  | t :: rest => ofTerm t :: ofTerms rest

def ofEntryTerms : List (Term × Term) → List (Value × Value)
  | [] => []
  | (key, t) :: rest => (ofTerm key, ofTerm t) :: ofEntryTerms rest

def ofNamedTerms : List (String × Term) → List (String × Value)
  | [] => []
  | (name, t) :: rest => (name, ofTerm t) :: ofNamedTerms rest

end

def ofWords : Words → Value
  | ⟨s, none⟩ => .text s
  | ⟨s, some scope⟩ => .node (.code s (ofTerm scope))

def ofField : Field → Value
  | .name s => ofWords s
  | .ref r => .node (.field r)
  | .loose owner parts => .node (.looseField (ofTerm owner) (ofTerm parts))

end Value

/-!
## Kinds

Every value has a kind, named in messages, and the more general kinds it
belongs to.  The kinds of nodes form families: operators, paths, queries,
scores, expressions, spans and facets.
-/

namespace Query

def kind : Query → String
  | .single _ => "SingleQuery"
  | .many _ => "MultiQuery"

end Query

namespace Path

def kind : Path → String
  | .single _ => "SinglePath"
  | .many _ => "MultiPath"
  | .analyzed .. => "AnalyzerPath"
  | .wildcard _ => "WildcardPath"

end Path

namespace Combination

def kind : Combination → String
  | .sum => "AddFunction"
  | .product => "MultiplyFunction"
  | .unnamed => "_ArithmeticFunction"

end Combination

namespace Transform

def kind : Transform → String
  | .log => "LogFunction"
  | .log1p => "Log1pFunction"
  | .unnamed => "_UnaryFunction"

end Transform

namespace ScoreFunction

def kind : ScoreFunction → String
  | .path .. => "PathFunction"
  | .relevance => "RelevanceFunction"
  | .constant _ => "ConstantFunction"
  | .combined way _ => way.kind
  | .gauss .. => "GaussFunction"
  | .transformed way _ => way.kind

end ScoreFunction

namespace Score

def kind : Score → String
  | .boost _ => "BoostValueScore"
  | .boostPath .. => "BoostPathScore"
  | .constant _ => "ConstantScore"
  | .function _ => "FunctionScore"

end Score

namespace Span

def kind : Span → String
  | .term .. => "TermSpan"
  | .first .. => "FirstSpan"
  | .near .. => "NearSpan"
  | .either _ => "OrSpan"
  | .subtract .. => "SubtractSpan"

end Span

namespace Facet

def kind : Facet → String
  | .string .. => "StringFacet"
  | .number .. => "NumberFacet"
  | .date .. => "DateFacet"

end Facet

namespace RangeForm

def kind : RangeForm → String
  | .lowerBounded => "LowerBoundedRange"
  | .upperBounded => "UpperBoundedRange"
  | .complete => "RangeSearchDefinition"

end RangeForm

namespace PatternForm

def kind : PatternForm → String
  | .wildcard => "WildcardSearchDefinition"
  | .regex => "RegexSearchDefinition"
  | .unnamed => "_PatternSearchDefinition"

end PatternForm

namespace Operator

def kind {V : Type} : Operator V → String
  | .text .. => "TextSearchDefinition"
  | .phrase .. => "PhraseSearchDefinition"
  | .autocomplete .. => "AutocompleteSearchDefinition"
  | .pattern form .. => form.kind
  | .queryString .. => "QueryStringSearchDefinition"
  | .equals .. => "EqualsSearchDefinition"
  | .existence _ => "ExistsSearchDefinition"
  | .near .. => "NearSearchDefinition"
  | .geoWithin .. => "GeoWithinSearchDefinition"
  | .geoShape .. => "GeoShapeSearchDefinition"
  | .range form .. => form.kind
  | .compound .. => "CompoundSearchDefinition"
  | .span _ => "SpanSearchDefinition"
  | .facet .. => "FacetSearchDefinition"
  | .raw _ => "RawSearchDefinition"

end Operator

namespace Refusal

def kind : Refusal → String
  | .wrongType => "TypeError"
  | .badValue => "ValueError"
  | .badObjectId => "InvalidId"
  | .badPosition => "IndexError"
  | .badBytes => "UnicodeDecodeError"
  | .noModule => "ModuleNotFoundError"
  | .noInstance => "PydanticUserError"
  | .unfilled .. => "ValidationError"
  | .stopped => "SystemExit"
  | .overflow => "OverflowError"
  | .dateOverflow => "InvalidBSON"
  | .decimalMalformed => "InvalidOperation"
  | .decimalInexact => "Inexact"
  | .decimalOverflow => "Overflow"

end Refusal

namespace Fault

def kind {V : Type} : Fault V → String
  | .invalid .. => "InvalidArgumentError"
  | .outOfRange .. => "ArgumentOutOfRangeError"
  | .unresolved .. => "SchemaMismatchError"
  | .general _ => "AtlasSearchError"
  | .noAttribute _ => "AttributeError"
  | .noKey _ => "KeyError"
  | .unhandledRelation _ => "AssertionError"
  | .wholeOnly => "AssertionError"
  | .refused refusal => refusal.kind
  | .unbound _ => "Unbound"
  | .told kind .. => kind

end Fault

namespace Term

def kind : Term → String
  | .record kind _ => kind
  | .fault kind _ _ => kind
  | .module _ => "module"
  | _ => "object"

end Term

namespace Special

/-- The kind of a value that only stored documents have. -/
def kind : Special → String
  | .decimal128 _ => "Decimal128"
  | .binary .. => "Binary"
  | .timestamp .. => "Timestamp"
  | .regex .. => "Regex"
  | .minKey => "MinKey"
  | .maxKey => "MaxKey"

end Special

namespace Kind

def families : List String :=
  ["SearchDefinition", "_PatternSearchDefinition", "QueryDefinition", "PathDefinition",
    "ScoreDefinition", "ScoreFunction", "_ArithmeticFunction", "_UnaryFunction",
    "SpanDefinition", "SearchFacet", "_BoundaryFacet"]

def operators : List String :=
  ["TextSearchDefinition", "PhraseSearchDefinition", "AutocompleteSearchDefinition",
    "WildcardSearchDefinition", "RegexSearchDefinition", "QueryStringSearchDefinition",
    "EqualsSearchDefinition", "ExistsSearchDefinition", "NearSearchDefinition",
    "GeoWithinSearchDefinition", "GeoShapeSearchDefinition", "RawSearchDefinition",
    "CompoundSearchDefinition", "RangeSearchDefinition", "LowerBoundedRange",
    "UpperBoundedRange", "SpanSearchDefinition", "FacetSearchDefinition"]

def schemas : List String :=
  ["Schema", "UntypedSchema", "ModelSchema"]

/-- The kinds directly or indirectly above a kind, nearest first. -/
def above (kind : String) : List String :=
  if ["WildcardSearchDefinition", "RegexSearchDefinition"].contains kind then
    ["_PatternSearchDefinition", "SearchDefinition"]
  else if ["LowerBoundedRange", "UpperBoundedRange"].contains kind then
    ["RangeSearchDefinition", "SearchDefinition"]
  else if operators.contains kind || kind == "_PatternSearchDefinition" then
    ["SearchDefinition"]
  else if ["SingleQuery", "MultiQuery"].contains kind then ["QueryDefinition"]
  else if ["SinglePath", "MultiPath", "AnalyzerPath", "WildcardPath"].contains kind then
    ["PathDefinition"]
  else if ["AddFunction", "MultiplyFunction"].contains kind then
    ["_ArithmeticFunction", "ScoreFunction"]
  else if ["LogFunction", "Log1pFunction"].contains kind then
    ["_UnaryFunction", "ScoreFunction"]
  else if ["PathFunction", "RelevanceFunction", "ConstantFunction", "GaussFunction",
      "_ArithmeticFunction", "_UnaryFunction"].contains kind then ["ScoreFunction"]
  else if ["BoostValueScore", "BoostPathScore", "ConstantScore", "FunctionScore"].contains kind then
    ["ScoreDefinition"]
  else if ["TermSpan", "FirstSpan", "NearSpan", "OrSpan", "SubtractSpan"].contains kind then
    ["SpanDefinition"]
  else if ["NumberFacet", "DateFacet"].contains kind then ["_BoundaryFacet", "SearchFacet"]
  else if ["StringFacet", "_BoundaryFacet"].contains kind then ["SearchFacet"]
  else if ["CountType", "AutocompleteTokenOrder", "GeoShapeRelation"].contains kind then ["Enum"]
  else if kind == "ArgumentOutOfRangeError" then
    ["InvalidArgumentError", "AtlasSearchError", "ValueError", "Exception", "BaseException"]
  else if kind == "InvalidArgumentError" then
    ["AtlasSearchError", "ValueError", "Exception", "BaseException"]
  else if kind == "SchemaMismatchError" then
    ["AtlasSearchError", "Exception", "BaseException"]
  else if ["AtlasSearchError", "ValueError", "TypeError", "AttributeError", "AssertionError",
      "KeyError"].contains kind then ["Exception", "BaseException"]
  else if kind == "Exception" then ["BaseException"]
  else if kind == "datetime" then ["date"]
  else if kind == "bool" || kind == "Int64" then ["int"]
  else if kind == "Binary" then ["bytes"]
  else if kind == "Code" then ["str"]
  else if kind == "ModelMetaclass" || kind == "_ProtocolMeta" then ["ABCMeta", "type"]
  else if kind == "ABCMeta" || kind == "EnumType" then ["type"]
  else []

/-- The module that defines a kind of plain values, if it is not built in. -/
def home : String → String
  | "datetime" => "datetime"
  | "ObjectId" => "bson.objectid"
  | "Int64" => "bson.int64"
  | _ => ""

def ofKind (kind : String) : String :=
  if families.contains kind || (above kind).any families.contains then "ABCMeta"
  else if ["CountType", "AutocompleteTokenOrder", "GeoShapeRelation", "Enum"].contains kind then
    "EnumType"
  else if kind == "Schema" then "_ProtocolMeta"
  else if kind == "BaseModel" then "ModelMetaclass"
  else "type"

end Kind

namespace Node

def kind {V : Type} : Node V → String
  | .choice c => c.enumeration
  | .classNamed _ name => Kind.ofKind name
  | .operation _ => "function"
  | .model _ => "ModelMetaclass"
  | .memberInfo _ => "FieldInfo"
  | .generic a unpacked _ => a.kind unpacked
  | .field _ => "FieldRef"
  | .looseField .. => "FieldRef"
  | .members .. => "_ModelFields"
  | .looseMembers .. => "_ModelFields"
  | .schema .untyped _ => "UntypedSchema"
  | .schema (.modelled _) _ => "ModelSchema"
  | .schema (.prepending _) _ => "PrefixSchema"
  | .schema .unusable _ => "type"
  | .query q => q.kind
  | .path p => p.kind
  | .fuzzy _ => "FuzzyOptions"
  | .count _ => "CountOptions"
  | .highlight _ => "HighlightOptions"
  | .expression f => f.kind
  | .score s => s.kind
  | .span s => s.kind
  | .facet f => f.kind
  | .point _ => "GeoPoint"
  | .box _ => "GeoBox"
  | .circle _ => "GeoCircle"
  | .bound .. => "RangeBound"
  | .rangeStart .. => "RangeBuilder"
  | .operator op => op.kind
  | .fault f _ => f.kind
  | .bundle _ => "SimpleNamespace"
  | .code .. => "Code"
  | .pointer .. => "DBRef"
  | .outlined t => t.kind
  | .module _ => "module"
  | .other kind _ => kind

end Node

namespace Value

def kind : Value → String
  | .null => "NoneType"
  | .bool _ => "bool"
  | .number (.whole (.int _)) => "int"
  | .number (.whole (.long _)) => "Int64"
  | .number (.double _) => "float"
  | .number (.ratio _) => "Fraction"
  | .decimal _ => "Decimal"
  | .text _ => "str"
  | .bytes _ => "bytes"
  | .dateTime _ => "datetime"
  | .day _ => "date"
  | .objectId _ => "ObjectId"
  | .special s => s.kind
  | .list _ => "list"
  | .tuple _ => "tuple"
  | .set _ => "frozenset"
  | .dict _ => "dict"
  | .stream .. => "generator"
  | .shape .. => "Shape"
  | .blank _ => "Opaque"
  | .node n => n.kind

end Value

end SearchQuery
