import SearchQuery.Value.Elements

/-!
# What values have

What a value has under a name, and what it holds as a container.
-/

namespace SearchQuery

/-!
## Attributes of values

The parts of a node can be asked for by name, and so can what its kind has in
common and the operations that a script may apply to it.  Classes offer these
operations too, without a value to apply them to.  Field references answer any
name of a member, and items are asked for in the same way.
-/

/-- What a value has under a name: another value, an operation on it, or an
operation that is still to be given what it is applied to. -/
inductive Attribute where
  | value (v : Value)
  | method (name : String)
  | unapplied (name : String)

namespace Query

def parts : Query → List (String × Value)
  | .single text => [("query", .ofWords text)]
  | .many texts => [("queries", .tuple (texts.map .ofWords))]

end Query

namespace Path

def parts : Path → List (String × Value)
  | .single field => [("field", .ofField field)]
  | .many fields => [("fields", .tuple (fields.map .ofField))]
  | .analyzed field analyzer => [("field", .ofField field), ("analyzer", .ofWords analyzer)]
  | .wildcard pattern => [("pattern", .ofWords pattern)]

end Path

namespace ScoreFunction

def parts : ScoreFunction → List (String × Value)
  | .path p undefined => [("path", .ofPath p), ("undefined", .number undefined)]
  | .relevance => []
  | .constant value => [("value", .number value)]
  | .combined _ children => [("children", .tuple (children.map .ofExpression))]
  | .gauss p origin scale decay offset =>
    [("path", .ofPath p), ("origin", .number origin), ("scale", .number scale),
      ("decay", .ofOption .number decay), ("offset", .ofOption .number offset)]
  | .transformed _ child => [("child", .ofExpression child)]

end ScoreFunction

namespace Score

def parts : Score → List (String × Value)
  | .boost value => [("value", .number value)]
  | .boostPath path undefined => [("path", .ofPath path), ("undefined", .number undefined)]
  | .constant value => [("value", .number value)]
  | .function expression => [("function", .ofExpression expression)]

end Score

namespace Span

def parts : Span → List (String × Value)
  | .term query path => [("query", .ofQuery query), ("path", .ofPath path)]
  | .first operator endPosition =>
    [("operator", .ofSpan operator), ("end_position_lte", .whole endPosition)]
  | .near clauses slop inOrder =>
    [("clauses", .tuple (clauses.map .ofSpan)), ("slop", .whole slop), ("in_order", .bool inOrder)]
  | .either clauses => [("clauses", .tuple (clauses.map .ofSpan))]
  | .subtract kept removed => [("include", .ofSpan kept), ("exclude", .ofSpan removed)]

end Span

namespace Facet

def parts : Facet → List (String × Value)
  | .string name path buckets =>
    [("name", .ofWords name), ("path", .ofPath path), ("num_buckets", .whole buckets)]
  | .number name path boundaries outside =>
    [("name", .ofWords name), ("path", .ofPath path),
      ("boundaries", .tuple (boundaries.map .number)), ("default", .ofOption .ofWords outside)]
  | .date name path boundaries outside =>
    [("name", .ofWords name), ("path", .ofPath path),
      ("boundaries", .tuple (boundaries.map .dateTime)), ("default", .ofOption .ofWords outside)]

end Facet

namespace Area

/-- The named parts of a search area: of a geometry, a box and a circle, one is not null. -/
def parts : Area Value → List (String × Value)
  | .geometry g => [("geometry", g.given), ("box", .null), ("circle", .null)]
  | .box b => [("geometry", .null), ("box", .node (.box b)), ("circle", .null)]
  | .circle c => [("geometry", .null), ("box", .null), ("circle", .node (.circle c))]

end Area

namespace Operator

def parts : Operator Value → List (String × Value)
  | .text query path fuzzy score =>
    [("query", .ofQuery query), ("path", .ofPath path), ("fuzzy", .ofFuzzy fuzzy),
      ("score", .ofScore score)]
  | .phrase query path slop score =>
    [("query", .ofQuery query), ("path", .ofPath path), ("slop", .whole slop),
      ("score", .ofScore score)]
  | .autocomplete query path order fuzzy score =>
    [("query", .ofQuery query), ("path", .ofPath path),
      ("token_order", .node (.choice (.order order))), ("fuzzy", .ofFuzzy fuzzy),
      ("score", .ofScore score)]
  | .pattern _ query path analyzed score =>
    [("query", .ofQuery query), ("path", .ofPath path),
      ("allow_analyzed_field", .bool analyzed), ("score", .ofScore score)]
  | .queryString defaultPath query score =>
    [("default_path", .ofField defaultPath), ("query", .ofWords query), ("score", .ofScore score)]
  | .equals path value score =>
    [("path", .ofField path), ("value", .ofExact value), ("score", .ofScore score)]
  | .existence path => [("path", .ofField path)]
  | .near path origin pivot score =>
    [("path", .ofPath path), ("origin", .ofOrigin origin), ("pivot", .number pivot),
      ("score", .ofScore score)]
  | .geoWithin path area score =>
    ("path", .ofPath path) :: (area.parts ++ [("score", .ofScore score)])
  | .geoShape path geometry relation score =>
    [("path", .ofPath path), ("geometry", geometry.given),
      ("relation", .node (.choice (.relation relation))), ("score", .ofScore score)]
  | .range _ path lower upper score =>
    [("path", .ofPath path), ("lower", .ofBound lower), ("upper", .ofBound upper),
      ("score", .ofScore score)]
  | .compound must mustNot should filter minimum score =>
    [("must_clauses", .ofClauses must), ("must_not_clauses", .ofClauses mustNot),
      ("should_clauses", .ofClauses should), ("filter_clauses", .ofClauses filter),
      ("should_minimum", .whole minimum), ("score", .ofScore score)]
  | .span s => [("definition", .ofSpan s)]
  | .facet operator facets =>
    [("operator", .ofOperator operator),
      ("facets", .tuple (facets.map (fun f => .node (.facet f))))]
  | .raw entries => [("document", .dict entries)]

end Operator

namespace Choice

/-- The value of a member: its word, or its number for relations. -/
def value : Choice → Value
  | .order o => .text o.word
  | .count c => .text c.word
  | .relation r => .int r.number

end Choice

namespace Fault

def parts : Fault Value → List (String × Value)
  | .invalid argument v reason =>
    [("argument", .text argument), ("value", v), ("reason", .text reason.text)]
  | .outOfRange argument v reason =>
    [("argument", .text argument), ("value", v), ("reason", .text reason.text)]
  | .unresolved field reason => [("field", field), ("reason", .text reason.text)]
  | .told _ parts _ => parts
  | _ => []

end Fault

namespace Kind

def operatorName? : String → Option String
  | "TextSearchDefinition" => some "text"
  | "PhraseSearchDefinition" => some "phrase"
  | "AutocompleteSearchDefinition" => some "autocomplete"
  | "WildcardSearchDefinition" => some "wildcard"
  | "RegexSearchDefinition" => some "regex"
  | "QueryStringSearchDefinition" => some "queryString"
  | "EqualsSearchDefinition" => some "equals"
  | "ExistsSearchDefinition" => some "exists"
  | "NearSearchDefinition" => some "near"
  | "GeoWithinSearchDefinition" => some "geoWithin"
  | "GeoShapeSearchDefinition" => some "geoShape"
  | "RangeSearchDefinition" => some "range"
  | "LowerBoundedRange" => some "range"
  | "UpperBoundedRange" => some "range"
  | "CompoundSearchDefinition" => some "compound"
  | "SpanSearchDefinition" => some "span"
  | "FacetSearchDefinition" => some "facet"
  | "RawSearchDefinition" => some ""
  | "SearchDefinition" => some ""
  | "_PatternSearchDefinition" => some ""
  | _ => none

def hasDocument (kind : String) : Bool :=
  ofKind kind == "ABCMeta" ||
    ["FuzzyOptions", "CountOptions", "HighlightOptions", "GeoPoint", "GeoBox",
      "GeoCircle"].contains kind

/-- The operations that a script may apply to the values of a kind. -/
def methods (kind : String) : List String :=
  let own :=
    if (operatorName? kind).isSome then ["_render_body"]
    else if kind == "_BoundaryFacet" || (above kind).contains "_BoundaryFacet" then
      ["_is_boundary"]
    else []
  let further := match kind with
    | "LowerBoundedRange" => ["lt", "lte"]
    | "UpperBoundedRange" => ["gt", "gte"]
    | "RangeBuilder" => ["gt", "gte", "lt", "lte"]
    | "CompoundSearchDefinition" =>
      ["must", "must_not", "should", "filter", "minimum_should_match"]
    | "ModelSchema" => ["resolve", "_serialize", "_lookup"]
    | "PrefixSchema" => ["resolve"]
    | "FieldRef" => ["_member"]
    | "DBRef" => ["as_doc"]
    | kind => if schemas.contains kind then ["resolve"] else []
  (if hasDocument kind then ["render"] else []) ++ own ++ further

/-- The operations of a kind that are applied to nothing. -/
def free : List String :=
  ["_lookup"]

/-- What all values of a kind have in common under a name. -/
def constants (kind : String) : List (String × Value) :=
  match operatorName? kind with
  | some name => [("operator_name", .text name)]
  | none =>
    match kind with
    | "_BoundaryFacet" => [("facet_type", .text ""), ("default", .null)]
    | "NumberFacet" => [("facet_type", .text "number")]
    | "DateFacet" => [("facet_type", .text "date")]
    | "_ArithmeticFunction" => [("operator", .text "")]
    | "AddFunction" => [("operator", .text "add")]
    | "MultiplyFunction" => [("operator", .text "multiply")]
    | "_UnaryFunction" => [("operator", .text "")]
    | "LogFunction" => [("operator", .text "log")]
    | "Log1pFunction" => [("operator", .text "log1p")]
    | _ => (Choice.membersOf kind).map (fun c => (c.name, .node (.choice c)))

end Kind

namespace Node

/-- An annotation as a value: a class, or what classes are put together to. -/
def annotationValue : Annotation → Value
  | .scalar kind => .node (.classNamed (Kind.home kind) kind)
  | .model m => .node (.model m)
  | .annotated element _ => annotationValue element
  | a => .node (.generic a false [])

def parts : Node Value → List (String × Value)
  | .choice c =>
    [("name", .text c.name), ("value", c.value), ("_name_", .text c.name), ("_value_", c.value)]
  | .memberInfo m =>
    [("alias", .ofOption .text m.generalAlias),
      ("serialization_alias", .ofOption .text (m.storedAlias.orElse (fun _ => m.generalAlias))),
      ("validation_alias", .ofOption .text (m.readAlias.orElse (fun _ => m.generalAlias))),
      ("annotation", annotationValue m.content)]
  | .schema (.modelled m) _ => [("model", .node (.model m))]
  | .query q => q.parts
  | .path p => p.parts
  | .fuzzy f =>
    [("max_edits", .ofOption .whole f.maxEdits), ("prefix_length", .ofOption .whole f.prefixLength),
      ("max_expansions", .ofOption .whole f.maxExpansions)]
  | .count c =>
    [("type", .node (.choice (.count c.type))), ("threshold", .ofOption .whole c.threshold)]
  | .highlight h =>
    [("path", .ofPath h.path), ("max_chars_to_examine", .ofOption .whole h.maxChars),
      ("max_num_passages", .ofOption .whole h.maxPassages)]
  | .expression f => f.parts
  | .score s => s.parts
  | .span s => s.parts
  | .facet f => f.parts
  | .point p =>
    [("longitude", .number p.longitude), ("latitude", .number p.latitude),
      ("__geo_interface__", .object [("type", .text "Point"),
        ("coordinates", .tuple [.number p.longitude, .number p.latitude])])]
  | .box b => [("bottom_left", b.bottomLeft.given), ("top_right", b.topRight.given)]
  | .circle c => [("center", c.center.given), ("radius", .number c.radius)]
  | .bound value inclusive => [("value", value), ("inclusive", inclusive)]
  | .rangeStart p s => [("path", .ofPath p), ("score", .ofScore s)]
  | .operator op => op.parts
  | .fault (.general given) _ => [("args", .tuple given)]
  | .fault f _ => ("args", .tuple [.text f.message]) :: f.parts
  | .bundle entries => entries
  | .code _ scope => [("scope", scope)]
  | _ => []

end Node

namespace Value

def memberFault : AccessError → Fault Value
  | .brokenChain part => .noKey (.text part)
  | .notNested r => .noAttribute (.notNested r)
  | .noMember m name => .noAttribute (.noMember m name)

def ofMember (found : Except AccessError FieldRef) : Except (Fault Value) Attribute :=
  match found with
  | .ok r => .ok (.value (.node (.field r)))
  | .error e => .error (memberFault e)

def memberTable (c : Catalog) (m : ModelName) : Value :=
  .object ((c m).members.map (fun member => (member.name, .node (.memberInfo member))))

def referencePart (owner parts : Value) (find : String → Except (Fault Value) Attribute)
    (name : String) : Except (Fault Value) Attribute :=
  if name = "model" then .ok (.value owner)
  else if name = "parts" then .ok (.value parts)
  else if name = "_member" then .ok (.method name)
  else if name.startsWith "_" then .error (.noAttribute (.withheld name))
  else find name

def nodePart (c : Catalog) (n : Node Value) (name : String) :
    Except (Fault Value) Attribute :=
  match n with
  | .field r =>
    referencePart (.node (.model r.owner)) (.tuple (r.parts.map .text))
      (fun name => ofMember (r.member c name)) name
  | .looseField owner parts =>
    referencePart owner parts
      (fun name => (Reference.member c owner parts (.text name)).map .value) name
  | .members m _ =>
    if name = "_model" then .ok (.value (.node (.model m)))
    else if name.startsWith "_" then .error (.noAttribute (.withheld name))
    else ofMember (FieldRef.ofMember c m name)
  | .looseMembers owner _ =>
    if name = "_model" then .ok (.value owner)
    else if name.startsWith "_" then .error (.noAttribute (.withheld name))
    else .error (owner.absence "model_fields")
  | .model m =>
    if name = "__name__" then .ok (.value (.text m.name))
    else if name = "model_fields" then .ok (.value (memberTable c m))
    else .error (.noAttribute (.withheld name))
  | .operation operation =>
    if name = "__name__" then .ok (.value (.text operation))
    else .error (lacks (.node n) name)
  | .classNamed _ kind =>
    if name = "__name__" then .ok (.value (.text kind))
    else
      match named? name (Kind.constants kind) with
      | some v => .ok (.value v)
      | none =>
        if (Kind.methods kind).contains name then .ok (.unapplied name)
        else .error (absence (.node n) name)
  | .pointer collection id database others =>
    match name with
    | "collection" => .ok (.value (.ofWords collection))
    | "id" => .ok (.value id)
    | "database" => .ok (.value (.ofOption .ofWords database))
    | "as_doc" => .ok (.method name)
    | name => (kept (.node n) name (lookup name others)).map .value
  | n =>
    match named? name (n.parts ++ Kind.constants n.kind) with
    | some v => .ok (.value v)
    | none =>
      if (Kind.methods n.kind).contains name then
        .ok (if Kind.free.contains name then .unapplied name else .method name)
      else .error (lacks (.node n) name)

def ofTick : Tick → Value
  | .whole w => .whole w
  | .flag b => .bool b

/-- The named parts of a value that only stored documents have. -/
def specialParts : Special → List (String × Value)
  | .binary _ subtype => [("subtype", .int subtype)]
  | .timestamp time increment => [("time", ofTick time), ("inc", ofTick increment)]
  | .regex pattern flags =>
    [("pattern", match pattern with | .text s => .text s | .bytes b => .bytes b),
      ("flags", .int flags)]
  | _ => []

def dateParts (d : Date) : List (String × Value) :=
  [("year", .int d.year), ("month", .int d.month), ("day", .int d.day)]

def dataParts : Value → List (String × Value)
  | .special s => specialParts s
  | .day d => dateParts d
  | .dateTime t =>
    dateParts t.date ++ [("hour", .int t.hour), ("minute", .int t.minute),
      ("second", .int t.second), ("microsecond", .int t.microsecond),
      ("tzinfo", if t.isAware then .node (.other "timezone" []) else .null)]
  | .number (.whole w) => [("numerator", .int w.value), ("denominator", .int 1)]
  | .number (.ratio q) => [("numerator", .int q.num), ("denominator", .int q.den)]
  | _ => []

/-- What a value brings along under a name.  What every object has, or all of a kind, is told by the
language that it is used in. -/
def part (c : Catalog) (v : Value) (name : String) : Except (Fault Value) Attribute :=
  match v with
  | .node n => nodePart c n name
  | .shape _ outline =>
    if name = "__geo_interface__" then .ok (.value outline) else .error (lacks v name)
  | v =>
    match named? name v.dataParts with
    | some part => .ok (.value part)
    | none => .error (lacks v name)

/-- Whether a value has something under a name; asking may fail in other ways
than that there is nothing. -/
def offers (c : Catalog) (v : Value) (name : String) : Except (Fault Value) Bool :=
  match v.part c name with
  | .ok _ => .ok true
  | .error (.noAttribute _) => .ok false
  | .error f => .error f

/-- A member as an item: every missing member is a missing key. -/
def memberItem (key : Value) (found : Except AccessError FieldRef) : Except (Fault Value) Value :=
  match found with
  | .ok r => .ok (.node (.field r))
  | .error (.brokenChain part) => .error (.noKey (.text part))
  | .error _ => .error (.noKey key)

/-- The annotations of the arguments that a class is given. -/
def annotationOf : Value → Annotation
  | .node (.model m) => .model m
  | .node (.generic a _ _) => a
  | .node (.classNamed _ kind) => .scalar kind
  | v => .constant v.shown

/-- The values among the arguments of a class that stand for no type. -/
def untyped : Value → List Value
  | .node (.model _) => []
  | .node (.generic _ _ held) => held
  | .node (.classNamed ..) => []
  | v => [v]

/-- The classes of containers, which may be given classes for what they hold. -/
def containerKinds : List String :=
  ["dict", "list", "tuple"]

/-- The class of containers of a kind that is given classes for what they hold. -/
def contained : String → List Annotation → Annotation
  | "list", [element] => .list element
  | "dict", [key, v] => .dict key v
  | _, elements => .tuple elements

/-- The position in a sequence that an integer means; negative ones count from the end. -/
def position? (n : Int) (length : Nat) : Option Nat :=
  if 0 ≤ n then some n.toNat
  else if 0 ≤ n + length then some (n + length).toNat
  else none

def itemAt (items : List Value) (key : Value) : Except (Fault Value) Value :=
  let at? : Int → Except (Fault Value) Value := fun n =>
    match (position? n items.length).bind (fun i => items[i]?) with
    | some v => .ok v
    | none => .error (.refused .badPosition)
  match key with
  | .number (.whole w) => at? w.value
  | .bool b => at? (if b then 1 else 0)
  | _ => .error (.refused .wrongType)

def item (c : Catalog) (v key : Value) : Except (Fault Value) Value :=
  match v with
  | .node (.field r) =>
    match key with
    | .text name => memberItem key (r.member c name)
    | key => Reference.item c (.node (.model r.owner)) (.tuple (r.parts.map .text)) key
  | .node (.looseField owner parts) => Reference.item c owner parts key
  | .node (.members m _) =>
    match key with
    | .text name => memberItem key (FieldRef.ofMember c m name)
    | key => .error (if key.hashable then .noKey key else .refused .wrongType)
  | .node (.looseMembers owner _) => .error (owner.absence "model_fields")
  | .node (.classNamed _ kind) =>
    match Choice.membersOf kind, key with
    | [], key =>
      if containerKinds.contains kind then
        let held := match key with
          | .tuple items => items
          | key => [key]
        .ok (.node (.generic (contained kind (held.map annotationOf)) false
          (held.flatMap untyped)))
      else
        match kind, key with
        | "Annotated", .tuple (element :: remark :: others) =>
          .ok (.node (.generic (.annotated (annotationOf element)
            ((remark :: others).map annotationOf)) false
            ((element :: remark :: others).flatMap untyped)))
        | _, _ => .error (.refused .wrongType)
    | members, .text name =>
      match members.find? (fun member => member.name == name) with
      | some member => .ok (.node (.choice member))
      | none => .error (.noKey key)
    | _, key => .error (if key.hashable then .noKey key else .refused .wrongType)
  | .dict entries =>
    if !key.hashable then .error (.refused .wrongType)
    else
      match find? key entries with
      | some v => .ok v
      | none => .error (.noKey key)
  | .list items => itemAt items key
  | .tuple items => itemAt items key
  | .text s => itemAt (s.toList.map (fun c => .text (String.singleton c))) key
  | .bytes b => itemAt (b.map (fun byte => .int byte.toNat)) key
  | .special (.binary b _) => itemAt (b.map (fun byte => .int byte.toNat)) key
  | .node (.code s _) => itemAt (s.toList.map (fun c => .text (String.singleton c))) key
  | _ => .error (.refused .wrongType)

end Value

/-!
## Membership

A value belongs to its own kind and to the kinds above it.  Whatever offers the
operation that resolves fields counts as a schema; a value that cannot tell
what it offers fails instead.
-/

namespace Value

/-- Whether a value resolves fields, or is a class whose values do. -/
def isSchema (c : Catalog) (v : Value) : Except (Fault Value) Bool :=
  match v.part c "resolve" with
  | .ok (.value .null) => .ok false
  | .ok _ => .ok true
  | .error (.noAttribute _) => .ok false
  | .error f => .error f

def isA (c : Catalog) (v : Value) (kind : String) : Except (Fault Value) Bool :=
  if kind == "object" || v.kind == kind || (Kind.above v.kind).contains kind then .ok true
  else if kind == "Schema" then v.isSchema c
  else .ok false

mutual

/-- Whether a value belongs to a class or to one of a tuple of classes; nothing
belongs to what is no class. -/
def belongsTo (c : Catalog) (v : Value) : Value → Except (Fault Value) Bool
  | .node (.classNamed _ kind) => v.isA c kind
  | .node (.model _) => .ok false
  | .tuple kinds => belongsToAny c v kinds
  | _ => .error (.refused .wrongType)

/-- Whether a value belongs to one of several classes, tried in order. -/
def belongsToAny (c : Catalog) (v : Value) : List Value → Except (Fault Value) Bool
  | [] => .ok false
  | kind :: rest => do
    if ← belongsTo c v kind then return true else belongsToAny c v rest

end

/-- The first fault of asking the references in a value, from left to right,
whether they are containers; writing a value asks them all. -/
def unwritable? (c : Catalog) (v : Value) : Except (Fault Value) Unit :=
  match v with
  | .node (.field _) => do
    let _ ← v.offers c "items"
  | .node (.looseField ..) => do
    let _ ← v.offers c "items"
  | _ => .ok ()

mutual

/-- Asks the references in a value whether they are containers. -/
def probe (c : Catalog) : Value → Except (Fault Value) Unit
  | .list items => probeAll c items
  | .tuple items => probeAll c items
  | .set items => probeAll c items
  | .stream _ items => probeAll c items
  | .dict entries => probeEntries c entries
  | v => unwritable? c v

def probeAll (c : Catalog) : List Value → Except (Fault Value) Unit
  | [] => .ok ()
  | v :: rest => do
    probe c v
    probeAll c rest

def probeEntries (c : Catalog) : List (Value × Value) → Except (Fault Value) Unit
  | [] => .ok ()
  | (_, v) :: rest => do
    probe c v
    probeEntries c rest

end

end Value

end SearchQuery
