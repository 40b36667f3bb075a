import SearchQuery.Value.Elements

/-!
# Documents of definitions

A definition is written as a document over the names that its fields have.
-/

namespace SearchQuery

/-!
## Documents of paths and options

A resolver gives each field its stored name or says why it has none.  A path
becomes its stored name, the list of its stored names, or a small document for
an analyzer or a pattern; a pattern is never resolved.
-/

/-- The stored name of each field, or the fault that it has none. -/
abbrev Resolver := Field → Except (Fault Value) Words

/-- The text of a field: the name itself, or a reference as a dotted name. -/
def Field.text (c : Catalog) : Field → Except (Fault Value) String
  | .name s => .ok s.text
  | .ref r => .ok r.text
  | .loose owner parts => Reference.text c (.ofTerm owner) (.ofTerm parts)

namespace Schema

def outcome (field : Field) : Except Mismatch String → Except (Fault Value) Words
  | .ok name => .ok (.plain name)
  | .error reason => .error (.mismatch (.ofField field) reason)

/-- How a schema resolves fields, given the models it may look into.  Without a
model only names have a stored name, which is the name as it is. -/
def resolver (c : Catalog) : Schema → Resolver
  | .untyped, .name s => .ok s
  | .untyped, field => .error (.mismatch (.ofField field) .needsModel)
  | .modelled m, .name s => outcome (.name s) (resolveName c m s.text)
  | .modelled m, .ref r => outcome (.ref r) (resolveChain c m r)
  | .modelled m, .loose owner parts => do
    let name ← Reference.resolve c m (.ofTerm owner) (.ofTerm parts)
    return .plain name
  | .prepending text, field => do
    let rest ← field.text c
    return .plain (text ++ rest)
  | .unusable, _ => .error (.refused .wrongType)

end Schema

namespace Query

def render : Query → Value
  | .single text => .ofWords text
  | .many texts => .list (texts.map .ofWords)

end Query

namespace Path

def resolveAll (resolve : Resolver) : List Field → Except (Fault Value) (List Value)
  | [] => .ok []
  | field :: rest => do
    let name ← resolve field
    let names ← resolveAll resolve rest
    return .ofWords name :: names

def render (resolve : Resolver) : Path → Except (Fault Value) Value
  | .single field => do
    let name ← resolve field
    return .ofWords name
  | .many fields => do
    let names ← resolveAll resolve fields
    return .list names
  | .analyzed field analyzer => do
    let name ← resolve field
    return .object [("value", .ofWords name), ("multi", .ofWords analyzer)]
  | .wildcard pattern => .ok (.object [("wildcard", .ofWords pattern)])

end Path

/-- An entry that is present only when its value is given. -/
def optionalEntry {α : Type} (key : String) (wrap : α → Value) :
    Option α → List (String × Value)
  | none => []
  | some a => [(key, wrap a)]

/-- The document of fuzzy settings: only those that are given. -/
def Fuzzy.render (f : Fuzzy) : Value :=
  .object (optionalEntry "maxEdits" .whole f.maxEdits ++
    optionalEntry "prefixLength" .whole f.prefixLength ++
    optionalEntry "maxExpansions" .whole f.maxExpansions)

/-- The document of count settings: only what differs from the server's own. -/
def Count.render (c : Count) : Value :=
  .object ((match c.type with
      | .lowerBound => []
      | .total => [("type", Value.text c.type.word)]) ++
    optionalEntry "threshold" .whole c.threshold)

def Highlight.render (resolve : Resolver) (h : Highlight) : Except (Fault Value) Value := do
  let path ← h.path.render resolve
  return .object (("path", path) :: (optionalEntry "maxCharsToExamine" .whole h.maxChars ++
    optionalEntry "maxNumPassages" .whole h.maxPassages))

/-!
## Documents of scores

A replacement for missing values is written only when it is not zero; the path
of an expression then moves into a document of its own beside it.
-/

def Number.isZero (x : Number) : Bool :=
  x.same (.int 0)

namespace ScoreFunction

mutual

def render (resolve : Resolver) : ScoreFunction → Except (Fault Value) Value
  | .path p undefined => do
    let name ← p.render resolve
    if undefined.isZero then return .object [("path", name)]
    else return .object [("path", .object [("value", name), ("undefined", .number undefined)])]
  | .relevance => .ok (.object [("score", .text "relevance")])
  | .constant value => .ok (.object [("constant", .number value)])
  | .combined way children => do
    let documents ← renderAll resolve children
    return .object [(way.word, .list documents)]
  | .gauss p origin scale decay offset => do
    let name ← p.render resolve
    return .object [("gauss", .object ([("path", name), ("origin", Value.number origin),
      ("scale", Value.number scale)] ++ optionalEntry "decay" .number decay ++
      optionalEntry "offset" .number offset))]
  | .transformed way child => do
    let document ← render resolve child
    return .object [(way.word, document)]

def renderAll (resolve : Resolver) : List ScoreFunction → Except (Fault Value) (List Value)
  | [] => .ok []
  | child :: rest => do
    let document ← render resolve child
    let documents ← renderAll resolve rest
    return document :: documents

end

end ScoreFunction

namespace Score

def render (resolve : Resolver) : Score → Except (Fault Value) Value
  | .boost value => .ok (.object [("boost", .object [("value", .number value)])])
  | .boostPath p undefined => do
    let name ← p.render resolve
    let rest := if undefined.isZero then [] else [("undefined", Value.number undefined)]
    return .object [("boost", .object (("path", name) :: rest))]
  | .constant value => .ok (.object [("constant", .object [("value", .number value)])])
  | .function expression => do
    let document ← expression.render resolve
    return .object [("function", document)]

/-- The score entry of a body, absent without a score. -/
def entries (resolve : Resolver) : Option Score → Except (Fault Value) (List (String × Value))
  | none => .ok []
  | some score => do
    let document ← score.render resolve
    return [("score", document)]

end Score

/-!
## Documents of spans and facets

The distance and the order of a nearness span are always written; a facet's
bucket count is written only when it is not ten.
-/

namespace Span

mutual

def render (resolve : Resolver) : Span → Except (Fault Value) Value
  | .term query path => do
    let name ← path.render resolve
    return .object [("term", .object [("query", query.render), ("path", name)])]
  | .first operator endPosition => do
    let document ← render resolve operator
    return .object [("first",
      .object [("operator", document), ("endPositionLte", .whole endPosition)])]
  | .near clauses slop inOrder => do
    let documents ← renderAll resolve clauses
    return .object [("near", .object [("clauses", .list documents), ("slop", .whole slop),
      ("inOrder", .bool inOrder)])]
  | .either clauses => do
    let documents ← renderAll resolve clauses
    return .object [("or", .object [("clauses", .list documents)])]
  | .subtract kept removed => do
    let included ← render resolve kept
    let excluded ← render resolve removed
    return .object [("subtract", .object [("include", included), ("exclude", excluded)])]

def renderAll (resolve : Resolver) : List Span → Except (Fault Value) (List Value)
  | [] => .ok []
  | clause :: rest => do
    let document ← render resolve clause
    let documents ← renderAll resolve rest
    return document :: documents

end

end Span

namespace Facet

def render (resolve : Resolver) : Facet → Except (Fault Value) Value
  | .string _ path buckets => do
    let name ← path.render resolve
    let rest := if buckets.value = 10 then [] else [("numBuckets", Value.whole buckets)]
    return .object ([("type", Value.text "string"), ("path", name)] ++ rest)
  | .number _ path boundaries outside => do
    let name ← path.render resolve
    return .object ([("type", Value.text "number"), ("path", name),
      ("boundaries", .list (boundaries.map .number))] ++ optionalEntry "default" .ofWords outside)
  | .date _ path boundaries outside => do
    let name ← path.render resolve
    return .object ([("type", Value.text "date"), ("path", name),
      ("boundaries", .list (boundaries.map .dateTime))] ++ optionalEntry "default" .ofWords outside)

def renderAll (resolve : Resolver) :
    List Facet → Except (Fault Value) (List (String × Value))
  | [] => .ok []
  | facet :: rest => do
    let document ← facet.render resolve
    let documents ← renderAll resolve rest
    return (facet.name.text, document) :: documents

end Facet

/-!
## Documents of geographic values

A geometry becomes its type and its coordinates.  An object that describes its
geometry is read when it is accepted and once more when it is written; where its
description goes through streams, nothing is left of them the second time.
-/

/-- The geometry types that a search area may have, in alphabetical order. -/
def polygonTypes : List String :=
  ["MultiPolygon", "Polygon"]

/-- The geometry types that a shape may have, in alphabetical order. -/
def shapeTypes : List String :=
  ["LineString", "MultiPolygon", "Point", "Polygon"]

namespace GeoPoint

def render (p : GeoPoint) : Value :=
  .object [("type", .text "Point"), ("coordinates", .list [.number p.longitude, .number p.latitude])]

end GeoPoint

namespace Value

/-- What an object describes its geometry by, if it does. -/
def outline? : Value → Option Value
  | .shape _ outline => some outline
  | .node (.bundle named) => named? "__geo_interface__" named
  | .node (.pointer _ _ _ others) => lookup "__geo_interface__" others
  | _ => none

/-- The tags of the streams that are gone through when a value is read as a dictionary. -/
def readStreams : Value → List Nat
  | .dict _ => []
  | .stream tag items => tag :: items.filterMap streamTag?
  | v => (v.elements?.getD []).filterMap streamTag?
where
  /-- The tag of a stream. -/
  streamTag? : Value → Option Nat
    | .stream tag _ => some tag
    | _ => none

/-- Whether a value describes its geometry by something that can be read only once. -/
def readsOnce (v : Value) : Bool :=
  (v.outline?.map (fun outline => !outline.readStreams.isEmpty)).getD false

/-- The fault of reading again what can be read only once: an empty description
has no type, and an empty pair is no pair. -/
def spentFault (argument : String) (allowed : List String) (v : Value) : Fault Value :=
  match v.outline? with
  | some (.stream ..) => .invalid argument v (.geometryType "None" allowed)
  | _ => .refused .badValue

end Value

namespace Geometry

def render (argument : String) (allowed : List String) (g : Geometry Value) :
    Except (Fault Value) Value :=
  if g.given.readsOnce then .error (g.given.spentFault argument allowed)
  else .ok (.object [("type", .text g.type), ("coordinates", g.coordinates)])

end Geometry

namespace GeoBox

def render (b : GeoBox Value) : Except (Fault Value) Value := do
  let bottomLeft ← b.bottomLeft.render "bottom_left" ["Point"]
  let topRight ← b.topRight.render "top_right" ["Point"]
  return .object [("bottomLeft", bottomLeft), ("topRight", topRight)]

end GeoBox

namespace GeoCircle

def render (c : GeoCircle Value) : Except (Fault Value) Value := do
  let center ← c.center.render "center" ["Point"]
  return .object [("center", center), ("radius", .number c.radius)]

end GeoCircle

namespace Area

def entry : Area Value → Except (Fault Value) (String × Value)
  | .geometry g => do
    let document ← g.render "geometry" polygonTypes
    return ("geometry", document)
  | .box b => do
    let document ← b.render
    return ("box", document)
  | .circle c => do
    let document ← c.render
    return ("circle", document)

end Area

/-!
## Documents of operators

An operator becomes a document with one entry, its name over its body.  A
setting is written only when it differs from the server's own, and the score
comes last.  A hand-written document is handed out as it was given.
-/

def Origin.render : Origin → Value
  | .number x => .number x
  | .date t => .dateTime t
  | .point p => p.render

def Bound.lowerEntry (b : Bound Value) : String × Value :=
  (if b.inclusive.truth then "gte" else "gt", .ofLimit b.limit)

def Bound.upperEntry (b : Bound Value) : String × Value :=
  (if b.inclusive.truth then "lte" else "lt", .ofLimit b.limit)

/-- A flag that is written only when it is set. -/
def flagEntry (key : String) (b : Bool) : List (String × Value) :=
  if b then [(key, .bool true)] else []

/-- An integer that is written only when it is positive. -/
def positiveEntry (key : String) (w : Whole) : List (String × Value) :=
  if 0 < w.value then [(key, .whole w)] else []

namespace Operator

def name {V : Type} : Operator V → String
  | .text .. => "text"
  | .phrase .. => "phrase"
  | .autocomplete .. => "autocomplete"
  | .pattern form .. => form.word
  | .queryString .. => "queryString"
  | .equals .. => "equals"
  | .existence _ => "exists"
  | .near .. => "near"
  | .geoWithin .. => "geoWithin"
  | .geoShape .. => "geoShape"
  | .range .. => "range"
  | .compound .. => "compound"
  | .span _ => "span"
  | .facet .. => "facet"
  | .raw _ => ""

mutual

def render (resolve : Resolver) : Operator Value → Except (Fault Value) Value
  | .text query p fuzzy score => do
    let path ← p.render resolve
    let last ← Score.entries resolve score
    return .object [("text", .object ([("query", query.render), ("path", path)] ++
      optionalEntry "fuzzy" Fuzzy.render fuzzy ++ last))]
  | .phrase query p slop score => do
    let path ← p.render resolve
    let last ← Score.entries resolve score
    return .object [("phrase", .object ([("query", query.render), ("path", path)] ++
      (if slop.value = 0 then [] else [("slop", .whole slop)]) ++ last))]
  | .autocomplete query p order fuzzy score => do
    let path ← p.render resolve
    let last ← Score.entries resolve score
    return .object [("autocomplete", .object ([("query", query.render), ("path", path)] ++
      (match order with
        | .any => []
        | .sequential => [("tokenOrder", Value.text order.word)]) ++
      optionalEntry "fuzzy" Fuzzy.render fuzzy ++ last))]
  | .pattern form query p analyzed score => do
    let path ← p.render resolve
    let last ← Score.entries resolve score
    return .object [(form.word, .object ([("query", query.render), ("path", path)] ++
      flagEntry "allowAnalyzedField" analyzed ++ last))]
  | .queryString field query score => do
    let name ← resolve field
    let last ← Score.entries resolve score
    return .object [("queryString",
      .object ([("defaultPath", .ofWords name), ("query", .ofWords query)] ++ last))]
  | .equals field value score => do
    let name ← resolve field
    let last ← Score.entries resolve score
    return .object [("equals",
      .object ([("path", .ofWords name), ("value", .ofExact value)] ++ last))]
  | .existence field => do
    let name ← resolve field
    return .object [("exists", .object [("path", .ofWords name)])]
  | .near p origin pivot score => do
    let path ← p.render resolve
    let last ← Score.entries resolve score
    return .object [("near", .object ([("path", path), ("origin", origin.render),
      ("pivot", .number pivot)] ++ last))]
  | .geoWithin p area score => do
    let path ← p.render resolve
    let entry ← area.entry
    let last ← Score.entries resolve score
    return .object [("geoWithin", .object (("path", path) :: entry :: last))]
  | .geoShape p geometry relation score => do
    let path ← p.render resolve
    let document ← geometry.render "geometry" shapeTypes
    let last ← Score.entries resolve score
    return .object [("geoShape", .object ([("path", path), ("geometry", document),
      ("relation", .text relation.word)] ++ last))]
  | .range _ p lower upper score => do
    let path ← p.render resolve
    let last ← Score.entries resolve score
    return .object [("range", .object (("path", path) :: (lower.toList.map Bound.lowerEntry ++
      upper.toList.map Bound.upperEntry ++ last)))]
  | .compound must mustNot should filter minimum score => do
    let first ← renderClauses resolve "must" must
    let second ← renderClauses resolve "mustNot" mustNot
    let third ← renderClauses resolve "should" should
    let fourth ← renderClauses resolve "filter" filter
    let last ← Score.entries resolve score
    return .object [("compound", .object (first ++ second ++ third ++ fourth ++
      positiveEntry "minimumShouldMatch" minimum ++ last))]
  | .span s => do
    let document ← s.render resolve
    return .object [("span", document)]
  | .facet operator facets => do
    let document ← render resolve operator
    let documents ← Facet.renderAll resolve facets
    return .object [("facet", .object [("operator", document), ("facets", .object documents)])]
  | .raw entries =>
    if (Value.dict entries).copyable then .ok (.dict entries) else .error (.refused .wrongType)

/-- The entry of a list of clauses, absent when the list was never given. -/
def renderClauses (resolve : Resolver) (key : String) :
    Option (List (Operator Value)) → Except (Fault Value) (List (String × Value))
  | none => .ok []
  | some clauses => do
    let documents ← renderAll resolve clauses
    return [(key, .list documents)]

def renderAll (resolve : Resolver) :
    List (Operator Value) → Except (Fault Value) (List Value)
  | [] => .ok []
  | clause :: rest => do
    let document ← render resolve clause
    let documents ← renderAll resolve rest
    return document :: documents

end

end Operator

end SearchQuery
