import SearchQuery.Stage
import SearchQuery.Script.Library.Fields

/-!
# Operators and stages for scripts

The callables of the library that make scores, spans, facets, operators, options
and stages.
-/

namespace SearchQuery

/-!
## Scores and expressions for scripts
-/

namespace Library

def addScore (c : Catalog) (body score schema : Value) : Checked Value := do
  match score with
  | .null => return body
  | score =>
    let document ← score.document c (some schema)
    match body with
    | .dict entries => return .dict (Value.insert (.text "score") document entries)
    | _ => throw (.refused .wrongType)

def score (s : Score) : Value :=
  .node (.score s)

def combinationOf (way : Combination) : Callable :=
  .constructor way.kind [.required "children"]
    (fun a => Action.wrapped .ofExpression (ScoreFunction.ofOperands way (a.get "children")))

def combining (way : Combination) : Callable :=
  ⟨way.word, false, .gathering [],
    fun a => Action.wrapped .ofExpression (ScoreFunction.ofOperands way (.tuple a.rest))⟩

/-- A transform of the expression that is its part. -/
def transformOf (way : Transform) : Callable :=
  .constructor way.kind [.required "child"]
    (fun a => Action.wrapped .ofExpression (ScoreFunction.ofOperand way (a.get "child")))

def transforming (way : Transform) : Callable :=
  .function way.word [.required "function"]
    (fun a => Action.wrapped .ofExpression (ScoreFunction.ofOperand way (a.get "function")))

def scores : List Callable := [
  .family "ScoreFunction",
  .family "ScoreDefinition",
  .constructor "PathFunction" [.required "path", .optional "undefined" (.int 0)]
    (fun a => Action.wrapped .ofExpression
      (ScoreFunction.ofPath (a.get "path") (a.get "undefined"))),
  .constructor "RelevanceFunction" [] (fun _ => pure (.ofExpression .relevance)),
  .constructor "ConstantFunction" [.required "value"]
    (fun a => Action.wrapped .ofExpression (ScoreFunction.ofConstant (a.get "value"))),
  combinationOf .unnamed,
  combinationOf .sum,
  combinationOf .product,
  .constructor "GaussFunction"
    [.required "path", .required "origin", .required "scale", .nullable "decay",
      .nullable "offset"]
    (fun a => Action.wrapped .ofExpression
      (ScoreFunction.ofGauss (a.get "path") (a.get "origin") (a.get "scale") (a.get "decay")
        (a.get "offset"))),
  transformOf .unnamed,
  transformOf .log,
  transformOf .log1p,
  .function "path_fn" [.required "path", .optional "undefined" (.int 0)] (fun a => do
    let p ← Action.path (a.get "path")
    Action.wrapped .ofExpression (ScoreFunction.makePath p (a.get "undefined"))),
  .function "relevance" [] (fun _ => pure (.ofExpression .relevance)),
  .function "constant_fn" [.required "value"]
    (fun a => Action.wrapped .ofExpression (ScoreFunction.ofConstant (a.get "value"))),
  combining .sum,
  combining .product,
  .function "gauss"
    [.required "path", .required "origin", .required "scale", .nullable "decay",
      .nullable "offset"]
    (fun a => do
      let p ← Action.path (a.get "path")
      Action.wrapped .ofExpression
        (ScoreFunction.makeGauss p (a.get "origin") (a.get "scale") (a.get "decay")
          (a.get "offset"))),
  transforming .log,
  transforming .log1p,
  .constructor "BoostValueScore" [.required "value"]
    (fun a => Action.wrapped score (Score.ofBoost (a.get "value"))),
  .constructor "BoostPathScore" [.required "path", .optional "undefined" (.int 0)]
    (fun a => Action.wrapped score (Score.ofBoostPath (a.get "path") (a.get "undefined"))),
  .constructor "ConstantScore" [.required "value"]
    (fun a => Action.wrapped score (Score.ofConstant (a.get "value"))),
  .constructor "FunctionScore" [.required "function"]
    (fun a => Action.wrapped score (Score.ofFunction (a.get "function"))),
  .function "boost" [.required "value"]
    (fun a => Action.wrapped score (Score.ofBoost (a.get "value"))),
  .function "boost_path" [.required "path", .optional "undefined" (.int 0)] (fun a => do
    let p ← Action.path (a.get "path")
    Action.wrapped score (Score.makeBoostPath p (a.get "undefined"))),
  .function "constant" [.required "value"]
    (fun a => Action.wrapped score (Score.ofConstant (a.get "value"))),
  .function "function" [.required "fn"]
    (fun a => Action.wrapped score (Score.ofFunction (a.get "fn"))),
  .function "add_score" [.required "body", .required "score", .required "schema"] (fun a => do
    Action.ofChecked
      (addScore (← Action.catalog) (a.get "body") (a.get "score") (a.get "schema")))]

end Library

/-!
## Spans and facets for scripts
-/

namespace Library

def span (outcome : Checked Span) : Action Value :=
  Action.wrapped .ofSpan outcome

def spans : List Callable := [
  .family "SpanDefinition",
  .function "_clauses" [.required "clauses", .required "name"] (fun a => do
    let _ ← guarded (fun argument => Span.clauses argument (a.get "clauses")) (a.get "name")
    return .null),
  .constructor "TermSpan" [.required "query", .required "path"]
    (fun a => span (Span.ofTerm (a.get "query") (a.get "path"))),
  .constructor "FirstSpan" [.required "operator", .required "end_position_lte"]
    (fun a => span (Span.ofFirst (a.get "operator") (a.get "end_position_lte"))),
  .constructor "NearSpan"
    [.required "clauses", .optional "slop" (.int 0), .optional "in_order" (.bool false)]
    (fun a => span (Span.ofNear (a.get "clauses") (a.get "slop") (a.get "in_order"))),
  .constructor "OrSpan" [.required "clauses"]
    (fun a => span (Span.ofAlternatives (a.get "clauses"))),
  .constructor "SubtractSpan" [.required "include", .required "exclude"]
    (fun a => span (Span.ofSubtract (a.get "include") (a.get "exclude"))),
  .constructor "SpanSearchDefinition" [.required "definition"]
    (fun a => Action.wrapped .ofOperator (Operator.ofSpan (a.get "definition"))),
  .function "span_term" [.required "query", .required "path"] (fun a => do
    let q ← Action.query (a.get "query")
    let p ← Action.path (a.get "path")
    span (Span.makeTerm q p)),
  .function "span_first" [.required "operator", .required "end_position_lte"]
    (fun a => span (Span.ofFirst (a.get "operator") (a.get "end_position_lte"))),
  .function "span_near"
    [.required "clauses", .optional "slop" (.int 0), .optional "in_order" (.bool false)]
    (fun a => do
      let clauses ← Action.sequence (a.get "clauses")
      span (Span.makeNear clauses (a.get "slop") (a.get "in_order"))),
  ⟨"span_or", false, .gathering [], fun a => span (Span.ofAlternatives (.tuple a.rest))⟩,
  .function "span_subtract" [.required "include", .required "exclude"]
    (fun a => span (Span.ofSubtract (a.get "include") (a.get "exclude"))),
  .function "span" [.required "definition"]
    (fun a => Action.wrapped .ofOperator (Operator.ofSpan (a.get "definition")))]

def facet (outcome : Checked Facet) : Action Value :=
  Action.wrapped (fun f => .node (.facet f)) outcome

def boundaryParameters : List Parameter :=
  [.required "name", .required "path", .required "boundaries", .nullable "default"]

def facets : List Callable := [
  .family "SearchFacet",
  .family "_BoundaryFacet",
  .constructor "StringFacet"
    [.required "name", .required "path", .optional "num_buckets" (.int 10)]
    (fun a => facet (Facet.ofString (a.get "name") (a.get "path") (a.get "num_buckets"))),
  .constructor "NumberFacet" boundaryParameters (fun a => facet
    (Facet.ofNumbers (a.get "name") (a.get "path") (a.get "boundaries") (a.get "default"))),
  .constructor "DateFacet" boundaryParameters (fun a => facet
    (Facet.ofDates (a.get "name") (a.get "path") (a.get "boundaries") (a.get "default"))),
  .constructor "FacetSearchDefinition" [.required "operator", .required "facets"]
    (fun a => Action.wrapped .ofOperator
      (Operator.ofFacets (a.get "operator") (a.get "facets"))),
  .function "string_facet"
    [.required "name", .required "path", .optional "num_buckets" (.int 10)]
    (fun a => do
      let p ← Action.path (a.get "path")
      facet (Facet.makeString (a.get "name") p (a.get "num_buckets"))),
  .function "number_facet" boundaryParameters (fun a => do
    let p ← Action.path (a.get "path")
    let boundaries ← Action.sequence (a.get "boundaries")
    facet (Facet.makeNumbers (a.get "name") p boundaries (a.get "default"))),
  .function "date_facet" boundaryParameters (fun a => do
    let p ← Action.path (a.get "path")
    let boundaries ← Action.sequence (a.get "boundaries")
    facet (Facet.makeDates (a.get "name") p boundaries (a.get "default"))),
  ⟨"facet", false, .gathering [.required "operator"], fun a => Action.wrapped .ofOperator
    (Operator.ofFacets (a.get "operator") (.tuple a.rest))⟩]

end Library

/-!
## Operators for scripts
-/

namespace Library

def operator (outcome : Checked (Operator Value)) : Action Value :=
  Action.wrapped .ofOperator outcome

def patternParameters : List Parameter :=
  [.required "query", .required "path", .optional "allow_analyzed_field" (.bool false),
    .nullable "score"]

/-- An operator that matches patterns, from its parts. -/
def patternOf (form : PatternForm) : Callable :=
  .constructor form.kind patternParameters (fun a => operator
    (Operator.ofPattern form (a.get "query") (a.get "path") (a.get "allow_analyzed_field")
      (a.get "score")))

def matching (form : PatternForm) : Callable :=
  .function form.word patternParameters (fun a => do
    let q ← Action.query (a.get "query")
    let p ← Action.path (a.get "path")
    operator
      (Operator.makePattern form q p (a.get "allow_analyzed_field") (a.get "score")))

/-- The order of terms that an autocompletion has when none is given. -/
def anyOrder : Value :=
  .node (.choice (.order .any))

def strictOperators : List Callable := [
  .family "SearchDefinition",
  .constructor "TextSearchDefinition"
    [.required "query", .required "path", .nullable "fuzzy", .nullable "score"]
    (fun a => operator
      (Operator.ofText (a.get "query") (a.get "path") (a.get "fuzzy") (a.get "score"))),
  .constructor "PhraseSearchDefinition"
    [.required "query", .required "path", .optional "slop" (.int 0), .nullable "score"]
    (fun a => operator
      (Operator.ofPhrase (a.get "query") (a.get "path") (a.get "slop") (a.get "score"))),
  .constructor "AutocompleteSearchDefinition"
    [.required "query", .required "path", .optional "token_order" anyOrder,
      .nullable "fuzzy", .nullable "score"]
    (fun a => operator
      (Operator.ofAutocomplete (a.get "query") (a.get "path") (a.get "token_order")
        (a.get "fuzzy") (a.get "score"))),
  patternOf .unnamed,
  patternOf .wildcard,
  patternOf .regex,
  .constructor "QueryStringSearchDefinition"
    [.required "default_path", .required "query", .nullable "score"]
    (fun a => operator
      (Operator.ofQueryString (a.get "default_path") (a.get "query") (a.get "score"))),
  .constructor "EqualsSearchDefinition" [.required "path", .required "value", .nullable "score"]
    (fun a => operator (Operator.ofEquals (a.get "path") (a.get "value") (a.get "score"))),
  .constructor "ExistsSearchDefinition" [.required "path"]
    (fun a => operator (Operator.ofExistence (a.get "path"))),
  .constructor "NearSearchDefinition"
    [.required "path", .required "origin", .required "pivot", .nullable "score"]
    (fun a => operator
      (Operator.ofNear (a.get "path") (a.get "origin") (a.get "pivot") (a.get "score"))),
  .constructor "GeoWithinSearchDefinition"
    [.required "path", .nullable "geometry", .nullable "box", .nullable "circle",
      .nullable "score"]
    (fun a => do
      let geometry ← Action.readOutline (a.get "geometry")
      operator (Operator.ofGeoWithin (a.get "path") geometry (a.get "box") (a.get "circle")
        (a.get "score"))),
  .constructor "GeoShapeSearchDefinition"
    [.required "path", .required "geometry", .required "relation", .nullable "score"]
    (fun a => do
      let geometry ← Action.readOutline (a.get "geometry")
      operator
        (Operator.ofGeoShape (a.get "path") geometry (a.get "relation") (a.get "score"))),
  .constructor "RawSearchDefinition" [.required "document"]
    (fun a => operator (Operator.ofRaw (a.get "document"))),
  .constructor "CompoundSearchDefinition"
    [.nullable "must_clauses", .nullable "must_not_clauses", .nullable "should_clauses",
      .nullable "filter_clauses", .optional "should_minimum" (.int 0), .nullable "score"]
    (fun a => operator
      (Compound.build (a.get "must_clauses") (a.get "must_not_clauses")
        (a.get "should_clauses") (a.get "filter_clauses") (a.get "should_minimum")
        (a.get "score")))]

/-- Operators from anything their queries and paths can be made from. -/
def lenientOperators : List Callable := [
  .function "text"
    [.required "query", .required "path", .nullable "fuzzy", .nullable "score"]
    (fun a => do
      let q ← Action.query (a.get "query")
      let p ← Action.path (a.get "path")
      operator (Operator.makeText q p (a.get "fuzzy") (a.get "score"))),
  .function "phrase"
    [.required "query", .required "path", .optional "slop" (.int 0), .nullable "score"]
    (fun a => do
      let q ← Action.query (a.get "query")
      let p ← Action.path (a.get "path")
      operator (Operator.makePhrase q p (a.get "slop") (a.get "score"))),
  .function "autocomplete"
    [.required "query", .required "path", .optional "token_order" anyOrder,
      .nullable "fuzzy", .nullable "score"]
    (fun a => do
      let q ← Action.query (a.get "query")
      let p ← Action.path (a.get "path")
      operator (Operator.makeAutocomplete q p (a.get "token_order") (a.get "fuzzy")
        (a.get "score"))),
  matching .wildcard,
  matching .regex,
  .function "query_string" [.required "default_path", .required "query", .nullable "score"]
    (fun a => operator
      (Operator.ofQueryString (a.get "default_path") (a.get "query") (a.get "score"))),
  .function "equals" [.required "field", .required "value", .nullable "score"]
    (fun a => operator (Operator.ofEquals (a.get "field") (a.get "value") (a.get "score"))),
  .function "exists" [.required "field"]
    (fun a => operator (Operator.ofExistence (a.get "field"))),
  .function "near" [.required "path", .required "origin", .required "pivot", .nullable "score"]
    (fun a => do
      let p ← Action.path (a.get "path")
      operator (Operator.makeNear p (a.get "origin") (a.get "pivot") (a.get "score"))),
  .function "geo_within" [.required "path", .required "geometry", .nullable "score"]
    (fun a => do
      let p ← Action.path (a.get "path")
      let geometry ← Action.readOutline (a.get "geometry")
      operator (Operator.makeGeoWithin p geometry (a.get "score"))),
  .function "geo_within_box" [.required "path", .required "box", .nullable "score"]
    (fun a => do
      let p ← Action.path (a.get "path")
      operator (Operator.makeGeoWithinBox p (a.get "box") (a.get "score"))),
  .function "geo_within_circle" [.required "path", .required "circle", .nullable "score"]
    (fun a => do
      let p ← Action.path (a.get "path")
      operator (Operator.makeGeoWithinCircle p (a.get "circle") (a.get "score"))),
  .function "geo_shape"
    [.required "path", .required "geometry", .required "relation", .nullable "score"]
    (fun a => do
      let p ← Action.path (a.get "path")
      let geometry ← Action.readOutline (a.get "geometry")
      operator (Operator.makeGeoShape p geometry (a.get "relation") (a.get "score"))),
  .function "raw" [.required "document"] (fun a => do
    operator (Operator.makeRaw (← Action.fresh) (a.get "document"))),
  .function "compound" [.nullable "score"] (fun a => operator (Compound.make (a.get "score")))]

def rangeOf (form : RangeForm) : Callable :=
  .constructor form.kind
    [.required "path", .nullable "lower", .nullable "upper", .nullable "score"]
    (fun a => operator
      (Range.build form (a.get "path") (a.get "lower") (a.get "upper") (a.get "score")))

def rangeStart (s : Range.Start) : Value :=
  .node (.rangeStart s.path s.score)

def boundWord (argument : String) (v : Value) : Checked Value :=
  match v with
  | .number _ => .ok (.text "number")
  | .dateTime _ => .ok (.text "date")
  | v => .error (.invalid argument v (.expectedBound v.kind))

def ranges : List Callable := [
  .function "_kind" [.required "value", .required "name"]
    (fun a => guarded (fun argument => boundWord argument (a.get "value")) (a.get "name")),
  .constructor "RangeBound" [.required "value", .required "inclusive"]
    (fun a => pure (.node (.bound (a.get "value") (a.get "inclusive")))),
  rangeOf .complete,
  rangeOf .lowerBounded,
  rangeOf .upperBounded,
  .constructor "RangeBuilder" [.required "path", .nullable "score"]
    (fun a => Action.wrapped rangeStart (Range.start (a.get "path") (a.get "score"))),
  .function "range_" [.required "path", .nullable "score"] (fun a => do
    let p ← Action.path (a.get "path")
    Action.wrapped rangeStart (Range.make p (a.get "score")))]

def lengthOf (v : Value) : Checked Nat :=
  match v, v.elements? with
  | .stream .., _ => .error (.refused .wrongType)
  | .node (.generic ..), _ => .error (.refused .wrongType)
  | _, some items => .ok items.length
  | _, none => .error (.refused .wrongType)

/-- The clauses that were given, in a container of their own: the only one that
is no operator is gone through itself. -/
def spread (argument : Value) (clauses : Value) : Action Value := do
  if (← Action.ofChecked (lengthOf clauses)) ≠ 1 then return clauses
  match ← Action.ofChecked (clauses.item (← Action.catalog) (.int 0)) with
  | .node (.operator _) => return clauses
  | only =>
    match (← Action.drain only).elements? with
    | some items => return .tuple items
    | none =>
      let _ ← guarded (fun name => Guard.operator name only) argument
      return clauses

/-- Two sequences of one kind one after the other; nothing stands for the empty tuple. -/
def concatenated (existing more : Value) : Checked Value :=
  match if existing.truth then existing else .tuple [], more with
  | .tuple old, .tuple more => .ok (.tuple (old ++ more))
  | .list old, .list more => .ok (.list (old ++ more))
  | _, _ => .error (.refused .wrongType)

/-- Clauses with more after them. -/
def extend (existing clauses argument : Value) : Action Value := do
  let more ← spread argument clauses
  let items ← Action.ofChecked more.toItems
  if items.isEmpty then
    let _ ← guarded (fun name => (.error (.invalid name more .noClause) : Checked Unit)) argument
  let _ ← guarded (fun name => Guard.each (Guard.operator name) items) argument
  Action.ofChecked (concatenated existing more)

def operators : List Callable :=
  strictOperators ++ lenientOperators ++ ranges ++ [
    enumeration "AutocompleteTokenOrder",
    .function "_extend" [.required "existing", .required "clauses", .required "name"]
      (fun a => extend (a.get "existing") (a.get "clauses") (a.get "name"))]

end Library

/-!
## Options, stages and faults for scripts
-/

namespace Library

def highlight (h : Highlight) : Value :=
  .node (.highlight h)

def options : List Callable := [
  enumeration "CountType",
  .constructor "FuzzyOptions"
    [.nullable "max_edits", .nullable "prefix_length", .nullable "max_expansions"]
    (fun a => Action.wrapped (fun f => .node (.fuzzy f))
      (Fuzzy.build (a.get "max_edits") (a.get "prefix_length") (a.get "max_expansions"))),
  .constructor "CountOptions"
    [.optional "type" (.node (.choice (.count .lowerBound))), .nullable "threshold"]
    (fun a => Action.wrapped (fun c => .node (.count c))
      (Count.build (a.get "type") (a.get "threshold"))),
  .constructor "HighlightOptions"
    [.required "path", .nullable "max_chars_to_examine", .nullable "max_num_passages"]
    (fun a => Action.wrapped highlight
      (Highlight.build (a.get "path") (a.get "max_chars_to_examine")
        (a.get "max_num_passages"))),
  .function "highlight"
    [.required "path", .nullable "max_chars_to_examine", .nullable "max_num_passages"]
    (fun a => do
      let p ← Action.path (a.get "path")
      Action.wrapped highlight
        (Highlight.make p (a.get "max_chars_to_examine") (a.get "max_num_passages")))]

def stages : List Callable := [
  ⟨"search_stage", false,
    ⟨[.required "query", .nullable "schema"], false,
      [.nullable "highlight", .nullable "index", .nullable "count",
        .optional "return_stored_source" (.bool false)]⟩,
    fun a => do
      Action.ofChecked (Stage.search (← Action.catalog) (a.get "query") (a.get "schema")
        (a.get "highlight") (a.get "index") (a.get "count")
        (a.get "return_stored_source").truth)⟩,
  ⟨"search_meta_stage", false,
    ⟨[.required "query", .nullable "schema"], false, [.nullable "index", .nullable "count"]⟩,
    fun a => do
      Action.ofChecked (Stage.searchMeta (← Action.catalog) (a.get "query") (a.get "schema")
        (a.get "index") (a.get "count"))⟩,
  .function "_query_body" [.required "query", .required "schema"] (fun a => do
    let op ← Action.ofChecked (Guard.operator "query" (a.get "query"))
    Action.ofChecked (Node.documentWith (← Action.catalog) (a.get "schema") (.operator op))),
  .function "meta_search_score" [.required "field"]
    (fun a => Action.ofChecked (Stage.projectScore (a.get "field"))),
  .function "meta_search_highlights" [.required "field"]
    (fun a => Action.ofChecked (Stage.projectHighlights (a.get "field"))),
  .function "search_meta" [.required "field", .nullable "schema"] (fun a => do
    Action.ofChecked (Stage.projectMeta (← Action.catalog) (a.get "field") (a.get "schema")))]

def fault (f : Fault Value) : Action Value := do
  return .node (.fault f (← Action.fresh))

/-- A fault made by hand, which keeps what it is given. -/
def told (kind : String) (parameters : List String) (message : Arguments → Action String) :
    Callable :=
  .constructor kind (parameters.map .required) (fun a => do
    fault (.told kind (parameters.map (fun name => (name, a.get name))) (← message a)))

def refusalMessage (a : Arguments) : Action String := do
  let argument ← plainText (a.get "argument")
  return "Invalid " ++ argument ++ ": " ++ (← plainText (a.get "reason"))

def faults : List Callable := [
  ⟨"AtlasSearchError", true, .gathering [], fun a => fault (.general a.rest)⟩,
  told "InvalidArgumentError" ["argument", "value", "reason"] refusalMessage,
  told "ArgumentOutOfRangeError" ["argument", "value", "reason"] refusalMessage,
  told "SchemaMismatchError" ["field", "reason"] (fun a => do
    let reason ← plainText (a.get "reason")
    return "Cannot resolve field " ++ (← Action.ofChecked (a.get "field").shownText) ++ ": " ++
      reason)]

end Library

end SearchQuery
