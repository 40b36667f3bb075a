import SearchQuery.Proofs.Factories

/-!
# What constructors accept

Every part of a definition has a constructor that takes its parts as they are
and checks them.  What a constructor accepts is said once for all of them: the
values that it was given have a shape, the parts among them are in the node
that it makes, and its checks hold of what it was given.
-/

namespace SearchQuery

/-- The constructors of the nodes of definitions, and that of a bound, which
checks nothing. -/
inductive Constructor where
  | singleQuery | multiQuery
  | singlePath | multiPath | analyzerPath | wildcardPath
  | fuzzy | count | highlight
  | point | box | circle
  | pathFunction | relevance | constantFunction | combined (way : Combination) | gauss
  | transformed (way : Transform)
  | boost | boostPath | constant | function
  | spanTerm | spanFirst | spanNear | spanOr | spanSubtract
  | stringFacet | numberFacet | dateFacet
  | text | phrase | autocomplete | pattern (form : PatternForm) | queryString | equals | existence
  | near | geoWithin | geoShape | raw | compound | span | facet
  | bound | range (form : RangeForm) | rangeStart

namespace Constructor

open Factory (one two three four five)

def six (call : Value → Value → Value → Value → Value → Value → Checked (Node Value)) :
    List Value → Checked (Node Value)
  | [a, b, c, d, e, f] => call a b c d e f
  | _ => .error (.refused .wrongType)

def run : Constructor → List Value → Checked (Node Value)
  | .singleQuery => one (fun q => (Query.ofText q).map .query)
  | .multiQuery => one (fun qs => (Query.ofTexts qs).map .query)
  | .singlePath => one (fun f => (Path.ofField f).map .path)
  | .multiPath => one (fun fs => (Path.ofFields fs).map .path)
  | .analyzerPath => two (fun f name => (Path.ofAnalyzer f name).map .path)
  | .wildcardPath => one (fun pattern => (Path.ofPattern pattern).map .path)
  | .fuzzy => three (fun edits kept expansions => (Fuzzy.build edits kept expansions).map .fuzzy)
  | .count => two (fun type threshold => (Count.build type threshold).map .count)
  | .highlight => three (fun p chars passages => (Highlight.build p chars passages).map .highlight)
  | .point => two (fun longitude latitude => (GeoPoint.build longitude latitude).map .point)
  | .box => two (fun bottomLeft topRight => (GeoBox.build bottomLeft topRight).map .box)
  | .circle => two (fun center radius => (GeoCircle.build center radius).map .circle)
  | .pathFunction => two (fun p undefined => (ScoreFunction.ofPath p undefined).map .expression)
  | .relevance => fun _ => .ok (.expression .relevance)
  | .constantFunction => one (fun x => (ScoreFunction.ofConstant x).map .expression)
  | .combined way => one (fun children => (ScoreFunction.ofOperands way children).map .expression)
  | .gauss => five (fun p origin scale decay offset =>
    (ScoreFunction.ofGauss p origin scale decay offset).map .expression)
  | .transformed way => one (fun child => (ScoreFunction.ofOperand way child).map .expression)
  | .boost => one (fun x => (Score.ofBoost x).map .score)
  | .boostPath => two (fun p undefined => (Score.ofBoostPath p undefined).map .score)
  | .constant => one (fun x => (Score.ofConstant x).map .score)
  | .function => one (fun f => (Score.ofFunction f).map .score)
  | .spanTerm => two (fun q p => (Span.ofTerm q p).map .span)
  | .spanFirst => two (fun s endPosition => (Span.ofFirst s endPosition).map .span)
  | .spanNear => three (fun spans slop inOrder => (Span.ofNear spans slop inOrder).map .span)
  | .spanOr => one (fun spans => (Span.ofAlternatives spans).map .span)
  | .spanSubtract => two (fun kept removed => (Span.ofSubtract kept removed).map .span)
  | .stringFacet => three (fun name p buckets => (Facet.ofString name p buckets).map .facet)
  | .numberFacet =>
    four (fun name p bounds outside => (Facet.ofNumbers name p bounds outside).map .facet)
  | .dateFacet =>
    four (fun name p bounds outside => (Facet.ofDates name p bounds outside).map .facet)
  | .text => four (fun q p f s => (Operator.ofText q p f s).map .operator)
  | .phrase => four (fun q p slop s => (Operator.ofPhrase q p slop s).map .operator)
  | .autocomplete =>
    five (fun q p order f s => (Operator.ofAutocomplete q p order f s).map .operator)
  | .pattern form =>
    four (fun q p analyzed s => (Operator.ofPattern form q p analyzed s).map .operator)
  | .queryString => three (fun f q s => (Operator.ofQueryString f q s).map .operator)
  | .equals => three (fun f v s => (Operator.ofEquals f v s).map .operator)
  | .existence => one (fun f => (Operator.ofExistence f).map .operator)
  | .near => four (fun p origin pivot s => (Operator.ofNear p origin pivot s).map .operator)
  | .geoWithin =>
    five (fun p geometry box circle s =>
      (Operator.ofGeoWithin p geometry box circle s).map .operator)
  | .geoShape =>
    four (fun p geometry relation s => (Operator.ofGeoShape p geometry relation s).map .operator)
  | .raw => one (fun document => (Operator.ofRaw document).map .operator)
  | .compound => six (fun must mustNot should filter minimum s =>
    (Compound.build must mustNot should filter minimum s).map .operator)
  | .span => one (fun s => (Operator.ofSpan s).map .operator)
  | .facet => two (fun op facets => (Operator.ofFacets op facets).map .operator)
  | .bound => two (fun value inclusive => .ok (.bound value inclusive))
  | .range form => four (fun p lower upper s => (Range.build form p lower upper s).map .operator)
  | .rangeStart =>
    two (fun p s => (Range.start p s).map (fun start => .rangeStart start.path start.score))

/-- What a constructor makes of what it is given: the shape of the arguments,
the node, and what was checked. -/
inductive Builds : Constructor → List Value → Node Value → Prop where
  | singleQuery {v : Value} {w : Words} (words : v.asWords? = some w) :
      Builds .singleQuery [v] (.query (.single w))
  | multiQuery {items : List Value} {ws : List Words}
      (words : Guard.each (Guard.anyText "queries") items = .ok ws) :
      Builds .multiQuery [.tuple items] (.query (.many ws))
  | singlePath {v : Value} {f : Field} (field : Guard.field "field" v = .ok f) :
      Builds .singlePath [v] (.path (.single f))
  | multiPath {items : List Value} {fs : List Field} (some : items ≠ [])
      (fields : Guard.each (Guard.field "fields") items = .ok fs) :
      Builds .multiPath [.tuple items] (.path (.many fs))
  | analyzerPath {v a : Value} {f : Field} {w : Words} (field : Guard.field "field" v = .ok f)
      (analyzer : Guard.text "analyzer" a = .ok w) :
      Builds .analyzerPath [v, a] (.path (.analyzed f w))
  | wildcardPath {v : Value} {w : Words} (pattern : Guard.text "pattern" v = .ok w) :
      Builds .wildcardPath [v] (.path (.wildcard w))
  | fuzzy {edits kept expansions : Option Whole} (few : ∀ w ∈ edits, 1 ≤ w.value ∧ w.value ≤ 2)
      (natural : ∀ w ∈ kept, 0 ≤ w.value) (positive : ∀ w ∈ expansions, 0 < w.value) :
      Builds .fuzzy [.ofOption .whole edits, .ofOption .whole kept, .ofOption .whole expansions]
        (.fuzzy ⟨edits, kept, expansions⟩)
  | count {type : CountType} {threshold : Option Whole} (positive : ∀ w ∈ threshold, 0 < w.value) :
      Builds .count [.node (.choice (.count type)), .ofOption .whole threshold]
        (.count ⟨type, threshold⟩)
  | highlight {p : Path} {chars passages : Option Whole} (some : ∀ w ∈ chars, 0 < w.value)
      (positive : ∀ w ∈ passages, 0 < w.value) :
      Builds .highlight [.ofPath p, .ofOption .whole chars, .ofOption .whole passages]
        (.highlight ⟨p, chars, passages⟩)
  | point {x y : Number} (east : Number.le (.int (-180)) x = true) (west : x.le (.int 180) = true)
      (south : Number.le (.int (-90)) y = true) (north : y.le (.int 90) = true) :
      Builds .point [.number x, .number y] (.point ⟨x, y⟩)
  | box {low high : Value} {g h : Geometry Value}
      (bottomLeft : Geometry.point "bottom_left" low = .ok g)
      (topRight : Geometry.point "top_right" high = .ok h) :
      Builds .box [low, high] (.box ⟨g, h⟩)
  | circle {v : Value} {g : Geometry Value} {r : Number}
      (center : Geometry.point "center" v = .ok g) (radius : r.NotBelow) :
      Builds .circle [v, .number r] (.circle ⟨g, r⟩)
  | pathFunction {p : Path} {u : Number} :
      Builds .pathFunction [.ofPath p, .number u] (.expression (.path p u))
  | relevance {given : List Value} : Builds .relevance given (.expression .relevance)
  | constantFunction {x : Number} :
      Builds .constantFunction [.number x] (.expression (.constant x))
  | combined {way : Combination} {fs : List ScoreFunction} (enough : 2 ≤ fs.length) :
      Builds (.combined way) [.tuple (fs.map .ofExpression)] (.expression (.combined way fs))
  | gauss {p : Path} {origin scale : Number} {decay offset : Option Number}
      (positive : scale.NotBelow)
      (rate : ∀ x ∈ decay, Number.lt (.int 0) x = true ∧ x.lt (.int 1) = true) :
      Builds .gauss [.ofPath p, .number origin, .number scale, .ofOption .number decay,
        .ofOption .number offset] (.expression (.gauss p origin scale decay offset))
  | transformed {way : Transform} {f : ScoreFunction} :
      Builds (.transformed way) [.ofExpression f] (.expression (.transformed way f))
  | boost {x : Number} (positive : x.NotBelow) : Builds .boost [.number x] (.score (.boost x))
  | boostPath {p : Path} {u : Number} :
      Builds .boostPath [.ofPath p, .number u] (.score (.boostPath p u))
  | constant {x : Number} (positive : x.NotBelow) :
      Builds .constant [.number x] (.score (.constant x))
  | function {f : ScoreFunction} : Builds .function [.ofExpression f] (.score (.function f))
  | spanTerm {q : Query} {p : Path} : Builds .spanTerm [.ofQuery q, .ofPath p] (.span (.term q p))
  | spanFirst {s : Span} {w : Whole} (positive : 1 ≤ w.value) :
      Builds .spanFirst [.ofSpan s, .whole w] (.span (.first s w))
  | spanNear {ss : List Span} {w : Whole} {b : Bool} (some : ss ≠ []) (natural : 0 ≤ w.value) :
      Builds .spanNear [.tuple (ss.map .ofSpan), .whole w, .bool b] (.span (.near ss w b))
  | spanOr {ss : List Span} (some : ss ≠ []) :
      Builds .spanOr [.tuple (ss.map .ofSpan)] (.span (.either ss))
  | spanSubtract {kept removed : Span} :
      Builds .spanSubtract [.ofSpan kept, .ofSpan removed] (.span (.subtract kept removed))
  | stringFacet {v : Value} {name : Words} {p : Path} {w : Whole}
      (named : Guard.text "name" v = .ok name) (some : 1 ≤ w.value) (few : w.value ≤ 1000) :
      Builds .stringFacet [v, .ofPath p, .whole w] (.facet (.string name p w))
  | numberFacet {v o : Value} {name : Words} {p : Path} {xs : List Number} {outside : Option Words}
      (named : Guard.text "name" v = .ok name) (enough : 2 ≤ xs.length)
      (outer : Facet.outsideName o = .ok outside) :
      Builds .numberFacet [v, .ofPath p, .tuple (xs.map .number), o]
        (.facet (.number name p xs outside))
  | dateFacet {v o : Value} {name : Words} {p : Path} {ts : List DateTime} {outside : Option Words}
      (named : Guard.text "name" v = .ok name) (enough : 2 ≤ ts.length)
      (outer : Facet.outsideName o = .ok outside) :
      Builds .dateFacet [v, .ofPath p, .tuple (ts.map .dateTime), o]
        (.facet (.date name p ts outside))
  | text {q : Query} {p : Path} {f : Option Fuzzy} {s : Option Score} :
      Builds .text [.ofQuery q, .ofPath p, .ofFuzzy f, .ofScore s] (.operator (.text q p f s))
  | phrase {q : Query} {p : Path} {w : Whole} {s : Option Score} (natural : 0 ≤ w.value) :
      Builds .phrase [.ofQuery q, .ofPath p, .whole w, .ofScore s] (.operator (.phrase q p w s))
  | autocomplete {q : Query} {p : Path} {o : TokenOrder} {f : Option Fuzzy} {s : Option Score} :
      Builds .autocomplete
        [.ofQuery q, .ofPath p, .node (.choice (.order o)), .ofFuzzy f, .ofScore s]
        (.operator (.autocomplete q p o f s))
  | pattern {form : PatternForm} {q : Query} {p : Path} {a : Bool} {s : Option Score} :
      Builds (.pattern form) [.ofQuery q, .ofPath p, .bool a, .ofScore s]
        (.operator (.pattern form q p a s))
  | queryString {v u : Value} {f : Field} {w : Words} {s : Option Score}
      (field : Guard.field "default_path" v = .ok f) (words : u.asWords? = some w) :
      Builds .queryString [v, u, .ofScore s] (.operator (.queryString f w s))
  | equals {v : Value} {f : Field} {e : Exact} {s : Option Score}
      (field : Guard.field "path" v = .ok f) :
      Builds .equals [v, .ofExact e, .ofScore s] (.operator (.equals f e s))
  | existence {v : Value} {f : Field} (field : Guard.field "path" v = .ok f) :
      Builds .existence [v] (.operator (.existence f))
  | near {p : Path} {o : Origin} {x : Number} {s : Option Score} :
      Builds .near [.ofPath p, .ofOrigin o, .number x, .ofScore s] (.operator (.near p o x s))
  | geoWithinGeometry {p : Path} {v : Value} {g : Geometry Value} {s : Option Score}
      (polygon : Geometry.build polygonTypes "geometry" v = .ok g) :
      Builds .geoWithin [.ofPath p, v, .null, .null, .ofScore s]
        (.operator (.geoWithin p (.geometry g) s))
  | geoWithinBox {p : Path} {b : GeoBox Value} {s : Option Score} :
      Builds .geoWithin [.ofPath p, .null, .node (.box b), .null, .ofScore s]
        (.operator (.geoWithin p (.box b) s))
  | geoWithinCircle {p : Path} {c : GeoCircle Value} {s : Option Score} :
      Builds .geoWithin [.ofPath p, .null, .null, .node (.circle c), .ofScore s]
        (.operator (.geoWithin p (.circle c) s))
  | geoShape {p : Path} {v : Value} {g : Geometry Value} {r : ShapeRelation} {s : Option Score}
      (shape : Geometry.build shapeTypes "geometry" v = .ok g) :
      Builds .geoShape [.ofPath p, v, .node (.choice (.relation r)), .ofScore s]
        (.operator (.geoShape p g r s))
  | raw {entries : List (Value × Value)} : Builds .raw [.dict entries] (.operator (.raw entries))
  | compound {must mustNot should filter : Option (List (Operator Value))} {least : Whole}
      {s : Option Score} (natural : 0 ≤ least.value) :
      Builds .compound [.ofClauses must, .ofClauses mustNot, .ofClauses should, .ofClauses filter,
        .whole least, .ofScore s] (.operator (.compound must mustNot should filter least s))
  | span {s : Span} : Builds .span [.ofSpan s] (.operator (.span s))
  | facet {op : Operator Value} {fs : List Facet} (some : fs ≠ []) :
      Builds .facet [.ofOperator op, .tuple (fs.map (fun f => .node (.facet f)))]
        (.operator (.facet op fs))
  | bound {value inclusive : Value} : Builds .bound [value, inclusive] (.bound value inclusive)
  | range {form : RangeForm} {p : Path} {lower upper : Option (Bound Value)} {s : Option Score}
      (agree : Range.agree lower upper = true) :
      Builds (.range form) [.ofPath p, .ofBound lower, .ofBound upper, .ofScore s]
        (.operator (.range form p lower upper s))
  | rangeStart {p : Path} {s : Option Score} :
      Builds .rangeStart [.ofPath p, .ofScore s] (.rangeStart p s)

end Constructor

namespace Guard

variable {argument : String} {v : Value}

/-- A guard for every item passes items that are what it gives back. -/
theorem each_eq_map {α : Type} {guard : Value → Checked α} {wrap : α → Value}
    (one : ∀ v a, guard v = .ok a → v = wrap a) {items : List Value} {found : List α}
    (passed : each guard items = .ok found) : items = found.map wrap := by
  have both := each_eq_ok.mp passed
  clear passed
  induction both with
  | nil => rfl
  | cons first _ ih => rw [List.map_cons, one _ _ first, ih]

/-- An optional guard passes what it gives back, absence being null. -/
theorem optional_eq_ofOption {α : Type} {guard : String → Value → Checked α} {wrap : α → Value}
    (one : ∀ a, guard argument v = .ok a → v = wrap a) {found : Option α}
    (passed : optional guard argument v = .ok found) : v = .ofOption wrap found := by
  rcases optional_eq_ok passed with ⟨rfl, rfl⟩ | ⟨a, rfl, inner⟩
  · rfl
  · exact one a inner

theorem optionalPositive_eq_ok {found : Option Whole}
    (passed : optional positiveInteger argument v = .ok found) :
    v = .ofOption .whole found ∧ ∀ w ∈ found, 0 < w.value :=
  ⟨optional_eq_ofOption (fun _ inner => (positiveInteger_eq_ok inner).1) passed,
    optional_all passed (fun _ inner => (positiveInteger_eq_ok inner).2)⟩

theorem fuzzy_eq_ok {fuzzy : Option Fuzzy} (passed : Guard.fuzzy v = .ok fuzzy) :
    v = .ofFuzzy fuzzy := by
  refine optional_eq_ofOption (fun f inner => ?_) passed
  have selected := expect_eq_ok inner
  split at selected
  · cases selected
    rfl
  · cases selected

theorem flag_eq_ok {b : Bool} (passed : flag argument v = .ok b) : v = .bool b := by
  have selected := expect_eq_ok passed
  split at selected
  · cases selected
    rfl
  · cases selected

end Guard

theorem ScoreFunction.expect_eq_ok {argument : String} {v : Value} {f : ScoreFunction}
    (passed : expect argument v = .ok f) : v = .ofExpression f := by
  have selected := Guard.expect_eq_ok passed
  split at selected
  · cases selected
    rfl
  · cases selected

theorem ScoreFunction.rate_eq_number {argument : String} {v : Value} {x : Number}
    (passed : rate argument v = .ok x) : v = .number x := by
  obtain ⟨y, found, kept⟩ := Outcome.bind_eq_ok.mp passed
  split at kept
  · cases kept
    exact Guard.number_eq_ok.mp found
  · cases kept

theorem Span.expect_eq_ok {argument : String} {v : Value} {s : Span}
    (passed : expect argument v = .ok s) : v = .ofSpan s := by
  have selected := Guard.expect_eq_ok passed
  split at selected
  · cases selected
    rfl
  · cases selected

theorem Span.clauses_eq_ok {argument : String} {v : Value} {ss : List Span}
    (passed : clauses argument v = .ok ss) : v = .tuple (ss.map .ofSpan) ∧ ss ≠ [] := by
  obtain ⟨items, given, more⟩ := Outcome.bind_eq_ok.mp passed
  have shape := Guard.tuple_eq_ok given
  split at more
  · cases more
  · rename_i nonempty
    have found : Guard.each (expect argument) items = .ok ss := more
    have same : items = ss.map .ofSpan :=
      Guard.each_eq_map (fun _ _ one => Span.expect_eq_ok one) found
    refine ⟨by rw [shape, same], ?_⟩
    rintro rfl
    rw [same] at nonempty
    exact nonempty rfl

namespace Facet

theorem boundaries_eq_ok {α : Type} {facet : String} {select : Value → Option α} {wrap : α → Value}
    (one : ∀ v a, select v = some a → v = wrap a) {v : Value} {found : List α}
    (passed : boundaries facet select v = .ok found) :
    v = .tuple (found.map wrap) ∧ 2 ≤ found.length := by
  have enough := two_le_boundaries passed
  obtain ⟨items, given, more⟩ := Outcome.bind_eq_ok.mp passed
  have shape := Guard.tuple_eq_ok given
  split at more
  · cases more
  · refine ⟨?_, enough⟩
    rw [shape, Guard.each_eq_map ?_ more]
    intro item a selected
    split at selected
    · rename_i found
      cases selected
      exact one _ _ found
    · cases selected

theorem date_eq_some {v : Value} {t : DateTime}
    (selected : (match v with | .dateTime t => some t | _ => none) = some t) : v = .dateTime t := by
  split at selected
  · cases selected
    rfl
  · cases selected

end Facet

theorem Compound.clauseList_eq_ok {argument : String} {v : Value}
    {clauses : Option (List (Operator Value))} (passed : clauseList argument v = .ok clauses) :
    v = .ofClauses clauses := by
  unfold clauseList at passed
  split at passed
  · cases passed
    rfl
  · obtain ⟨items, given, more⟩ := Outcome.bind_eq_ok.mp passed
    obtain ⟨ops, found, made⟩ := Outcome.bind_eq_ok.mp more
    cases made
    have same : items = ops.map .ofOperator :=
      Guard.each_eq_map (fun _ _ one => Guard.operator_eq_ok one) found
    rw [Guard.tuple_eq_ok given, same]
    rfl

theorem LooseBound.check_eq_ok {argument : String} {loose : LooseBound} {b : Bound Value}
    (passed : loose.check argument = .ok b) : loose = ⟨.ofLimit b.limit, b.inclusive⟩ := by
  obtain ⟨value, inclusive⟩ := loose
  unfold check at passed
  split at passed
  · rename_i given
    cases passed
    rw [show value = _ from given]
    rfl
  · rename_i given
    cases passed
    rw [show value = _ from given]
    rfl
  · cases passed

theorem Range.bound_eq_ofBound {argument : String} {v : Value} {found : Option (Bound Value)}
    (passed : bound argument v = .ok found) : v = .ofBound found := by
  unfold bound at passed
  split at passed
  · cases passed
    rfl
  · obtain ⟨loose, selected, more⟩ := Outcome.bind_eq_ok.mp passed
    obtain ⟨b, checked, made⟩ := Outcome.bind_eq_ok.mp more
    cases made
    have same := Guard.expect_eq_ok selected
    split at same
    · cases same
      have shape := LooseBound.check_eq_ok checked
      cases shape
      rfl
    · cases same

theorem Operator.origin_eq_ok {v : Value} {o : Origin} (passed : origin v = .ok o) :
    v = .ofOrigin o := by
  unfold origin at passed
  split at passed
  · cases passed
    rfl
  · cases passed
    rfl
  · cases passed
    rfl
  · cases passed

theorem Operator.area_eq_ok {geometry box circle : Value} {a : Area Value}
    (passed : area geometry box circle = .ok a) :
    (∃ g, a = .geometry g ∧ Geometry.build polygonTypes "geometry" geometry = .ok g ∧
      box = .null ∧ circle = .null) ∨
    (∃ b, a = .box b ∧ geometry = .null ∧ box = .node (.box b) ∧ circle = .null) ∨
    ∃ c, a = .circle c ∧ geometry = .null ∧ box = .null ∧ circle = .node (.circle c) := by
  unfold area at passed
  split at passed
  · split at passed
    · cases passed
    · obtain ⟨g, found, made⟩ := Outcome.bind_eq_ok.mp passed
      cases made
      exact .inl ⟨g, rfl, found, rfl, rfl⟩
  · obtain ⟨b, found, made⟩ := Outcome.bind_eq_ok.mp passed
    cases made
    have selected := Guard.expect_eq_ok found
    split at selected
    · cases selected
      exact .inr (.inl ⟨b, rfl, rfl, rfl, rfl⟩)
    · cases selected
  · obtain ⟨c, found, made⟩ := Outcome.bind_eq_ok.mp passed
    cases made
    have selected := Guard.expect_eq_ok found
    split at selected
    · cases selected
      exact .inr (.inr ⟨c, rfl, rfl, rfl, rfl⟩)
    · cases selected
  · cases passed
  · cases passed
  · cases passed
  · cases passed

namespace Constructor

open Factory (one two three four five one_eq_ok two_eq_ok three_eq_ok four_eq_ok five_eq_ok)

variable {given : List Value} {n : Node Value}

theorem six_eq_ok {call : Value → Value → Value → Value → Value → Value → Checked (Node Value)}
    (made : six call given = .ok n) :
    ∃ a b c d e f, given = [a, b, c, d, e, f] ∧ call a b c d e f = .ok n := by
  unfold six at made
  split at made
  · exact ⟨_, _, _, _, _, _, rfl, made⟩
  · cases made

section Calls

variable {a b c d e f : Value}

theorem singleQuery_builds {q : Query} (built : Query.ofText a = .ok q) :
    Builds .singleQuery [a] (.query q) := by
  obtain ⟨w, found, made⟩ := Outcome.bind_eq_ok.mp built
  cases made
  exact .singleQuery (Guard.expect_eq_ok found)

theorem multiQuery_builds {q : Query} (built : Query.ofTexts a = .ok q) :
    Builds .multiQuery [a] (.query q) := by
  obtain ⟨items, shape, more⟩ := Outcome.bind_eq_ok.mp built
  obtain ⟨ws, found, made⟩ := Outcome.bind_eq_ok.mp more
  cases made
  rw [Guard.tuple_eq_ok shape]
  exact .multiQuery found

theorem singlePath_builds {p : Path} (built : Path.ofField a = .ok p) :
    Builds .singlePath [a] (.path p) := by
  obtain ⟨f, found, made⟩ := Outcome.bind_eq_ok.mp built
  cases made
  exact .singlePath found

theorem multiPath_builds {p : Path} (built : Path.ofFields a = .ok p) :
    Builds .multiPath [a] (.path p) := by
  obtain ⟨items, shape, more⟩ := Outcome.bind_eq_ok.mp built
  split at more
  · cases more
  · rename_i nonempty
    obtain ⟨fs, found, made⟩ := Outcome.bind_eq_ok.mp more
    cases made
    rw [Guard.tuple_eq_ok shape]
    refine .multiPath ?_ found
    rintro rfl
    exact nonempty rfl

theorem analyzerPath_builds {p : Path} (built : Path.ofAnalyzer a b = .ok p) :
    Builds .analyzerPath [a, b] (.path p) := by
  obtain ⟨f, found, more⟩ := Outcome.bind_eq_ok.mp built
  obtain ⟨w, analyzer, made⟩ := Outcome.bind_eq_ok.mp more
  cases made
  exact .analyzerPath found analyzer

theorem wildcardPath_builds {p : Path} (built : Path.ofPattern a = .ok p) :
    Builds .wildcardPath [a] (.path p) := by
  obtain ⟨w, found, made⟩ := Outcome.bind_eq_ok.mp built
  cases made
  exact .wildcardPath found

theorem fuzzy_builds {f : Fuzzy} (built : Fuzzy.build a b c = .ok f) :
    Builds .fuzzy [a, b, c] (.fuzzy f) := by
  have within := Fuzzy.build_admissible built
  obtain ⟨edits, foundEdits, more⟩ := Outcome.bind_eq_ok.mp built
  obtain ⟨kept, foundKept, more⟩ := Outcome.bind_eq_ok.mp more
  obtain ⟨expansions, foundExpansions, made⟩ := Outcome.bind_eq_ok.mp more
  cases made
  rw [Guard.optional_eq_ofOption (fun _ inner => (Guard.integerBetween_eq_ok inner).1)
      foundEdits,
    Guard.optional_eq_ofOption (fun _ inner => (Guard.naturalInteger_eq_ok inner).1) foundKept,
    (Guard.optionalPositive_eq_ok foundExpansions).1]
  exact .fuzzy within.edits within.kept within.expansions

theorem count_builds {c : Count} (built : Count.build a b = .ok c) :
    Builds .count [a, b] (.count c) := by
  obtain ⟨type, foundType, more⟩ := Outcome.bind_eq_ok.mp built
  obtain ⟨threshold, found, made⟩ := Outcome.bind_eq_ok.mp more
  cases made
  obtain ⟨shape, positive⟩ := Guard.optionalPositive_eq_ok found
  rw [Guard.countType_eq_ok.mp foundType, shape]
  exact .count positive

theorem highlight_builds {h : Highlight} (built : Highlight.build a b c = .ok h) :
    Builds .highlight [a, b, c] (.highlight h) := by
  obtain ⟨p, foundPath, more⟩ := Outcome.bind_eq_ok.mp built
  obtain ⟨chars, foundChars, more⟩ := Outcome.bind_eq_ok.mp more
  obtain ⟨passages, foundPassages, made⟩ := Outcome.bind_eq_ok.mp more
  cases made
  obtain ⟨shape, some⟩ := Guard.optionalPositive_eq_ok foundChars
  obtain ⟨shapeNext, positive⟩ := Guard.optionalPositive_eq_ok foundPassages
  rw [Guard.path_eq_ok foundPath, shape, shapeNext]
  exact .highlight some positive

theorem point_builds {p : GeoPoint} (built : GeoPoint.build a b = .ok p) :
    Builds .point [a, b] (.point p) := by
  obtain ⟨_, -, more⟩ := Outcome.bind_eq_ok.mp built
  obtain ⟨_, -, more⟩ := Outcome.bind_eq_ok.mp more
  obtain ⟨x, foundX, more⟩ := Outcome.bind_eq_ok.mp more
  obtain ⟨y, foundY, made⟩ := Outcome.bind_eq_ok.mp more
  cases made
  obtain ⟨rfl, east, west⟩ := Guard.between_eq_ok.mp foundX
  obtain ⟨rfl, south, north⟩ := Guard.between_eq_ok.mp foundY
  exact .point east west south north

theorem box_builds {box : GeoBox Value} (built : GeoBox.build a b = .ok box) :
    Builds .box [a, b] (.box box) := by
  obtain ⟨low, foundLow, more⟩ := Outcome.bind_eq_ok.mp built
  obtain ⟨high, foundHigh, made⟩ := Outcome.bind_eq_ok.mp more
  cases made
  exact .box foundLow foundHigh

theorem circle_builds {c : GeoCircle Value} (built : GeoCircle.build a b = .ok c) :
    Builds .circle [a, b] (.circle c) := by
  obtain ⟨center, found, more⟩ := Outcome.bind_eq_ok.mp built
  obtain ⟨r, above, made⟩ := Outcome.bind_eq_ok.mp more
  cases made
  obtain ⟨rfl, positive⟩ := Guard.positive_eq_ok.mp above
  exact .circle found positive

theorem pathFunction_builds {f : ScoreFunction} (built : ScoreFunction.ofPath a b = .ok f) :
    Builds .pathFunction [a, b] (.expression f) := by
  obtain ⟨p, found, more⟩ := Outcome.bind_eq_ok.mp built
  obtain ⟨u, number, made⟩ := Outcome.bind_eq_ok.mp more
  cases made
  rw [Guard.path_eq_ok found, Guard.number_eq_ok.mp number]
  exact .pathFunction

theorem constantFunction_builds {f : ScoreFunction} (built : ScoreFunction.ofConstant a = .ok f) :
    Builds .constantFunction [a] (.expression f) := by
  obtain ⟨x, number, made⟩ := Outcome.bind_eq_ok.mp built
  cases made
  rw [Guard.number_eq_ok.mp number]
  exact .constantFunction

theorem combined_builds {way : Combination} {f : ScoreFunction}
    (built : ScoreFunction.ofOperands way a = .ok f) :
    Builds (.combined way) [a] (.expression f) := by
  obtain ⟨fs, found, made⟩ := Outcome.bind_eq_ok.mp built
  cases made
  obtain ⟨items, shape, more⟩ := Outcome.bind_eq_ok.mp found
  split at more
  · cases more
  · rename_i enough
    have passed : Guard.each (ScoreFunction.expect "children") items = .ok fs := more
    have same : items = fs.map .ofExpression :=
      Guard.each_eq_map (fun _ _ one => ScoreFunction.expect_eq_ok one) passed
    have length := Guard.each_length passed
    rw [Guard.tuple_eq_ok shape, same]
    exact .combined (by omega)

theorem gauss_builds {f : ScoreFunction} (built : ScoreFunction.ofGauss a b c d e = .ok f) :
    Builds .gauss [a, b, c, d, e] (.expression f) := by
  obtain ⟨p, found, more⟩ := Outcome.bind_eq_ok.mp built
  obtain ⟨origin, number, more⟩ := Outcome.bind_eq_ok.mp more
  obtain ⟨scale, above, more⟩ := Outcome.bind_eq_ok.mp more
  obtain ⟨decay, foundDecay, more⟩ := Outcome.bind_eq_ok.mp more
  obtain ⟨offset, foundOffset, made⟩ := Outcome.bind_eq_ok.mp more
  cases made
  obtain ⟨rfl, positive⟩ := Guard.positive_eq_ok.mp above
  have rate := Guard.optional_all foundDecay (fun _ inner => ScoreFunction.rate_eq_ok inner)
  rw [Guard.path_eq_ok found, Guard.number_eq_ok.mp number,
    Guard.optional_eq_ofOption (fun _ inner => ScoreFunction.rate_eq_number inner) foundDecay,
    Guard.optional_eq_ofOption (fun _ inner => Guard.number_eq_ok.mp inner) foundOffset]
  exact .gauss positive rate

theorem transformed_builds {way : Transform} {f : ScoreFunction}
    (built : ScoreFunction.ofOperand way a = .ok f) :
    Builds (.transformed way) [a] (.expression f) := by
  obtain ⟨g, found, made⟩ := Outcome.bind_eq_ok.mp built
  cases made
  rw [ScoreFunction.expect_eq_ok found]
  exact .transformed

theorem boost_builds {s : Score} (built : Score.ofBoost a = .ok s) :
    Builds .boost [a] (.score s) := by
  obtain ⟨x, above, made⟩ := Outcome.bind_eq_ok.mp built
  cases made
  obtain ⟨rfl, positive⟩ := Guard.positive_eq_ok.mp above
  exact .boost positive

theorem boostPath_builds {s : Score} (built : Score.ofBoostPath a b = .ok s) :
    Builds .boostPath [a, b] (.score s) := by
  obtain ⟨p, found, more⟩ := Outcome.bind_eq_ok.mp built
  obtain ⟨u, number, made⟩ := Outcome.bind_eq_ok.mp more
  cases made
  rw [Guard.path_eq_ok found, Guard.number_eq_ok.mp number]
  exact .boostPath

theorem constant_builds {s : Score} (built : Score.ofConstant a = .ok s) :
    Builds .constant [a] (.score s) := by
  obtain ⟨x, above, made⟩ := Outcome.bind_eq_ok.mp built
  cases made
  obtain ⟨rfl, positive⟩ := Guard.positive_eq_ok.mp above
  exact .constant positive

theorem function_builds {s : Score} (built : Score.ofFunction a = .ok s) :
    Builds .function [a] (.score s) := by
  obtain ⟨f, found, made⟩ := Outcome.bind_eq_ok.mp built
  cases made
  rw [ScoreFunction.expect_eq_ok found]
  exact .function

theorem spanTerm_builds {s : Span} (built : Span.ofTerm a b = .ok s) :
    Builds .spanTerm [a, b] (.span s) := by
  obtain ⟨q, found, more⟩ := Outcome.bind_eq_ok.mp built
  obtain ⟨p, foundPath, made⟩ := Outcome.bind_eq_ok.mp more
  cases made
  rw [Guard.query_eq_ok found, Guard.path_eq_ok foundPath]
  exact .spanTerm

theorem spanFirst_builds {s : Span} (built : Span.ofFirst a b = .ok s) :
    Builds .spanFirst [a, b] (.span s) := by
  obtain ⟨inner, found, more⟩ := Outcome.bind_eq_ok.mp built
  obtain ⟨w, integer, more⟩ := Outcome.bind_eq_ok.mp more
  split at more
  · cases more
  · rename_i enough
    cases more
    rw [Span.expect_eq_ok found, Guard.integer_eq_ok.mp integer]
    exact .spanFirst (by omega)

theorem spanNear_builds {s : Span} (built : Span.ofNear a b c = .ok s) :
    Builds .spanNear [a, b, c] (.span s) := by
  obtain ⟨ss, found, more⟩ := Outcome.bind_eq_ok.mp built
  obtain ⟨w, natural, more⟩ := Outcome.bind_eq_ok.mp more
  obtain ⟨flag, foundFlag, made⟩ := Outcome.bind_eq_ok.mp more
  cases made
  obtain ⟨rfl, some⟩ := Span.clauses_eq_ok found
  obtain ⟨rfl, notNegative⟩ := Guard.naturalInteger_eq_ok natural
  rw [Guard.flag_eq_ok foundFlag]
  exact .spanNear some notNegative

theorem spanOr_builds {s : Span} (built : Span.ofAlternatives a = .ok s) :
    Builds .spanOr [a] (.span s) := by
  obtain ⟨ss, found, made⟩ := Outcome.bind_eq_ok.mp built
  cases made
  obtain ⟨rfl, some⟩ := Span.clauses_eq_ok found
  exact .spanOr some

theorem spanSubtract_builds {s : Span} (built : Span.ofSubtract a b = .ok s) :
    Builds .spanSubtract [a, b] (.span s) := by
  obtain ⟨kept, foundKept, more⟩ := Outcome.bind_eq_ok.mp built
  obtain ⟨removed, foundRemoved, made⟩ := Outcome.bind_eq_ok.mp more
  cases made
  rw [Span.expect_eq_ok foundKept, Span.expect_eq_ok foundRemoved]
  exact .spanSubtract

theorem stringFacet_builds {f : Facet} (built : Facet.ofString a b c = .ok f) :
    Builds .stringFacet [a, b, c] (.facet f) := by
  obtain ⟨name, named, more⟩ := Outcome.bind_eq_ok.mp built
  obtain ⟨p, foundPath, more⟩ := Outcome.bind_eq_ok.mp more
  obtain ⟨w, between, made⟩ := Outcome.bind_eq_ok.mp more
  cases made
  obtain ⟨rfl, some, few⟩ := Guard.integerBetween_eq_ok between
  rw [Guard.path_eq_ok foundPath]
  exact .stringFacet named some few

theorem numberFacet_builds {f : Facet} (built : Facet.ofNumbers a b c d = .ok f) :
    Builds .numberFacet [a, b, c, d] (.facet f) := by
  obtain ⟨name, named, more⟩ := Outcome.bind_eq_ok.mp built
  obtain ⟨p, foundPath, more⟩ := Outcome.bind_eq_ok.mp more
  obtain ⟨xs, bounds, more⟩ := Outcome.bind_eq_ok.mp more
  split at more
  · cases more
  · obtain ⟨outside, outer, made⟩ := Outcome.bind_eq_ok.mp more
    cases made
    obtain ⟨rfl, enough⟩ :=
      Facet.boundaries_eq_ok (fun _ _ one => Value.asNumber?_eq_some.mp one) bounds
    rw [Guard.path_eq_ok foundPath]
    exact .numberFacet named enough outer

theorem dateFacet_builds {f : Facet} (built : Facet.ofDates a b c d = .ok f) :
    Builds .dateFacet [a, b, c, d] (.facet f) := by
  obtain ⟨name, named, more⟩ := Outcome.bind_eq_ok.mp built
  obtain ⟨p, foundPath, more⟩ := Outcome.bind_eq_ok.mp more
  obtain ⟨ts, bounds, more⟩ := Outcome.bind_eq_ok.mp more
  split at more
  · cases more
  · obtain ⟨outside, outer, made⟩ := Outcome.bind_eq_ok.mp more
    cases made
    obtain ⟨rfl, enough⟩ :=
      Facet.boundaries_eq_ok (fun _ _ one => Facet.date_eq_some one) bounds
    rw [Guard.path_eq_ok foundPath]
    exact .dateFacet named enough outer

theorem text_builds {op : Operator Value} (built : Operator.ofText a b c d = .ok op) :
    Builds .text [a, b, c, d] (.operator op) := by
  obtain ⟨q, found, more⟩ := Outcome.bind_eq_ok.mp built
  obtain ⟨p, foundPath, more⟩ := Outcome.bind_eq_ok.mp more
  obtain ⟨f, foundFuzzy, more⟩ := Outcome.bind_eq_ok.mp more
  obtain ⟨s, foundScore, made⟩ := Outcome.bind_eq_ok.mp more
  cases made
  rw [Guard.query_eq_ok found, Guard.path_eq_ok foundPath, Guard.fuzzy_eq_ok foundFuzzy,
    Guard.score_eq_ok.mp foundScore]
  exact .text

theorem phrase_builds {op : Operator Value} (built : Operator.ofPhrase a b c d = .ok op) :
    Builds .phrase [a, b, c, d] (.operator op) := by
  obtain ⟨q, found, more⟩ := Outcome.bind_eq_ok.mp built
  obtain ⟨p, foundPath, more⟩ := Outcome.bind_eq_ok.mp more
  obtain ⟨w, natural, more⟩ := Outcome.bind_eq_ok.mp more
  obtain ⟨s, foundScore, made⟩ := Outcome.bind_eq_ok.mp more
  cases made
  obtain ⟨rfl, notNegative⟩ := Guard.naturalInteger_eq_ok natural
  rw [Guard.query_eq_ok found, Guard.path_eq_ok foundPath, Guard.score_eq_ok.mp foundScore]
  exact .phrase notNegative

theorem autocomplete_builds {op : Operator Value}
    (built : Operator.ofAutocomplete a b c d e = .ok op) :
    Builds .autocomplete [a, b, c, d, e] (.operator op) := by
  obtain ⟨q, found, more⟩ := Outcome.bind_eq_ok.mp built
  obtain ⟨p, foundPath, more⟩ := Outcome.bind_eq_ok.mp more
  obtain ⟨o, foundOrder, more⟩ := Outcome.bind_eq_ok.mp more
  obtain ⟨f, foundFuzzy, more⟩ := Outcome.bind_eq_ok.mp more
  obtain ⟨s, foundScore, made⟩ := Outcome.bind_eq_ok.mp more
  cases made
  have selected := Guard.expect_eq_ok foundOrder
  split at selected
  · cases selected
    rw [Guard.query_eq_ok found, Guard.path_eq_ok foundPath, Guard.fuzzy_eq_ok foundFuzzy,
      Guard.score_eq_ok.mp foundScore]
    exact .autocomplete
  · cases selected

theorem pattern_builds {form : PatternForm} {op : Operator Value}
    (built : Operator.ofPattern form a b c d = .ok op) :
    Builds (.pattern form) [a, b, c, d] (.operator op) := by
  obtain ⟨q, found, more⟩ := Outcome.bind_eq_ok.mp built
  obtain ⟨p, foundPath, more⟩ := Outcome.bind_eq_ok.mp more
  obtain ⟨analyzed, foundFlag, more⟩ := Outcome.bind_eq_ok.mp more
  obtain ⟨s, foundScore, made⟩ := Outcome.bind_eq_ok.mp more
  cases made
  rw [Guard.query_eq_ok found, Guard.path_eq_ok foundPath, Guard.flag_eq_ok foundFlag,
    Guard.score_eq_ok.mp foundScore]
  exact .pattern

theorem queryString_builds {op : Operator Value} (built : Operator.ofQueryString a b c = .ok op) :
    Builds .queryString [a, b, c] (.operator op) := by
  obtain ⟨f, found, more⟩ := Outcome.bind_eq_ok.mp built
  obtain ⟨w, foundQuery, more⟩ := Outcome.bind_eq_ok.mp more
  obtain ⟨s, foundScore, made⟩ := Outcome.bind_eq_ok.mp more
  cases made
  rw [Guard.score_eq_ok.mp foundScore]
  exact .queryString found (Guard.expect_eq_ok foundQuery)

theorem equals_builds {op : Operator Value} (built : Operator.ofEquals a b c = .ok op) :
    Builds .equals [a, b, c] (.operator op) := by
  obtain ⟨f, found, more⟩ := Outcome.bind_eq_ok.mp built
  obtain ⟨v, foundValue, more⟩ := Outcome.bind_eq_ok.mp more
  obtain ⟨s, foundScore, made⟩ := Outcome.bind_eq_ok.mp more
  cases made
  have selected := Guard.expect_eq_ok foundValue
  rw [Guard.score_eq_ok.mp foundScore]
  split at selected
  · cases selected
    exact .equals (e := .flag _) found
  · cases selected
    exact .equals (e := .id _) found
  · cases selected

theorem existence_builds {op : Operator Value} (built : Operator.ofExistence a = .ok op) :
    Builds .existence [a] (.operator op) := by
  obtain ⟨f, found, made⟩ := Outcome.bind_eq_ok.mp built
  cases made
  exact .existence found

theorem near_builds {op : Operator Value} (built : Operator.ofNear a b c d = .ok op) :
    Builds .near [a, b, c, d] (.operator op) := by
  obtain ⟨p, found, more⟩ := Outcome.bind_eq_ok.mp built
  obtain ⟨o, origin, more⟩ := Outcome.bind_eq_ok.mp more
  obtain ⟨x, number, more⟩ := Outcome.bind_eq_ok.mp more
  obtain ⟨s, foundScore, made⟩ := Outcome.bind_eq_ok.mp more
  cases made
  rw [Guard.path_eq_ok found, Operator.origin_eq_ok origin, Guard.number_eq_ok.mp number,
    Guard.score_eq_ok.mp foundScore]
  exact .near

theorem geoWithin_builds {op : Operator Value} (built : Operator.ofGeoWithin a b c d e = .ok op) :
    Builds .geoWithin [a, b, c, d, e] (.operator op) := by
  obtain ⟨p, found, more⟩ := Outcome.bind_eq_ok.mp built
  obtain ⟨area, foundArea, more⟩ := Outcome.bind_eq_ok.mp more
  obtain ⟨s, foundScore, made⟩ := Outcome.bind_eq_ok.mp more
  cases made
  rw [Guard.path_eq_ok found, Guard.score_eq_ok.mp foundScore]
  rcases Operator.area_eq_ok foundArea with
    ⟨g, rfl, polygon, rfl, rfl⟩ | ⟨box, rfl, rfl, rfl, rfl⟩ | ⟨circle, rfl, rfl, rfl, rfl⟩
  · exact .geoWithinGeometry polygon
  · exact .geoWithinBox
  · exact .geoWithinCircle

theorem geoShape_builds {op : Operator Value} (built : Operator.ofGeoShape a b c d = .ok op) :
    Builds .geoShape [a, b, c, d] (.operator op) := by
  obtain ⟨p, found, more⟩ := Outcome.bind_eq_ok.mp built
  obtain ⟨g, shape, more⟩ := Outcome.bind_eq_ok.mp more
  obtain ⟨r, relation, more⟩ := Outcome.bind_eq_ok.mp more
  obtain ⟨s, foundScore, made⟩ := Outcome.bind_eq_ok.mp more
  cases made
  have selected := Guard.expect_eq_ok relation
  rw [Guard.path_eq_ok found, Guard.score_eq_ok.mp foundScore]
  split at selected
  · cases selected
    exact .geoShape shape
  · cases selected

theorem raw_builds {op : Operator Value} (built : Operator.ofRaw a = .ok op) :
    Builds .raw [a] (.operator op) := by
  obtain ⟨entries, found, made⟩ := Outcome.bind_eq_ok.mp built
  cases made
  have selected := Guard.expect_eq_ok found
  split at selected
  · cases selected
    exact .raw
  · cases selected

theorem compound_builds {op : Operator Value} (built : Compound.build a b c d e f = .ok op) :
    Builds .compound [a, b, c, d, e, f] (.operator op) := by
  obtain ⟨must, foundMust, more⟩ := Outcome.bind_eq_ok.mp built
  obtain ⟨mustNot, foundMustNot, more⟩ := Outcome.bind_eq_ok.mp more
  obtain ⟨should, foundShould, more⟩ := Outcome.bind_eq_ok.mp more
  obtain ⟨filter, foundFilter, more⟩ := Outcome.bind_eq_ok.mp more
  obtain ⟨least, natural, more⟩ := Outcome.bind_eq_ok.mp more
  obtain ⟨s, foundScore, made⟩ := Outcome.bind_eq_ok.mp more
  cases made
  obtain ⟨rfl, notNegative⟩ := Guard.naturalInteger_eq_ok natural
  rw [Compound.clauseList_eq_ok foundMust, Compound.clauseList_eq_ok foundMustNot,
    Compound.clauseList_eq_ok foundShould, Compound.clauseList_eq_ok foundFilter,
    Guard.score_eq_ok.mp foundScore]
  exact .compound notNegative

theorem span_builds {op : Operator Value} (built : Operator.ofSpan a = .ok op) :
    Builds .span [a] (.operator op) := by
  obtain ⟨s, found, made⟩ := Outcome.bind_eq_ok.mp built
  cases made
  rw [Span.expect_eq_ok found]
  exact .span

theorem facet_builds {op : Operator Value} (built : Operator.ofFacets a b = .ok op) :
    Builds .facet [a, b] (.operator op) := by
  obtain ⟨inner, found, more⟩ := Outcome.bind_eq_ok.mp built
  obtain ⟨items, shape, more⟩ := Outcome.bind_eq_ok.mp more
  split at more
  · cases more
  · rename_i nonempty
    obtain ⟨fs, distinct, made⟩ := Outcome.bind_eq_ok.mp more
    cases made
    obtain ⟨rfl, -⟩ := Facet.distinctNames_eq_ok.mp distinct
    rw [Guard.operator_eq_ok found, Guard.tuple_eq_ok shape]
    refine .facet ?_
    rintro rfl
    exact nonempty rfl

theorem range_builds {form : RangeForm} {op : Operator Value}
    (built : Range.build form a b c d = .ok op) :
    Builds (.range form) [a, b, c, d] (.operator op) := by
  obtain ⟨p, low, high, s, rfl, found, foundScore, foundLow, foundHigh, agree⟩ :=
    Range.build_eq_ok built
  rw [Guard.path_eq_ok found, Range.bound_eq_ofBound foundLow, Range.bound_eq_ofBound foundHigh,
    Guard.score_eq_ok.mp foundScore]
  exact .range agree

theorem rangeStart_builds {start : Range.Start} (built : Range.start a b = .ok start) :
    Builds .rangeStart [a, b] (.rangeStart start.path start.score) := by
  obtain ⟨p, found, more⟩ := Outcome.bind_eq_ok.mp built
  obtain ⟨s, foundScore, made⟩ := Outcome.bind_eq_ok.mp more
  cases made
  rw [Guard.path_eq_ok found, Guard.score_eq_ok.mp foundScore]
  exact .rangeStart

end Calls

section Dispatch

variable {k : Constructor} {α : Type} {wrap : α → Node Value}

theorem one_builds {call : Value → Checked α}
    (builds : ∀ {a x}, call a = .ok x → k.Builds [a] (wrap x))
    (made : one (fun a => (call a).map wrap) given = .ok n) : k.Builds given n := by
  obtain ⟨a, rfl, made⟩ := one_eq_ok made
  obtain ⟨x, built, rfl⟩ := Outcome.map_eq_ok.mp made
  exact builds built

theorem two_builds {call : Value → Value → Checked α}
    (builds : ∀ {a b x}, call a b = .ok x → k.Builds [a, b] (wrap x))
    (made : two (fun a b => (call a b).map wrap) given = .ok n) : k.Builds given n := by
  obtain ⟨a, b, rfl, made⟩ := two_eq_ok made
  obtain ⟨x, built, rfl⟩ := Outcome.map_eq_ok.mp made
  exact builds built

theorem three_builds {call : Value → Value → Value → Checked α}
    (builds : ∀ {a b c x}, call a b c = .ok x → k.Builds [a, b, c] (wrap x))
    (made : three (fun a b c => (call a b c).map wrap) given = .ok n) : k.Builds given n := by
  obtain ⟨a, b, c, rfl, made⟩ := three_eq_ok made
  obtain ⟨x, built, rfl⟩ := Outcome.map_eq_ok.mp made
  exact builds built

theorem four_builds {call : Value → Value → Value → Value → Checked α}
    (builds : ∀ {a b c d x}, call a b c d = .ok x → k.Builds [a, b, c, d] (wrap x))
    (made : four (fun a b c d => (call a b c d).map wrap) given = .ok n) : k.Builds given n := by
  obtain ⟨a, b, c, d, rfl, made⟩ := four_eq_ok made
  obtain ⟨x, built, rfl⟩ := Outcome.map_eq_ok.mp made
  exact builds built

theorem five_builds {call : Value → Value → Value → Value → Value → Checked α}
    (builds : ∀ {a b c d e x}, call a b c d e = .ok x → k.Builds [a, b, c, d, e] (wrap x))
    (made : five (fun a b c d e => (call a b c d e).map wrap) given = .ok n) :
    k.Builds given n := by
  obtain ⟨a, b, c, d, e, rfl, made⟩ := five_eq_ok made
  obtain ⟨x, built, rfl⟩ := Outcome.map_eq_ok.mp made
  exact builds built

theorem six_builds {call : Value → Value → Value → Value → Value → Value → Checked α}
    (builds : ∀ {a b c d e f x}, call a b c d e f = .ok x → k.Builds [a, b, c, d, e, f] (wrap x))
    (made : six (fun a b c d e f => (call a b c d e f).map wrap) given = .ok n) :
    k.Builds given n := by
  obtain ⟨a, b, c, d, e, f, rfl, made⟩ := six_eq_ok made
  obtain ⟨x, built, rfl⟩ := Outcome.map_eq_ok.mp made
  exact builds built

/-- A constructor that accepts what it is given builds a node of it. -/
theorem run_builds (made : k.run given = .ok n) : k.Builds given n := by
  cases k with
  | singleQuery => exact one_builds singleQuery_builds made
  | multiQuery => exact one_builds multiQuery_builds made
  | singlePath => exact one_builds singlePath_builds made
  | multiPath => exact one_builds multiPath_builds made
  | analyzerPath => exact two_builds analyzerPath_builds made
  | wildcardPath => exact one_builds wildcardPath_builds made
  | fuzzy => exact three_builds fuzzy_builds made
  | count => exact two_builds count_builds made
  | highlight => exact three_builds highlight_builds made
  | point => exact two_builds point_builds made
  | box => exact two_builds box_builds made
  | circle => exact two_builds circle_builds made
  | pathFunction => exact two_builds pathFunction_builds made
  | relevance =>
      cases made
      exact .relevance
  | constantFunction => exact one_builds constantFunction_builds made
  | combined way => exact one_builds combined_builds made
  | gauss => exact five_builds gauss_builds made
  | transformed way => exact one_builds transformed_builds made
  | boost => exact one_builds boost_builds made
  | boostPath => exact two_builds boostPath_builds made
  | constant => exact one_builds constant_builds made
  | function => exact one_builds function_builds made
  | spanTerm => exact two_builds spanTerm_builds made
  | spanFirst => exact two_builds spanFirst_builds made
  | spanNear => exact three_builds spanNear_builds made
  | spanOr => exact one_builds spanOr_builds made
  | spanSubtract => exact two_builds spanSubtract_builds made
  | stringFacet => exact three_builds stringFacet_builds made
  | numberFacet => exact four_builds numberFacet_builds made
  | dateFacet => exact four_builds dateFacet_builds made
  | text => exact four_builds text_builds made
  | phrase => exact four_builds phrase_builds made
  | autocomplete => exact five_builds autocomplete_builds made
  | pattern form => exact four_builds pattern_builds made
  | queryString => exact three_builds queryString_builds made
  | equals => exact three_builds equals_builds made
  | existence => exact one_builds existence_builds made
  | near => exact four_builds near_builds made
  | geoWithin => exact five_builds geoWithin_builds made
  | geoShape => exact four_builds geoShape_builds made
  | raw => exact one_builds raw_builds made
  | compound => exact six_builds compound_builds made
  | span => exact one_builds span_builds made
  | facet => exact two_builds facet_builds made
  | bound =>
      obtain ⟨a, b, rfl, made⟩ := two_eq_ok made
      cases made
      exact .bound
  | range form => exact four_builds range_builds made
  | rangeStart => exact two_builds rangeStart_builds made

end Dispatch

end Constructor

end SearchQuery
