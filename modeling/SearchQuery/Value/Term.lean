import SearchQuery.Value

/-!
# Values as terms

A value is shown, compared and copied by its term.
-/

namespace SearchQuery

/-!
## Terms of values

The term of a node is a record of its parts.  What has no parts to show is a
token.
-/

def Field.toTerm : Field → Term
  | .name s => s.toTerm
  | .ref r => .record "FieldRef" [("model", .model r.owner), ("parts", .tuple (r.parts.map .text))]
  | .loose owner parts => .record "FieldRef" [("model", owner), ("parts", parts)]

def Query.toTerm : Query → Term
  | .single text => .record "SingleQuery" [("query", text.toTerm)]
  | .many texts => .record "MultiQuery" [("queries", .tuple (texts.map Words.toTerm))]

def Path.toTerm : Path → Term
  | .single field => .record "SinglePath" [("field", field.toTerm)]
  | .many fields => .record "MultiPath" [("fields", .tuple (fields.map Field.toTerm))]
  | .analyzed field analyzer =>
    .record "AnalyzerPath" [("field", field.toTerm), ("analyzer", analyzer.toTerm)]
  | .wildcard pattern => .record "WildcardPath" [("pattern", pattern.toTerm)]

def Fuzzy.toTerm (f : Fuzzy) : Term :=
  .record "FuzzyOptions"
    [("max_edits", .ofOption .whole f.maxEdits), ("prefix_length", .ofOption .whole f.prefixLength),
      ("max_expansions", .ofOption .whole f.maxExpansions)]

def Count.toTerm (c : Count) : Term :=
  .record "CountOptions"
    [("type", .choice (.count c.type)), ("threshold", .ofOption .whole c.threshold)]

def Highlight.toTerm (h : Highlight) : Term :=
  .record "HighlightOptions"
    [("path", h.path.toTerm), ("max_chars_to_examine", .ofOption .whole h.maxChars),
      ("max_num_passages", .ofOption .whole h.maxPassages)]

namespace ScoreFunction

mutual

def toTerm : ScoreFunction → Term
  | .path p undefined =>
    .record "PathFunction" [("path", p.toTerm), ("undefined", .number undefined)]
  | .relevance => .record "RelevanceFunction" []
  | .constant value => .record "ConstantFunction" [("value", .number value)]
  | .combined way children => .record way.kind [("children", .tuple (terms children))]
  | .gauss p origin scale decay offset =>
    .record "GaussFunction"
      [("path", p.toTerm), ("origin", .number origin), ("scale", .number scale),
        ("decay", .ofOption .number decay), ("offset", .ofOption .number offset)]
  | .transformed way child => .record way.kind [("child", toTerm child)]

def terms : List ScoreFunction → List Term
  | [] => []
  | child :: rest => toTerm child :: terms rest

end

end ScoreFunction

def Score.toTerm : Score → Term
  | .boost value => .record "BoostValueScore" [("value", .number value)]
  | .boostPath path undefined =>
    .record "BoostPathScore" [("path", path.toTerm), ("undefined", .number undefined)]
  | .constant value => .record "ConstantScore" [("value", .number value)]
  | .function expression => .record "FunctionScore" [("function", expression.toTerm)]

namespace Span

mutual

def toTerm : Span → Term
  | .term query path => .record "TermSpan" [("query", query.toTerm), ("path", path.toTerm)]
  | .first operator endPosition =>
    .record "FirstSpan" [("operator", toTerm operator), ("end_position_lte", .whole endPosition)]
  | .near clauses slop inOrder =>
    .record "NearSpan"
      [("clauses", .tuple (terms clauses)), ("slop", .whole slop), ("in_order", .bool inOrder)]
  | .either clauses => .record "OrSpan" [("clauses", .tuple (terms clauses))]
  | .subtract kept removed =>
    .record "SubtractSpan" [("include", toTerm kept), ("exclude", toTerm removed)]

def terms : List Span → List Term
  | [] => []
  | clause :: rest => toTerm clause :: terms rest

end

end Span

def Facet.toTerm : Facet → Term
  | .string name path buckets =>
    .record "StringFacet" [("name", name.toTerm), ("path", path.toTerm), ("num_buckets", .whole buckets)]
  | .number name path boundaries outside =>
    .record "NumberFacet"
      [("name", name.toTerm), ("path", path.toTerm), ("boundaries", .tuple (boundaries.map .number)),
        ("default", .ofOption Words.toTerm outside)]
  | .date name path boundaries outside =>
    .record "DateFacet"
      [("name", name.toTerm), ("path", path.toTerm), ("boundaries", .tuple (boundaries.map .dateTime)),
        ("default", .ofOption Words.toTerm outside)]

def GeoPoint.toTerm (p : GeoPoint) : Term :=
  .record "GeoPoint" [("longitude", .number p.longitude), ("latitude", .number p.latitude)]

def Limit.toTerm : Limit → Term
  | .number x => .number x
  | .date t => .dateTime t

def Exact.toTerm : Exact → Term
  | .flag b => .bool b
  | .id o => .objectId o

def Origin.toTerm : Origin → Term
  | .number x => .number x
  | .date t => .dateTime t
  | .point p => p.toTerm

def Score.optionTerm (score : Option Score) : Term :=
  .ofOption Score.toTerm score

def Schema.shown : Schema → String
  | .untyped => "UntypedSchema()"
  | .modelled m => "ModelSchema(" ++ m.name ++ ")"
  | .prepending text => "PrefixSchema(" ++ Text.quoted text ++ ")"
  | .unusable => "<class 'Schema'>"

def Term.className : Term → String
  | .kindNamed _ name => name
  | .operation name => name
  | t => t.shown

mutual

/-- The plain content of a value, as printing and reading see it. -/
def Value.toTerm : Value → Term
  | .null => .null
  | .bool b => .bool b
  | .number x => .number x
  | .decimal d => .decimal d
  | .text s => .text s
  | .bytes b => .bytes b
  | .dateTime t => .dateTime t
  | .day d => .day d
  | .objectId o => .objectId o
  | .special s => .special s
  | .list items => .list (Value.terms items)
  | .tuple items => .tuple (Value.terms items)
  | .set items => .set (Value.terms items)
  | .dict entries => .dict (Value.entryTerms entries)
  | .stream tag items => .stream tag (Value.terms items)
  | .shape tag outline => .shape tag (Value.toTerm outline)
  | .blank tag => .token "Opaque()" tag
  | .node n => Node.toTerm n

def Value.terms : List Value → List Term
  | [] => []
  | v :: rest => Value.toTerm v :: Value.terms rest

def Value.entryTerms : List (Value × Value) → List (Term × Term)
  | [] => []
  | (key, v) :: rest => (Value.toTerm key, Value.toTerm v) :: Value.entryTerms rest

def Value.namedTerms : List (String × Value) → List (String × Term)
  | [] => []
  | (name, v) :: rest => (name, Value.toTerm v) :: Value.namedTerms rest

def Node.toTerm : Node Value → Term
  | .choice c => .choice c
  | .classNamed home name => .kindNamed home name
  | .operation name => .operation name
  | .model m => .model m
  | .memberInfo m => .token ("FieldInfo(" ++ m.name ++ ")") 0
  | .generic a unpacked held =>
    .holder ((if unpacked then "*" else "") ++ a.shown) 0 (Value.terms held)
  | .field r => (Field.ref r).toTerm
  | .looseField owner parts =>
    .record "FieldRef" [("model", Value.toTerm owner), ("parts", Value.toTerm parts)]
  | .members m tag => .token ("fields_of(" ++ m.name ++ ")") tag
  | .looseMembers owner tag =>
    .table ("fields_of(" ++ (Value.toTerm owner).className ++ ")") tag (Value.toTerm owner)
  | .schema s tag => .token s.shown tag
  | .query q => q.toTerm
  | .path p => p.toTerm
  | .fuzzy f => f.toTerm
  | .count c => c.toTerm
  | .highlight h => h.toTerm
  | .expression f => f.toTerm
  | .score s => s.toTerm
  | .span s => s.toTerm
  | .facet f => f.toTerm
  | .point p => p.toTerm
  | .box b => GeoBox.toTerm b
  | .circle c => GeoCircle.toTerm c
  | .bound value inclusive =>
    .record "RangeBound" [("value", Value.toTerm value), ("inclusive", Value.toTerm inclusive)]
  | .rangeStart path score =>
    .record "RangeBuilder" [("path", path.toTerm), ("score", Score.optionTerm score)]
  | .operator op => Operator.toTerm op
  | .fault f tag => .fault f.kind tag (Fault.givenTerms f)
  | .bundle entries => .bundle (Value.namedTerms entries)
  | .code text scope => .code text (Value.toTerm scope)
  | .pointer collection id database others =>
    .pointer collection.toTerm (Value.toTerm id) (.ofOption Words.toTerm database)
      (Value.entryTerms others)
  | .outlined t => t
  | .module name => .module name
  | .other kind held => .holder ("<" ++ kind ++ ">") 0 (Value.terms held)

/-- The terms of what a fault was given; most are given their message. -/
def Fault.givenTerms : Fault Value → List Term
  | .invalid argument _ reason => [.text ("Invalid " ++ argument ++ ": " ++ reason.text)]
  | .outOfRange argument _ reason => [.text ("Invalid " ++ argument ++ ": " ++ reason.text)]
  | .unresolved field reason =>
    [.text ("Cannot resolve field " ++ (Value.toTerm field).shown ++ ": " ++ reason.text)]
  | .general given => Value.terms given
  | .noAttribute error => [.text error.text]
  | .noKey key => [Value.toTerm key]
  | .unhandledRelation relation =>
    [.text ("Unhandled geo shape relation: " ++ (Value.toTerm relation).shown)]
  | .wholeOnly => [.text "raw documents are rendered whole"]
  | .refused refusal => [.text refusal.kind]
  | .unbound name => [.text name]
  | .told _ _ message => [.text message]

def Geometry.toTerm : Geometry Value → Term
  | ⟨given, _, _⟩ => Value.toTerm given

def GeoBox.toTerm : GeoBox Value → Term
  | ⟨bottomLeft, topRight⟩ =>
    .record "GeoBox"
      [("bottom_left", Geometry.toTerm bottomLeft), ("top_right", Geometry.toTerm topRight)]

def GeoCircle.toTerm : GeoCircle Value → Term
  | ⟨center, radius⟩ =>
    .record "GeoCircle" [("center", Geometry.toTerm center), ("radius", .number radius)]

/-- The terms of an area: its geometry, its box and its circle. -/
def Area.toTerm : Area Value → Term × Term × Term
  | .geometry g => (Geometry.toTerm g, .null, .null)
  | .box b => (.null, GeoBox.toTerm b, .null)
  | .circle c => (.null, .null, GeoCircle.toTerm c)

def Operator.toTerm : Operator Value → Term
  | .text query path fuzzy score =>
    .record "TextSearchDefinition"
      [("query", query.toTerm), ("path", path.toTerm), ("fuzzy", .ofOption Fuzzy.toTerm fuzzy),
        ("score", Score.optionTerm score)]
  | .phrase query path slop score =>
    .record "PhraseSearchDefinition"
      [("query", query.toTerm), ("path", path.toTerm), ("slop", .whole slop),
        ("score", Score.optionTerm score)]
  | .autocomplete query path order fuzzy score =>
    .record "AutocompleteSearchDefinition"
      [("query", query.toTerm), ("path", path.toTerm), ("token_order", .choice (.order order)),
        ("fuzzy", .ofOption Fuzzy.toTerm fuzzy), ("score", Score.optionTerm score)]
  | .pattern form query path analyzed score =>
    .record form.kind
      [("query", query.toTerm), ("path", path.toTerm), ("allow_analyzed_field", .bool analyzed),
        ("score", Score.optionTerm score)]
  | .queryString defaultPath query score =>
    .record "QueryStringSearchDefinition"
      [("default_path", defaultPath.toTerm), ("query", query.toTerm),
        ("score", Score.optionTerm score)]
  | .equals path value score =>
    .record "EqualsSearchDefinition"
      [("path", path.toTerm), ("value", value.toTerm), ("score", Score.optionTerm score)]
  | .existence path => .record "ExistsSearchDefinition" [("path", path.toTerm)]
  | .near path origin pivot score =>
    .record "NearSearchDefinition"
      [("path", path.toTerm), ("origin", origin.toTerm), ("pivot", .number pivot),
        ("score", Score.optionTerm score)]
  | .geoWithin path area score =>
    .record "GeoWithinSearchDefinition"
      [("path", path.toTerm), ("geometry", (Area.toTerm area).1), ("box", (Area.toTerm area).2.1),
        ("circle", (Area.toTerm area).2.2), ("score", Score.optionTerm score)]
  | .geoShape path geometry relation score =>
    .record "GeoShapeSearchDefinition"
      [("path", path.toTerm), ("geometry", Geometry.toTerm geometry),
        ("relation", .choice (.relation relation)), ("score", Score.optionTerm score)]
  | .range form path lower upper score =>
    .record form.kind
      [("path", path.toTerm), ("lower", Bound.optionTerm lower), ("upper", Bound.optionTerm upper),
        ("score", Score.optionTerm score)]
  | .compound must mustNot should filter minimum score =>
    .record "CompoundSearchDefinition"
      [("must_clauses", Operator.optionTerm must), ("must_not_clauses", Operator.optionTerm mustNot),
        ("should_clauses", Operator.optionTerm should),
        ("filter_clauses", Operator.optionTerm filter), ("should_minimum", .whole minimum),
        ("score", Score.optionTerm score)]
  | .span s => .record "SpanSearchDefinition" [("definition", s.toTerm)]
  | .facet operator facets =>
    .record "FacetSearchDefinition"
      [("operator", Operator.toTerm operator), ("facets", .tuple (facets.map Facet.toTerm))]
  | .raw entries =>
    .record "RawSearchDefinition" [("document", .dict (Value.entryTerms entries))]

def Bound.optionTerm : Option (Bound Value) → Term
  | none => .null
  | some ⟨limit, inclusive⟩ =>
    .record "RangeBound" [("value", limit.toTerm), ("inclusive", Value.toTerm inclusive)]

def Operator.optionTerm : Option (List (Operator Value)) → Term
  | none => .null
  | some clauses => .tuple (Operator.terms clauses)

def Operator.terms : List (Operator Value) → List Term
  | [] => []
  | op :: rest => Operator.toTerm op :: Operator.terms rest

end

/-!
## Shown values

Each value has two texts: the one that shows what it is, which is that of its
term, and the plain one, which differs from it for texts, numbers, dates,
identifiers, field references and faults.
-/

def Value.plainUnlessFault (v : Value) : String :=
  match v with
  | .text s => s
  | .number x => x.text
  | .decimal d => d.text
  | .dateTime t => t.textWith " "
  | .day d => d.isoText
  | .objectId o => o.hex
  | .special (.decimal128 d) => d.text128
  | .special (.binary data _) => Text.quotedBytes data
  | .node (.choice c) => c.text
  | .node (.field r) => r.text
  | .node (.code s _) => s
  | v => v.toTerm.shown

/-- What the host says when it refuses something: the kind of refusal, or each
member that a document needs and was not given, in a paragraph of its own. -/
def Refusal.message : Refusal → String
  | .unfilled model members =>
    let errors := if members.length = 1 then " validation error for " else " validation errors for "
    toString members.length ++ errors ++ model ++ String.join (members.map (fun name =>
      "\n" ++ name ++ "\n  Field required [type=missing, input_value=\x7b\x7d, input_type=dict]"))
  | refusal => refusal.kind

def Fault.message : Fault Value → String
  | .invalid argument _ reason => "Invalid " ++ argument ++ ": " ++ reason.text
  | .outOfRange argument _ reason => "Invalid " ++ argument ++ ": " ++ reason.text
  | .unresolved field reason =>
    "Cannot resolve field " ++ field.toTerm.shown ++ ": " ++ reason.text
  | .general [] => ""
  | .general [only] => only.plainUnlessFault
  | .general several => "(" ++ ", ".intercalate (several.map (fun v => v.toTerm.shown)) ++ ")"
  | .noAttribute error => error.text
  | .noKey key => key.toTerm.shown
  | .unhandledRelation relation => "Unhandled geo shape relation: " ++ relation.toTerm.shown
  | .wholeOnly => "raw documents are rendered whole"
  | .refused refusal => refusal.message
  | .unbound name => name
  | .told _ _ message => message

namespace Value

def shown (v : Value) : String :=
  v.toTerm.shown

def isWritable (v : Value) : Bool :=
  v.toTerm.isWritable

def plain (v : Value) : String :=
  match v with
  | .node (.fault f _) => f.message
  | v => v.plainUnlessFault

end Value

/-- The fault that something has no stored name, which is shown in the message. -/
def Fault.mismatch (v : Value) (reason : Mismatch) : Fault Value :=
  .worded v.isWritable (.unresolved v reason)

/-- A chain of names can be shown. -/
theorem Term.areWritable_texts (names : List String) : areWritable (names.map .text) = true := by
  induction names with
  | nil => rfl
  | cons name rest ih => exact ih

/-- A reference to a member of a model can be shown. -/
theorem Value.isWritable_field (r : FieldRef) : (Value.node (.field r)).isWritable = true := by
  show (true && (Term.areWritable (r.parts.map .text) && true)) = true
  rw [Term.areWritable_texts]
  rfl

theorem Fault.mismatch_field (r : FieldRef) (reason : Mismatch) :
    mismatch (.node (.field r)) reason = .unresolved (.node (.field r)) reason := by
  unfold mismatch
  rw [Value.isWritable_field]
  rfl

/-!
## Equality of values

Numbers are equal by value whatever their kind, and truth values count as one
and zero.  Date-times are equal as instants when both have an offset and by
the clock when neither has one.  Dictionaries are equal whatever their order,
and records when they are of one kind with equal fields.  A not-a-number
equals nothing, but inside a container it matches its own occurrence.
-/

namespace Term

def extended? : Term → Option Extended
  | .bool b => some (.finite (if b then 1 else 0))
  | .number x => some x.extended
  | .decimal d => some d.extended
  | _ => none

def sameOccurrence : Term → Term → Bool
  | .number (.double (.nan a)), .number (.double (.nan b)) => a == b
  | .decimal (.nan _ _ _ a), .decimal (.nan _ _ _ b) => a == b
  | _, _ => false

/-- Equality of terms without parts. -/
def atomsEqual (a b : Term) : Bool :=
  match a.extended?, b.extended? with
  | some x, some y => x.same y
  | some _, none => false
  | none, some _ => false
  | none, none =>
    match a, b with
    | .null, .null => true
    | .text s, .text t => s == t
    | .bytes s, .bytes t => s == t
    | .dateTime s, .dateTime t => s.same t
    | .day s, .day t => s == t
    | .objectId s, .objectId t => s == t
    | .special (.timestamp x y), .special (.timestamp z w) =>
      x.value == z.value && y.value == w.value
    | .special s, .special t => s == t
    | .choice s, .choice t => s == t
    | .model s, .model t => s == t
    | .token s x, .token t y => s == t && x == y
    | .holder s x _, .holder t y _ => s == t && x == y
    | .table s x _, .table t y _ => s == t && x == y
    | .module s, .module t => s == t
    | .kindNamed _ s, .kindNamed _ t => s == t
    | .operation s, .operation t => s == t
    | .stream x _, .stream y _ => x == y
    | .shape x _, .shape y _ => x == y
    | .fault _ x _, .fault _ y _ => x == y
    | _, _ => false

mutual

/-- Whether two terms are alike as parts of a container, where one occurrence is like itself. -/
def matching : Term → Term → Bool
  | .list xs, .list ys => matchingAll xs ys
  | .tuple xs, .tuple ys => matchingAll xs ys
  | .set xs, .set ys => xs.length == ys.length && matchingMembers xs ys
  | .dict xs, .dict ys => xs.length == ys.length && matchingEntries xs ys
  | .bundle xs, .bundle ys => xs.length == ys.length && matchingNamed xs ys
  | .record k xs, .record l ys => k == l && xs.length == ys.length && matchingNamed xs ys
  | .code s x, .code t y => s == t && matching x y
  | .pointer c i d xs, .pointer e j f ys =>
    matching c e && matching i j && matching d f && xs.length == ys.length &&
      matchingEntries xs ys
  | a, b => sameOccurrence a b || atomsEqual a b

def matchingAll : List Term → List Term → Bool
  | [], [] => true
  | a :: as, b :: bs => matching a b && matchingAll as bs
  | _, _ => false

def matchingMembers : List Term → List Term → Bool
  | [], _ => true
  | a :: as, bs => bs.any (matching a) && matchingMembers as bs

def matchingEntries : List (Term × Term) → List (Term × Term) → Bool
  | [], _ => true
  | (key, a) :: rest, bs =>
    bs.any (fun entry => matching key entry.1 && matching a entry.2) && matchingEntries rest bs

def matchingNamed : List (String × Term) → List (String × Term) → Bool
  | [], _ => true
  | (name, a) :: rest, bs =>
    bs.any (fun entry => name == entry.1 && matching a entry.2) && matchingNamed rest bs

end

def equal (a b : Term) : Bool :=
  if sameOccurrence a b then false else matching a b

/-- Whether entries have an order by their keys: all of them texts or all of them numbers. -/
def sortable (entries : List (Term × Term)) : Bool :=
  entries.length ≤ 1 || entries.all (fun entry => match entry.1 with | .text _ => true | _ => false) ||
    entries.all (fun entry => entry.1.extended?.isSome)

mutual

/-- Whether a term can be a member of a set: nothing in it may be mutable. -/
def hashable : Term → Bool
  | .list _ => false
  | .dict _ => false
  | .bundle _ => false
  | .special (.regex ..) => false
  | .special (.decimal128 _) => false
  | .decimal (.nan _ true _ _) => false
  | .tuple items => hashableAll items
  | .set items => hashableAll items
  | .record _ fields => hashableFields fields
  | .code .. => false
  | .pointer collection id database others =>
    hashable collection && hashable id && hashable database && hashableSeconds others &&
      sortable others
  | _ => true

def hashableAll : List Term → Bool
  | [] => true
  | t :: rest => hashable t && hashableAll rest

def hashableSeconds : List (Term × Term) → Bool
  | [] => true
  | (_, t) :: rest => hashable t && hashableSeconds rest

def hashableFields : List (String × Term) → Bool
  | [] => true
  | (_, t) :: rest => hashable t && hashableFields rest

end

/-- The terms without those that match an earlier one. -/
def distinct (terms : List Term) : List Term :=
  terms.foldl (fun kept t => if kept.any (matching t) then kept else kept ++ [t]) []

end Term

namespace Value

def equal (a b : Value) : Bool :=
  a.toTerm.equal b.toTerm

def signals : Value → Bool
  | .decimal (.nan _ signaling _ _) => signaling
  | _ => false

/-- Whether two values can be compared: what signals that it is no number
refuses to be compared with numbers. -/
def comparable (a b : Value) : Bool :=
  !((a.signals && b.toTerm.extended?.isSome) || (b.signals && a.toTerm.extended?.isSome))

/-- Whether a value can be a member of a set or a key of a dictionary. -/
def hashable (v : Value) : Bool :=
  v.toTerm.hashable

end Value

/-!
## Copying values

A hand-written document is copied before it is handed out, and a copy goes on
to everything that it holds.  A stream cannot be copied, since reading the copy
would go through the stream itself; neither can a module, nor a fault that
reports an argument or a field, since it cannot be made from its message alone.
A bundle that brings its own way to be copied counts as one that cannot be.

The host stops at some depth of containers, whatever they hold; that limit is
its own and is left out.
-/

/-- The kinds of faults that cannot be made from what they are given. -/
def Kind.reports : List String :=
  ["InvalidArgumentError", "ArgumentOutOfRangeError", "SchemaMismatchError"]

namespace Term

def brings (name : String) (entries : List (String × Term)) : Bool :=
  match entries.find? (fun entry => entry.1 == name) with
  | none => false
  | some (_, .null) => false
  | some _ => true

def copiedAsBundle (entries : List (String × Term)) : Bool :=
  !brings "__deepcopy__" entries && !brings "__reduce_ex__" entries &&
    (entries.all (fun entry => entry.1 != "__reduce_ex__") ||
      entries.all (fun entry => entry.1 != "__reduce__"))

mutual

/-- Whether a deep copy can be made of a term.  Objects that live in the running program only,
such as modules and streams, have none. -/
def copyable : Term → Bool
  | .stream .. => false
  | .module _ => false
  | .holder _ _ held => copyableAll held
  | .table _ _ owner => copyable owner
  | .fault kind _ given => !Kind.reports.contains kind && copyableAll given
  | .shape _ outline => copyable outline
  | .list items => copyableAll items
  | .tuple items => copyableAll items
  | .set items => copyableAll items
  | .dict entries => copyableEntries entries
  | .bundle entries => copiedAsBundle entries && copyableNamed entries
  | .record _ fields => copyableNamed fields
  | .code _ scope => copyable scope
  | .pointer collection id database others =>
    copyable collection && copyable id && copyable database && copyableEntries others
  | .null => true
  | .bool _ => true
  | .number _ => true
  | .decimal _ => true
  | .text _ => true
  | .bytes _ => true
  | .dateTime _ => true
  | .day _ => true
  | .objectId _ => true
  | .special _ => true
  | .choice _ => true
  | .model _ => true
  | .kindNamed .. => true
  | .operation _ => true
  | .token .. => true

def copyableAll : List Term → Bool
  | [] => true
  | t :: rest => copyable t && copyableAll rest

def copyableEntries : List (Term × Term) → Bool
  | [] => true
  | (key, t) :: rest => copyable key && copyable t && copyableEntries rest

def copyableNamed : List (String × Term) → Bool
  | [] => true
  | (_, t) :: rest => copyable t && copyableNamed rest

end

end Term

def Value.copyable (v : Value) : Bool :=
  v.toTerm.copyable

end SearchQuery
