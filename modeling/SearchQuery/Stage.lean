import SearchQuery.Build.Guard

/-!
# Stages

Documents of all nodes, and the stages and projections of a pipeline that
operators are put in.
-/

namespace SearchQuery

/-!
## Documents of nodes

Every node of a definition has a document.  A schema that is no schema is only
noticed where it is needed: by the fields of a path, and by the nodes that
hand it on to several others.
-/

namespace ScoreFunction

/-- Whether an expression needs a schema even without fields. -/
def needsSchema : ScoreFunction → Bool
  | .combined .. => true
  | .transformed _ child => needsSchema child
  | _ => false

end ScoreFunction

namespace Score

/-- Whether a score needs a schema even without fields. -/
def needsSchema : Score → Bool
  | .function expression => expression.needsSchema
  | _ => false

end Score

namespace Span

/-- Whether a span needs a schema even without fields. -/
def needsSchema : Span → Bool
  | .near .. => true
  | .either _ => true
  | .subtract .. => true
  | .first operator _ => needsSchema operator
  | .term .. => false

end Span

namespace Operator

/-- Whether an operator needs a schema even without fields; a hand-written
document is the only one that does not. -/
def needsSchema : Operator Value → Bool
  | .raw _ => false
  | _ => true

def anyNeedsSchema (clauses : Option (List (Operator Value))) : Bool :=
  (clauses.getD []).any needsSchema

def score? : Operator Value → Option Score
  | .text _ _ _ score => score
  | .phrase _ _ _ score => score
  | .autocomplete _ _ _ _ score => score
  | .pattern _ _ _ _ score => score
  | .queryString _ _ score => score
  | .equals _ _ score => score
  | .near _ _ _ score => score
  | .geoWithin _ _ score => score
  | .geoShape _ _ _ score => score
  | .range _ _ _ _ score => score
  | .compound _ _ _ _ _ score => score
  | _ => none

/-- Whether the body of an operator needs a schema even without fields. -/
def bodyNeedsSchema (op : Operator Value) : Bool :=
  let inner := match op with
    | .compound must mustNot should filter _ _ => [must, mustNot, should, filter].any anyNeedsSchema
    | .facet operator _ => operator.needsSchema
    | .span s => s.needsSchema
    | _ => false
  inner || (op.score?.map Score.needsSchema).getD false

def onlyEntry : Value → Value
  | .dict [(_, body)] => body
  | v => v

/-- The body of an operator with a value for its schema.  The operators of a
single field use the value as it is; hand-written documents have no body. -/
def body (c : Catalog) (schema : Value) (op : Operator Value) : Checked Value :=
  match op with
  | .raw _ => .error .wholeOnly
  | .queryString .. => (op.render (Schema.direct c schema)).map onlyEntry
  | .equals .. => (op.render (Schema.direct c schema)).map onlyEntry
  | .existence _ => (op.render (Schema.direct c schema)).map onlyEntry
  | op => do
    if op.bodyNeedsSchema then
      let _ ← Schema.coerce c schema
    (op.render (Schema.coerced c schema)).map onlyEntry

end Operator

namespace Node

/-- Whether a node needs a schema even without fields. -/
def needsSchema : Node Value → Bool
  | .expression f => f.needsSchema
  | .score s => s.needsSchema
  | .span s => s.needsSchema
  | .operator op => op.needsSchema
  | _ => false

def takesSchema : Node Value → Bool
  | .query _ => false
  | .fuzzy _ => false
  | .count _ => false
  | .point _ => false
  | .box _ => false
  | .circle _ => false
  | _ => true

/-- The document of a node; other objects have none. -/
def document (resolve : Resolver) : Node Value → Checked Value
  | .query q => .ok q.render
  | .path p => p.render resolve
  | .fuzzy f => .ok f.render
  | .count c => .ok c.render
  | .highlight h => h.render resolve
  | .expression f => f.render resolve
  | .score s => s.render resolve
  | .span s => s.render resolve
  | .facet f => f.render resolve
  | .point p => .ok p.render
  | .box b => b.render
  | .circle c => c.render
  | .operator op => op.render resolve
  | _ => .error (.refused .wrongType)

def documentWith (c : Catalog) (schema : Value) (n : Node Value) : Checked Value := do
  if n.needsSchema then
    let _ ← Schema.coerce c schema
  n.document (Schema.coerced c schema)

end Node

namespace Value

def document (c : Catalog) (v : Value) (schema : Option Value) : Checked Value := do
  match ← v.part c "render" with
  | .value _ => throw (.refused .wrongType)
  | .unapplied _ => throw (.refused .wrongType)
  | .method _ =>
    match v with
    | .node n =>
      match schema with
      | none => n.documentWith c .null
      | some s => if n.takesSchema then n.documentWith c s else throw (.refused .wrongType)
    | _ => throw (.refused .wrongType)

end Value

/-!
## Stages and projections

A search stage holds the document of its operator and the options of the
stage beside it.  A metadata stage holds fewer options.  Projections put the
score, the highlighted passages or the metadata into a field.
-/

namespace Stage

def highlight : Value → Checked (Option Highlight) :=
  Guard.optional (Guard.expect ["HighlightOptions"]
    (fun v => match v with | .node (.highlight h) => some h | _ => none)) "highlight"

def count : Value → Checked (Option Count) :=
  Guard.optional (Guard.expect ["CountOptions"]
    (fun v => match v with | .node (.count c) => some c | _ => none)) "count"

def index : Value → Checked (Option Words) :=
  Guard.optional Guard.text "index"

def body (resolve : Resolver) (op : Operator Value) : Checked (List (Value × Value)) := do
  match ← op.render resolve with
  | .dict entries => return entries
  | _ => return []

def setOption (key : String) (v : Option Value) (entries : List (Value × Value)) :
    List (Value × Value) :=
  match v with
  | none => entries
  | some v => Value.insert (.text key) v entries

def highlightDocument (resolve : Resolver) : Option Highlight → Checked (Option Value)
  | none => .ok none
  | some h => do
    let document ← h.render resolve
    return some document

def searchWith (resolve : Resolver) (op : Operator Value) (h : Option Highlight)
    (i : Option Words) (n : Option Count) (storedSource : Bool) : Checked Value := do
  let entries ← body resolve op
  let passages ← highlightDocument resolve h
  let entries := setOption "highlight" passages entries
  let entries := setOption "count" (n.map Count.render) entries
  let entries := setOption "index" (i.map .ofWords) entries
  let entries := setOption "returnStoredSource" (if storedSource then some (.bool true) else none)
    entries
  return .object [("$search", .dict entries)]

def search (c : Catalog) (query schema highlightGiven indexGiven countGiven : Value)
    (storedSource : Bool) : Checked Value := do
  let resolve := (← Schema.coerce c schema).resolver c
  let h ← highlight highlightGiven
  let n ← count countGiven
  let i ← index indexGiven
  let op ← Guard.operator "query" query
  searchWith resolve op h i n storedSource

/-- A stage that returns metadata only, over a resolver and options that are
known to be some. -/
def searchMetaWith (resolve : Resolver) (op : Operator Value) (i : Option Words)
    (n : Option Count) : Checked Value := do
  let entries ← body resolve op
  let entries := setOption "count" (n.map Count.render) entries
  let entries := setOption "index" (i.map .ofWords) entries
  return .object [("$searchMeta", .dict entries)]

/-- A stage that returns metadata only. -/
def searchMeta (c : Catalog) (query schema indexGiven countGiven : Value) : Checked Value := do
  let resolve := (← Schema.coerce c schema).resolver c
  let n ← count countGiven
  let i ← index indexGiven
  let op ← Guard.operator "query" query
  searchMetaWith resolve op i n

/-- A document with one entry; code can be no key. -/
def projection (name : Words) (v : Value) : Checked Value :=
  if name.isCode then .error (.refused .wrongType) else .ok (.object [(name.text, v)])

def projectScore (field : Value) : Checked Value := do
  let name ← Guard.text "field" field
  projection name (.object [("$meta", .text "searchScore")])

def projectHighlights (field : Value) : Checked Value := do
  let name ← Guard.text "field" field
  projection name (.object [("$meta", .text "searchHighlights")])

def projectMeta (c : Catalog) (field schema : Value) : Checked Value := do
  let field ← Guard.notNull "field" field
  let s ← Schema.coerce c schema
  let name ← s.resolve c field
  projection name (.text "$$SEARCH_META")

end Stage

end SearchQuery
