import SearchQuery.Document

/-!
# What a document asks for

A definition asks of its surroundings the names of its fields, geometries that
can be read again and documents that can be copied, in the order in which they
are written.
-/

namespace SearchQuery

/-!
## What documents ask for

Writing a document asks three kinds of things of what surrounds it: the stored
name of a field, the description of a geometry, and a copy of a hand-written
document.  The demands of a definition are listed in the order in which their
answers stand in its document, and are met or refused one after another.
-/

/-- Something that a document needs before it can be written. -/
inductive Demand where
  | name (field : Field)
  | geometry (argument : String) (allowed : List String) (g : Geometry Value)
  | copy (entries : List (Value × Value))

namespace Demand

/-- What comes of a demand under a schema. -/
def meet (resolve : Resolver) : Demand → Except (Fault Value) Unit
  | .name field => do
    let _ ← resolve field
  | .geometry argument allowed g => do
    let _ ← g.render argument allowed
  | .copy entries => do
    let _ ← (Operator.raw entries).render resolve

def meetAll (resolve : Resolver) : List Demand → Except (Fault Value) Unit
  | [] => .ok ()
  | demand :: rest => do
    demand.meet resolve
    meetAll resolve rest

def field? : Demand → Option Field
  | .name field => some field
  | _ => none

def geometry? : Demand → Option (Geometry Value)
  | .geometry _ _ g => some g
  | _ => none

def document? : Demand → Option (List (Value × Value))
  | .copy entries => some entries
  | _ => none

end Demand

/-- The demands of a path: one for every field. -/
def Path.demands (p : Path) : List Demand :=
  p.fields.map .name

namespace ScoreFunction

mutual

def demands : ScoreFunction → List Demand
  | .path p _ => p.demands
  | .relevance => []
  | .constant _ => []
  | .combined _ children => allDemands children
  | .gauss p .. => p.demands
  | .transformed _ child => demands child

def allDemands : List ScoreFunction → List Demand
  | [] => []
  | child :: rest => demands child ++ allDemands rest

end

end ScoreFunction

namespace Score

def demands : Score → List Demand
  | .boost _ => []
  | .boostPath p _ => p.demands
  | .constant _ => []
  | .function expression => expression.demands

def entryDemands : Option Score → List Demand
  | none => []
  | some score => score.demands

end Score

namespace Span

mutual

def demands : Span → List Demand
  | .term _ path => path.demands
  | .first operator _ => demands operator
  | .near clauses .. => allDemands clauses
  | .either clauses => allDemands clauses
  | .subtract kept removed => demands kept ++ demands removed

def allDemands : List Span → List Demand
  | [] => []
  | clause :: rest => demands clause ++ allDemands rest

end

end Span

namespace Facet

def path : Facet → Path
  | .string _ path _ => path
  | .number _ path .. => path
  | .date _ path .. => path

def allDemands (facets : List Facet) : List Demand :=
  facets.flatMap (fun facet => facet.path.demands)

end Facet

/-- The demands of an area: its geometry, the corners of its box, or the center of its circle. -/
def Area.demands : Area Value → List Demand
  | .geometry g => [.geometry "geometry" polygonTypes g]
  | .box b =>
    [.geometry "bottom_left" ["Point"] b.bottomLeft, .geometry "top_right" ["Point"] b.topRight]
  | .circle c => [.geometry "center" ["Point"] c.center]

namespace Operator

mutual

def demands : Operator Value → List Demand
  | .text _ p _ score => p.demands ++ Score.entryDemands score
  | .phrase _ p _ score => p.demands ++ Score.entryDemands score
  | .autocomplete _ p _ _ score => p.demands ++ Score.entryDemands score
  | .pattern _ _ p _ score => p.demands ++ Score.entryDemands score
  | .queryString field _ score => .name field :: Score.entryDemands score
  | .equals field _ score => .name field :: Score.entryDemands score
  | .existence field => [.name field]
  | .near p _ _ score => p.demands ++ Score.entryDemands score
  | .geoWithin p area score => p.demands ++ area.demands ++ Score.entryDemands score
  | .geoShape p g _ score =>
    p.demands ++ [.geometry "geometry" shapeTypes g] ++ Score.entryDemands score
  | .range _ p _ _ score => p.demands ++ Score.entryDemands score
  | .compound must mustNot should filter _ score =>
    clauseDemands must ++ clauseDemands mustNot ++ clauseDemands should ++ clauseDemands filter ++
      Score.entryDemands score
  | .span s => s.demands
  | .facet operator facets => demands operator ++ Facet.allDemands facets
  | .raw entries => [.copy entries]

def clauseDemands : Option (List (Operator Value)) → List Demand
  | none => []
  | some clauses => allDemands clauses

def allDemands : List (Operator Value) → List Demand
  | [] => []
  | clause :: rest => demands clause ++ allDemands rest

end

/-- The fields of an operator outside hand-written documents, in document order. -/
def fields (op : Operator Value) : List Field :=
  op.demands.filterMap Demand.field?

/-- The geometries of an operator, in document order. -/
def geometries (op : Operator Value) : List (Geometry Value) :=
  op.demands.filterMap Demand.geometry?

/-- The hand-written documents of an operator, in document order. -/
def documents (op : Operator Value) : List (List (Value × Value)) :=
  op.demands.filterMap Demand.document?

end Operator

/-!
## Definitions with their fields renamed

Every field that a schema would resolve is replaced by a name.  Patterns,
texts, analyzers, the names of facets, geometries and hand-written documents
stay as they are.
-/

def Path.rename (names : Field → Words) : Path → Path
  | .single field => .single (.name (names field))
  | .many fields => .many (fields.map (fun field => .name (names field)))
  | .analyzed field analyzer => .analyzed (.name (names field)) analyzer
  | .wildcard pattern => .wildcard pattern

namespace ScoreFunction

mutual

def rename (names : Field → Words) : ScoreFunction → ScoreFunction
  | .path p undefined => .path (p.rename names) undefined
  | .relevance => .relevance
  | .constant value => .constant value
  | .combined way children => .combined way (renameAll names children)
  | .gauss p origin scale decay offset => .gauss (p.rename names) origin scale decay offset
  | .transformed way child => .transformed way (rename names child)

def renameAll (names : Field → Words) : List ScoreFunction → List ScoreFunction
  | [] => []
  | child :: rest => rename names child :: renameAll names rest

end

end ScoreFunction

def Score.rename (names : Field → Words) : Score → Score
  | .boost value => .boost value
  | .boostPath p undefined => .boostPath (p.rename names) undefined
  | .constant value => .constant value
  | .function expression => .function (expression.rename names)

namespace Span

mutual

def rename (names : Field → Words) : Span → Span
  | .term query path => .term query (path.rename names)
  | .first operator endPosition => .first (rename names operator) endPosition
  | .near clauses slop inOrder => .near (renameAll names clauses) slop inOrder
  | .either clauses => .either (renameAll names clauses)
  | .subtract kept removed => .subtract (rename names kept) (rename names removed)

def renameAll (names : Field → Words) : List Span → List Span
  | [] => []
  | clause :: rest => rename names clause :: renameAll names rest

end

end Span

def Facet.rename (names : Field → Words) : Facet → Facet
  | .string name path buckets => .string name (path.rename names) buckets
  | .number name path boundaries outside => .number name (path.rename names) boundaries outside
  | .date name path boundaries outside => .date name (path.rename names) boundaries outside

def Highlight.rename (names : Field → Words) (h : Highlight) : Highlight :=
  { h with path := h.path.rename names }

namespace Operator

mutual

def rename (names : Field → Words) : Operator Value → Operator Value
  | .text query p fuzzy score =>
    .text query (p.rename names) fuzzy (score.map (Score.rename names))
  | .phrase query p slop score =>
    .phrase query (p.rename names) slop (score.map (Score.rename names))
  | .autocomplete query p order fuzzy score =>
    .autocomplete query (p.rename names) order fuzzy (score.map (Score.rename names))
  | .pattern form query p analyzed score =>
    .pattern form query (p.rename names) analyzed (score.map (Score.rename names))
  | .queryString field query score =>
    .queryString (.name (names field)) query (score.map (Score.rename names))
  | .equals field value score =>
    .equals (.name (names field)) value (score.map (Score.rename names))
  | .existence field => .existence (.name (names field))
  | .near p origin pivot score =>
    .near (p.rename names) origin pivot (score.map (Score.rename names))
  | .geoWithin p area score =>
    .geoWithin (p.rename names) area (score.map (Score.rename names))
  | .geoShape p geometry relation score =>
    .geoShape (p.rename names) geometry relation (score.map (Score.rename names))
  | .range form p lower upper score =>
    .range form (p.rename names) lower upper (score.map (Score.rename names))
  | .compound must mustNot should filter minimum score =>
    .compound (renameClauses names must) (renameClauses names mustNot)
      (renameClauses names should) (renameClauses names filter) minimum
      (score.map (Score.rename names))
  | .span s => .span (s.rename names)
  | .facet operator facets => .facet (rename names operator) (facets.map (Facet.rename names))
  | .raw entries => .raw entries

def renameClauses (names : Field → Words) :
    Option (List (Operator Value)) → Option (List (Operator Value))
  | none => none
  | some clauses => some (renameAll names clauses)

def renameAll (names : Field → Words) : List (Operator Value) → List (Operator Value)
  | [] => []
  | clause :: rest => rename names clause :: renameAll names rest

end

end Operator

end SearchQuery
