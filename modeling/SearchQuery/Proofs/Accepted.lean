import SearchQuery.Proofs.Constructors
import SearchQuery.Proofs.Demand

/-!
# Accepted nodes

A node is accepted when a constructor makes it from parts that are accepted, so
what the constructors preserve holds of every accepted node, at every depth.
The fields that such a node searches by name have a name, and its geometries
were made from the values that they keep.
-/

namespace SearchQuery

/-- A field that is a name is not the empty one. -/
def Field.Named : Field → Prop
  | .name w => w.text ≠ ""
  | .ref _ => True
  | .loose _ _ => True

namespace Value

def asNode? : Value → Option (Node Value)
  | .node n => some n
  | _ => none

/-- The nodes that a constructor finds in a value: the value itself, or the items of a tuple. -/
def parts : Value → List (Node Value)
  | .tuple items => items.filterMap asNode?
  | v => v.asNode?.toList

section Gather

variable {α : Type} (f : Node Value → List α)

/-- What the nodes in a value hold, gathered in order. -/
def gather (v : Value) : List α :=
  v.parts.flatMap f

@[simp]
theorem gather_node (n : Node Value) : gather f (node n) = f n := by
  simp [gather, parts, asNode?]

@[simp]
theorem gather_null : gather f null = [] := by
  simp [gather, parts, asNode?]

@[simp]
theorem gather_ofPath (p : Path) : gather f (ofPath p) = f (.path p) :=
  gather_node f _

@[simp]
theorem gather_ofExpression (e : ScoreFunction) : gather f (ofExpression e) = f (.expression e) :=
  gather_node f _

@[simp]
theorem gather_ofSpan (s : Span) : gather f (ofSpan s) = f (.span s) :=
  gather_node f _

@[simp]
theorem gather_ofOperator (op : Operator Value) : gather f (ofOperator op) = f (.operator op) :=
  gather_node f _

@[simp]
theorem gather_ofScore (score : Option Score) :
    gather f (ofScore score) = score.toList.flatMap (fun s => f (.score s)) := by
  cases score <;> simp [ofScore, ofOption]

/-- What a tuple of nodes holds is what its items hold. -/
theorem gather_tuple {β : Type} (wrap : β → Node Value) (items : List β) :
    gather f (tuple (items.map (fun b => node (wrap b)))) =
      items.flatMap (fun b => f (wrap b)) := by
  simp [gather, parts, List.filterMap_map, Function.comp_def, asNode?, List.flatMap_map]

@[simp]
theorem gather_expressions (es : List ScoreFunction) :
    gather f (tuple (es.map ofExpression)) = es.flatMap (fun e => f (.expression e)) :=
  gather_tuple f .expression es

@[simp]
theorem gather_spans (ss : List Span) :
    gather f (tuple (ss.map ofSpan)) = ss.flatMap (fun s => f (.span s)) :=
  gather_tuple f .span ss

@[simp]
theorem gather_facets (fs : List Facet) :
    gather f (tuple (fs.map (fun facet => node (.facet facet)))) =
      fs.flatMap (fun facet => f (.facet facet)) :=
  gather_tuple f .facet fs

@[simp]
theorem gather_ofClauses (clauses : Option (List (Operator Value))) :
    gather f (ofClauses clauses) =
      clauses.toList.flatMap (fun ops => ops.flatMap (fun op => f (.operator op))) := by
  cases clauses with
  | none => simp [ofClauses, ofOption]
  | some ops =>
      rw [Option.toList_some, List.flatMap_singleton]
      exact gather_tuple f .operator ops

end Gather

end Value

/-- The nodes that constructors accept: what a constructor makes when the
parts among its arguments are accepted.  A node that is no part of a definition
has no constructor to accept it. -/
inductive Accepted : Node Value → Prop where
  | other {n : Node Value} (apart : ¬ n.Part) : Accepted n
  | made (k : Constructor) (given : List Value) {n : Node Value}
      (parts : ∀ v ∈ given, ∀ m ∈ v.parts, Accepted m) (passed : k.run given = .ok n) : Accepted n
namespace Demand

/-- What constructors check of what a document asks for: a name is not empty,
and a geometry is made from what it keeps. -/
@[simp] def Checked : Demand → Prop
  | .name field => field.Named
  | .geometry argument allowed g => Geometry.build allowed argument g.given = .ok g
  | .copy _ => True

end Demand

/-- The demands of a part of a definition. -/
@[simp] def Node.demands : Node Value → List Demand
  | .path p => p.demands
  | .highlight h => h.path.demands
  | .expression f => f.demands
  | .score s => s.demands
  | .span s => s.demands
  | .facet f => f.path.demands
  | .box b => (Area.box b).demands
  | .circle c => (Area.circle c).demands
  | .rangeStart p given => p.demands ++ Score.entryDemands given
  | .operator op => op.demands
  | _ => []

theorem ScoreFunction.allDemands_eq (fs : List ScoreFunction) :
    allDemands fs = fs.flatMap demands := by
  induction fs with
  | nil => simp [allDemands]
  | cons f rest ih => simp [allDemands, ih]

theorem Score.entryDemands_eq (score : Option Score) :
    entryDemands score = score.toList.flatMap demands := by
  cases score <;> simp [entryDemands]

theorem Span.allDemands_eq (ss : List Span) : allDemands ss = ss.flatMap demands := by
  induction ss with
  | nil => simp [allDemands]
  | cons s rest ih => simp [allDemands, ih]

namespace Operator

theorem allDemands_eq (ops : List (Operator Value)) : allDemands ops = ops.flatMap demands := by
  induction ops with
  | nil => simp [allDemands]
  | cons op rest ih => simp [allDemands, ih]

theorem clauseDemands_eq (clauses : Option (List (Operator Value))) :
    clauseDemands clauses = clauses.toList.flatMap (fun ops => ops.flatMap demands) := by
  cases clauses <;> simp [clauseDemands, allDemands_eq]

end Operator

namespace Demand

/-- All of several demands are checked. -/
def AllChecked (demands : List Demand) : Prop :=
  ∀ demand ∈ demands, demand.Checked

variable {demand : Demand} {first second : List Demand}

@[simp]
theorem allChecked_nil : AllChecked [] := by
  intro demand held
  cases held

@[simp]
theorem allChecked_cons : AllChecked (demand :: first) ↔ demand.Checked ∧ AllChecked first :=
  List.forall_mem_cons

@[simp]
theorem allChecked_append : AllChecked (first ++ second) ↔ AllChecked first ∧ AllChecked second :=
  List.forall_mem_append

end Demand

namespace Value

/-- The field that a value is: any text, or a reference. -/
def asField? (v : Value) : Option Field :=
  match v.asWords?, v with
  | some w, _ => some (.name w)
  | none, .node (.field r) => some (.ref r)
  | none, .node (.looseField owner parts) => some (.ofTerms owner.toTerm parts.toTerm)
  | none, _ => none

end Value

theorem Guard.field_of_words {argument : String} {v : Value} {w : Words}
    (words : v.asWords? = some w) :
    Guard.field argument v = (Guard.text argument v).map Field.name := by
  cases v with
  | text s =>
      show (Guard.text argument (.text s)).bind (fun s => .ok (Field.name s)) = _
      cases Guard.text argument (.text s) <;> rfl
  | node n =>
      cases n with
      | code s scope =>
          show (Guard.text argument (.node (.code s scope))).bind (fun s => .ok (Field.name s)) = _
          cases Guard.text argument (.node (.code s scope)) <;> rfl
      | _ => cases words
  | _ => cases words

/-- Constructors take fields, but no empty text. -/
theorem Guard.field_eq_ok {argument : String} {v : Value} {field : Field} :
    Guard.field argument v = .ok field ↔ v.asField? = some field ∧ field.Named := by
  cases words : v.asWords? with
  | some w =>
      rw [field_of_words words, Outcome.map_eq_ok]
      have shown : v.asField? = some (.name w) := by simp only [Value.asField?, words]
      simp only [shown, text_eq_ok, words, Option.some.injEq]
      constructor
      · rintro ⟨_, ⟨rfl, some⟩, rfl⟩
        exact ⟨rfl, some⟩
      · rintro ⟨rfl, some⟩
        exact ⟨w, ⟨rfl, some⟩, rfl⟩
  | none =>
      have taken : ∀ f : Field, f.Named →
          ((.ok f : Checked Field) = .ok field ↔ some f = some field ∧ field.Named) := by
        intro f named
        rw [Except.ok.injEq, Option.some.injEq]
        constructor
        · rintro rfl
          exact ⟨rfl, named⟩
        · exact And.left
      unfold Guard.field Value.asField?
      split
      · rw [words]
        exact taken _ trivial
      · rw [words]
        apply taken
        unfold Field.ofTerms
        split <;> trivial
      · rename_i reference loose
        constructor
        · intro passed
          obtain ⟨given, present, more⟩ := Outcome.bind_eq_ok.mp passed
          obtain ⟨w, found, -⟩ := Outcome.bind_eq_ok.mp more
          rw [notNull_eq_ok present, text_eq_ok, words] at found
          cases found.1
        · rintro ⟨shown, -⟩
          rw [words] at shown
          split at shown
          · rename_i none
            cases none
          · exact absurd rfl (reference _)
          · exact absurd rfl (loose _ _)
          · cases shown

open Demand

section Step

variable {k : Constructor} {given : List Value} {n : Node Value}

theorem allChecked_path {p : Path} (parts : ∀ v ∈ given, AllChecked (v.gather Node.demands))
    (held : Value.ofPath p ∈ given) : AllChecked p.demands := by
  have own := parts _ held
  rwa [Value.gather_ofPath] at own

theorem allChecked_score {s : Option Score}
    (parts : ∀ v ∈ given, AllChecked (v.gather Node.demands)) (held : Value.ofScore s ∈ given) :
    AllChecked (Score.entryDemands s) := by
  have own := parts _ held
  rw [Value.gather_ofScore] at own
  rw [Score.entryDemands_eq]
  exact own

theorem allChecked_clauses {clauses : Option (List (Operator Value))}
    (parts : ∀ v ∈ given, AllChecked (v.gather Node.demands))
    (held : Value.ofClauses clauses ∈ given) : AllChecked (Operator.clauseDemands clauses) := by
  have own := parts _ held
  rw [Value.gather_ofClauses] at own
  rw [Operator.clauseDemands_eq]
  exact own

/-- A constructor checks every demand of the node that it makes, or takes it
over from a part. -/
theorem Constructor.Builds.allChecked (built : k.Builds given n)
    (parts : ∀ v ∈ given, AllChecked (v.gather Node.demands)) : AllChecked n.demands := by
  cases built with
  | singlePath field => simpa [Path.demands, Path.fields] using (Guard.field_eq_ok.mp field).2
  | multiPath some fields =>
      intro demand held
      obtain ⟨f, listed, rfl⟩ := List.mem_map.mp held
      exact Guard.each_all fields (fun _ _ => trivial)
        (fun _ _ _ one => (Guard.field_eq_ok.mp one).2) f listed
  | analyzerPath field => simpa [Path.demands, Path.fields] using (Guard.field_eq_ok.mp field).2
  | wildcardPath => simp [Path.demands, Path.fields]
  | highlight => exact allChecked_path parts (by simp)
  | box bottomLeft topRight =>
      simp only [Node.demands, Area.demands, allChecked_cons]
      exact ⟨Geometry.build_admissible bottomLeft, Geometry.build_admissible topRight,
        allChecked_nil⟩
  | circle center =>
      simp only [Node.demands, Area.demands, allChecked_cons]
      exact ⟨Geometry.build_admissible center, allChecked_nil⟩
  | pathFunction => simpa [ScoreFunction.demands] using allChecked_path parts (by simp)
  | relevance => simp [ScoreFunction.demands]
  | constantFunction => simp [ScoreFunction.demands]
  | combined => simpa [ScoreFunction.demands, ScoreFunction.allDemands_eq] using parts
  | gauss => simpa [ScoreFunction.demands] using allChecked_path parts (by simp)
  | transformed => simpa [ScoreFunction.demands] using parts
  | boost => simp [Score.demands]
  | boostPath => exact allChecked_path parts (by simp)
  | constant => simp [Score.demands]
  | function => simpa [Score.demands] using parts
  | spanTerm => simpa [Span.demands] using allChecked_path parts (by simp)
  | spanFirst => simpa [Span.demands] using parts _ List.mem_cons_self
  | spanNear => simpa [Span.demands, Span.allDemands_eq] using parts _ List.mem_cons_self
  | spanOr => simpa [Span.demands, Span.allDemands_eq] using parts
  | spanSubtract => simpa [Span.demands] using parts
  | stringFacet => exact allChecked_path parts (by simp [Facet.path])
  | numberFacet => exact allChecked_path parts (by simp [Facet.path])
  | dateFacet => exact allChecked_path parts (by simp [Facet.path])
  | text =>
      simp only [Node.demands, Operator.demands, allChecked_append]
      exact ⟨allChecked_path parts (by simp), allChecked_score parts (by simp)⟩
  | phrase =>
      simp only [Node.demands, Operator.demands, allChecked_append]
      exact ⟨allChecked_path parts (by simp), allChecked_score parts (by simp)⟩
  | autocomplete =>
      simp only [Node.demands, Operator.demands, allChecked_append]
      exact ⟨allChecked_path parts (by simp), allChecked_score parts (by simp)⟩
  | pattern =>
      simp only [Node.demands, Operator.demands, allChecked_append]
      exact ⟨allChecked_path parts (by simp), allChecked_score parts (by simp)⟩
  | queryString field =>
      simp only [Node.demands, Operator.demands, allChecked_cons]
      exact ⟨(Guard.field_eq_ok.mp field).2, allChecked_score parts (by simp)⟩
  | equals field =>
      simp only [Node.demands, Operator.demands, allChecked_cons]
      exact ⟨(Guard.field_eq_ok.mp field).2, allChecked_score parts (by simp)⟩
  | existence field => simpa [Operator.demands] using (Guard.field_eq_ok.mp field).2
  | near =>
      simp only [Node.demands, Operator.demands, allChecked_append]
      exact ⟨allChecked_path parts (by simp), allChecked_score parts (by simp)⟩
  | geoWithinGeometry polygon =>
      simp only [Node.demands, Operator.demands, Area.demands, allChecked_append, allChecked_cons]
      exact ⟨⟨allChecked_path parts (by simp), Geometry.build_admissible polygon, allChecked_nil⟩,
        allChecked_score parts (by simp)⟩
  | @geoWithinBox p b s =>
      have boxed : AllChecked (Area.box b).demands := by
        simpa using parts (.node (.box b)) (by simp)
      simp only [Node.demands, Operator.demands, allChecked_append]
      exact ⟨⟨allChecked_path parts (by simp), boxed⟩, allChecked_score parts (by simp)⟩
  | @geoWithinCircle p c s =>
      have circled : AllChecked (Area.circle c).demands := by
        simpa using parts (.node (.circle c)) (by simp)
      simp only [Node.demands, Operator.demands, allChecked_append]
      exact ⟨⟨allChecked_path parts (by simp), circled⟩, allChecked_score parts (by simp)⟩
  | geoShape shape =>
      simp only [Node.demands, Operator.demands, allChecked_append, allChecked_cons]
      exact ⟨⟨allChecked_path parts (by simp), Geometry.build_admissible shape, allChecked_nil⟩,
        allChecked_score parts (by simp)⟩
  | raw => simp [Operator.demands]
  | compound =>
      simp only [Node.demands, Operator.demands, allChecked_append]
      exact ⟨⟨⟨⟨allChecked_clauses parts (by simp), allChecked_clauses parts (by simp)⟩,
        allChecked_clauses parts (by simp)⟩, allChecked_clauses parts (by simp)⟩,
          allChecked_score parts (by simp)⟩
  | span => simpa [Operator.demands] using parts
  | facet => simpa [Operator.demands, Facet.allDemands] using parts
  | range =>
      simp only [Node.demands, Operator.demands, allChecked_append]
      exact ⟨allChecked_path parts (by simp), allChecked_score parts (by simp)⟩
  | rangeStart =>
      simp only [Node.demands, allChecked_append]
      exact ⟨allChecked_path parts (by simp), allChecked_score parts (by simp)⟩
  | _ => exact allChecked_nil

end Step

/-- Whatever constructors preserve, of what nodes hold, is so of every accepted node. -/
theorem Accepted.gathered {α : Type} {f : Node Value → List α} {P : α → Prop}
    (other : ∀ n : Node Value, ¬ n.Part → ∀ a ∈ f n, P a)
    (step : ∀ (k : Constructor) given n, k.Builds given n →
      (∀ v ∈ given, ∀ a ∈ v.gather f, P a) → ∀ a ∈ f n, P a)
    {n : Node Value} (accepted : Accepted n) : ∀ a ∈ f n, P a := by
  induction accepted with
  | other apart => exact other _ apart
  | made k given _ passed ih =>
      apply step k given _ (Constructor.run_builds passed)
      intro v held a gathered
      obtain ⟨m, part, own⟩ := List.mem_flatMap.mp gathered
      exact ih v held m part a own

/-- Every demand of an accepted node is checked. -/
theorem Accepted.allChecked {n : Node Value} (accepted : Accepted n) : AllChecked n.demands := by
  have other : ∀ n : Node Value, ¬ n.Part → AllChecked n.demands := by
    intro n apart
    cases n
    all_goals first | exact allChecked_nil | exact absurd trivial apart
  exact accepted.gathered other (fun _ _ _ built parts => built.allChecked parts)

end SearchQuery
