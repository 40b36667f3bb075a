import Mathlib.Data.List.Chain
import SearchQuery.Build.Operator

/-!
# Admissible parts

What the constructors of parts let through, and that they let it through as it
is given.
-/

namespace SearchQuery

/-!
## Admissible definitions

What the factories promise of every definition that they give out: texts that
must not be empty are not, lists that must have items have them, settings lie
in their ranges, and what has no name of its own does not occur.
-/

/-- A term is faithful when it is read back from the value that it is the plain form of. -/
def Term.Faithful (t : Term) : Prop :=
  (Value.ofTerm t).toTerm = t

namespace Words

/-- Words are faithful when their scope is, if they are code. -/
def Faithful (w : Words) : Prop :=
  ∀ scope ∈ w.scope, scope.Faithful

/-- Words that are faithful and not empty. -/
structure Proper (w : Words) : Prop where
  nonempty : w.text ≠ ""
  faithful : w.Faithful

end Words

/-- A field that is a name has one. -/
def Field.Admissible : Field → Prop
  | .name s => s.Proper
  | .ref _ => True
  | .loose _ _ => True

/-- The texts of a query may be empty. -/
def Query.Admissible : Query → Prop
  | .single text => text.Faithful
  | .many texts => ∀ text ∈ texts, text.Faithful

/-- A path has at least one field or a pattern. -/
def Path.Admissible : Path → Prop
  | .single field => field.Admissible
  | .many fields => fields ≠ [] ∧ ∀ field ∈ fields, field.Admissible
  | .analyzed field analyzer => field.Admissible ∧ analyzer.Proper
  | .wildcard pattern => pattern.Proper

/-- Fuzzy settings lie in their ranges. -/
structure Fuzzy.Admissible (f : Fuzzy) : Prop where
  edits : ∀ w ∈ f.maxEdits, 1 ≤ w.value ∧ w.value ≤ 2
  kept : ∀ w ∈ f.prefixLength, 0 ≤ w.value
  expansions : ∀ w ∈ f.maxExpansions, 0 < w.value

/-- A number is positive unless it compares with nothing. -/
def Number.NotBelow (x : Number) : Prop :=
  x.le (.int 0) = false

namespace ScoreFunction

mutual

/-- A combination has a name and at least two parts, a decay a positive scale
and a rate between zero and one. -/
def Admissible : ScoreFunction → Prop
  | .path p _ => p.Admissible
  | .relevance => True
  | .constant _ => True
  | .combined way children => way ≠ .unnamed ∧ 2 ≤ children.length ∧ AllAdmissible children
  | .gauss p _ scale decay _ =>
    p.Admissible ∧ scale.NotBelow ∧
      ∀ x ∈ decay, Number.lt (.int 0) x = true ∧ x.lt (.int 1) = true
  | .transformed way child => way ≠ .unnamed ∧ Admissible child

/-- All of several expressions are admissible. -/
def AllAdmissible : List ScoreFunction → Prop
  | [] => True
  | child :: rest => Admissible child ∧ AllAdmissible rest

end

theorem allAdmissible_iff {children : List ScoreFunction} :
    AllAdmissible children ↔ ∀ child ∈ children, child.Admissible := by
  induction children with
  | nil => simp [AllAdmissible]
  | cons child rest ih => simp [AllAdmissible, ih]

end ScoreFunction

/-- Boosts and constant scores are positive. -/
def Score.Admissible : Score → Prop
  | .boost value => value.NotBelow
  | .boostPath p _ => p.Admissible
  | .constant value => value.NotBelow
  | .function expression => expression.Admissible

namespace Span

mutual

/-- Lists of clauses are not empty, distances not negative and positions positive. -/
def Admissible : Span → Prop
  | .term query path => query.Admissible ∧ path.Admissible
  | .first operator endPosition => Admissible operator ∧ 1 ≤ endPosition.value
  | .near clauses slop _ => clauses ≠ [] ∧ AllAdmissible clauses ∧ 0 ≤ slop.value
  | .either clauses => clauses ≠ [] ∧ AllAdmissible clauses
  | .subtract kept removed => Admissible kept ∧ Admissible removed

/-- All of several spans are admissible. -/
def AllAdmissible : List Span → Prop
  | [] => True
  | clause :: rest => Admissible clause ∧ AllAdmissible rest

end

theorem allAdmissible_iff {clauses : List Span} :
    AllAdmissible clauses ↔ ∀ clause ∈ clauses, clause.Admissible := by
  induction clauses with
  | nil => simp [AllAdmissible]
  | cons clause rest ih => simp [AllAdmissible, ih]

end Span

/-- A facet has a name, between one and a thousand buckets, or at least two
boundaries, each below the next. -/
def Facet.Admissible : Facet → Prop
  | .string name path buckets =>
    name.Proper ∧ path.Admissible ∧ 1 ≤ buckets.value ∧ buckets.value ≤ 1000
  | .number name path boundaries outside =>
    name.Proper ∧ path.Admissible ∧ 2 ≤ boundaries.length ∧
      boundaries.IsChain (fun low high => high.le low = false) ∧ ∀ w ∈ outside, w.Proper
  | .date name path boundaries outside =>
    name.Proper ∧ path.Admissible ∧ 2 ≤ boundaries.length ∧
      boundaries.IsChain (fun low high => low.comparable high = true ∧ low.before high = true) ∧
        ∀ w ∈ outside, w.Proper

/-- A geometry was made from the value that it keeps. -/
def Geometry.Admissible (argument : String) (allowed : List String) (g : Geometry Value) : Prop :=
  Geometry.build allowed argument g.given = .ok g

/-- The corners of a box are positions. -/
structure GeoBox.Admissible (b : GeoBox Value) : Prop where
  bottomLeft : b.bottomLeft.Admissible "bottom_left" ["Point"]
  topRight : b.topRight.Admissible "top_right" ["Point"]

/-- The center of a circle is a position and its radius positive. -/
structure GeoCircle.Admissible (c : GeoCircle Value) : Prop where
  center : c.center.Admissible "center" ["Point"]
  radius : c.radius.NotBelow

/-- An area is a polygon, a box or a circle. -/
def Area.Admissible : Area Value → Prop
  | .geometry g => g.Admissible "geometry" polygonTypes
  | .box b => b.Admissible
  | .circle c => c.Admissible

/-- A range of some form has the bounds that its form says, taken in or left
out by a truth value, and both of one kind. -/
structure RangeForm.Admits (form : RangeForm) (lower upper : Option (Bound Value)) : Prop where
  bounds : match form with
    | .lowerBounded => lower.isSome ∧ upper = none
    | .upperBounded => lower = none ∧ upper.isSome
    | .complete => lower.isSome ∧ upper.isSome
  lowerFlag : ∀ b ∈ lower, ∃ inclusive, b.inclusive = .bool inclusive
  upperFlag : ∀ b ∈ upper, ∃ inclusive, b.inclusive = .bool inclusive
  agree : Range.agree lower upper = true

namespace Operator

mutual

/-- The parts of an operator are admissible, its settings lie in their ranges,
and its lists of clauses and facets are not empty; nothing is asked of
hand-written documents. -/
@[simp] def Admissible : Operator Value → Prop
  | .text query p fuzzy score =>
    query.Admissible ∧ p.Admissible ∧ (∀ f ∈ fuzzy, f.Admissible) ∧ ∀ s ∈ score, s.Admissible
  | .phrase query p slop score =>
    query.Admissible ∧ p.Admissible ∧ 0 ≤ slop.value ∧ ∀ s ∈ score, s.Admissible
  | .autocomplete query p _ fuzzy score =>
    query.Admissible ∧ p.Admissible ∧ (∀ f ∈ fuzzy, f.Admissible) ∧ ∀ s ∈ score, s.Admissible
  | .pattern form query p _ score =>
    form ≠ .unnamed ∧ query.Admissible ∧ p.Admissible ∧ ∀ s ∈ score, s.Admissible
  | .queryString field query score =>
    field.Admissible ∧ query.Faithful ∧ ∀ s ∈ score, s.Admissible
  | .equals field _ score => field.Admissible ∧ ∀ s ∈ score, s.Admissible
  | .existence field => field.Admissible
  | .near p _ _ score => p.Admissible ∧ ∀ s ∈ score, s.Admissible
  | .geoWithin p area score => p.Admissible ∧ area.Admissible ∧ ∀ s ∈ score, s.Admissible
  | .geoShape p g _ score =>
    p.Admissible ∧ g.Admissible "geometry" shapeTypes ∧ ∀ s ∈ score, s.Admissible
  | .range form p lower upper score =>
    p.Admissible ∧ form.Admits lower upper ∧ ∀ s ∈ score, s.Admissible
  | .compound must mustNot should filter minimum score =>
    ClausesAdmissible must ∧ ClausesAdmissible mustNot ∧ ClausesAdmissible should ∧
      ClausesAdmissible filter ∧ 0 ≤ minimum.value ∧ ∀ s ∈ score, s.Admissible
  | .span s => s.Admissible
  | .facet operator facets =>
    Admissible operator ∧ facets ≠ [] ∧
      (∀ f ∈ facets, f.Admissible ∧ f.name.isCode = false) ∧
        (facets.map (fun f => f.name.text)).Nodup
  | .raw _ => True

/-- Clauses that were given are some, and all of them are admissible. -/
@[simp] def ClausesAdmissible : Option (List (Operator Value)) → Prop
  | none => True
  | some clauses => clauses ≠ [] ∧ AllAdmissible clauses

/-- All of several operators are admissible. -/
@[simp] def AllAdmissible : List (Operator Value) → Prop
  | [] => True
  | clause :: rest => Admissible clause ∧ AllAdmissible rest

end

theorem allAdmissible_iff {clauses : List (Operator Value)} :
    AllAdmissible clauses ↔ ∀ clause ∈ clauses, clause.Admissible := by
  induction clauses with
  | nil => simp [AllAdmissible]
  | cons clause rest ih => simp [AllAdmissible, ih]

end Operator

/-!
## Faithful terms

A scope of code is kept as a term and written as the value that the term is
the plain form of.  Nothing is lost on the way as long as the term is read back
from that value, which every term is that a value a program can make has.
-/

/-- A node that is a part of a definition, or options beside one. -/
def Node.Part : Node Value → Prop
  | .query _ => True
  | .path _ => True
  | .fuzzy _ => True
  | .count _ => True
  | .highlight _ => True
  | .expression _ => True
  | .score _ => True
  | .span _ => True
  | .facet _ => True
  | .point _ => True
  | .box _ => True
  | .circle _ => True
  | .rangeStart .. => True
  | .operator _ => True
  | _ => False

attribute [simp] Value.ofTerm Value.ofTerms Value.ofEntryTerms Value.ofNamedTerms Value.toTerm
  Value.terms Value.entryTerms Value.namedTerms Node.toTerm

namespace Term

/-- A record that is no reference has no value of its own, so it is kept as it is. -/
theorem faithful_record {kind : String} (fields : List (String × Term)) (other : kind ≠ "FieldRef") :
    (record kind fields).Faithful := by
  unfold Faithful
  rw [Value.ofTerm]
  · simp only [Value.toTerm, Node.toTerm]
  all_goals simp [other]

variable {items : List Term} {entries : List (Term × Term)} {named : List (String × Term)}

theorem terms_ofTerms (faithful : ∀ t ∈ items, t.Faithful) :
    Value.terms (Value.ofTerms items) = items := by
  induction items with
  | nil => simp only [Value.ofTerms, Value.terms]
  | cons t rest ih =>
      rw [Value.ofTerms, Value.terms, ih (fun u held => faithful u (List.mem_cons_of_mem t held)),
        faithful t List.mem_cons_self]

theorem entryTerms_ofEntryTerms (keys : ∀ entry ∈ entries, entry.1.Faithful)
    (faithful : ∀ entry ∈ entries, entry.2.Faithful) :
    Value.entryTerms (Value.ofEntryTerms entries) = entries := by
  induction entries with
  | nil => simp only [Value.ofEntryTerms, Value.entryTerms]
  | cons entry rest ih =>
      rw [Value.ofEntryTerms, Value.entryTerms,
        ih (fun e held => keys e (List.mem_cons_of_mem entry held))
          (fun e held => faithful e (List.mem_cons_of_mem entry held)),
        keys entry List.mem_cons_self, faithful entry List.mem_cons_self]

theorem namedTerms_ofNamedTerms (faithful : ∀ entry ∈ named, entry.2.Faithful) :
    Value.namedTerms (Value.ofNamedTerms named) = named := by
  induction named with
  | nil => simp only [Value.ofNamedTerms, Value.namedTerms]
  | cons entry rest ih =>
      rw [Value.ofNamedTerms, Value.namedTerms,
        ih (fun e held => faithful e (List.mem_cons_of_mem entry held)),
        faithful entry List.mem_cons_self]

theorem faithful_list (faithful : ∀ t ∈ items, t.Faithful) : (list items).Faithful := by
  simp only [Faithful, Value.ofTerm, Value.toTerm, terms_ofTerms faithful]

theorem faithful_tuple (faithful : ∀ t ∈ items, t.Faithful) : (tuple items).Faithful := by
  simp only [Faithful, Value.ofTerm, Value.toTerm, terms_ofTerms faithful]

theorem faithful_set (faithful : ∀ t ∈ items, t.Faithful) : (set items).Faithful := by
  simp only [Faithful, Value.ofTerm, Value.toTerm, terms_ofTerms faithful]

theorem faithful_stream (tag : Nat) (faithful : ∀ t ∈ items, t.Faithful) :
    (stream tag items).Faithful := by
  simp only [Faithful, Value.ofTerm, Value.toTerm, terms_ofTerms faithful]

theorem faithful_dict (keys : ∀ entry ∈ entries, entry.1.Faithful)
    (faithful : ∀ entry ∈ entries, entry.2.Faithful) : (dict entries).Faithful := by
  simp only [Faithful, Value.ofTerm, Value.toTerm, entryTerms_ofEntryTerms keys faithful]

theorem faithful_bundle (faithful : ∀ entry ∈ named, entry.2.Faithful) :
    (bundle named).Faithful := by
  simp only [Faithful, Value.ofTerm, Value.toTerm, Node.toTerm, namedTerms_ofNamedTerms faithful]

theorem faithful_shape (tag : Nat) {outline : Term} (faithful : outline.Faithful) :
    (shape tag outline).Faithful := by
  unfold Faithful at faithful ⊢
  simp only [Value.ofTerm, Value.toTerm, faithful]

theorem faithful_code (text : String) {scope : Term} (faithful : scope.Faithful) :
    (code text scope).Faithful := by
  unfold Faithful at faithful ⊢
  simp only [Value.ofTerm, Value.toTerm, Node.toTerm, faithful]

theorem faithful_pointer {collection : Words} {id : Term} {database : Option Words}
    (one : id.Faithful) (keys : ∀ entry ∈ entries, entry.1.Faithful)
    (faithful : ∀ entry ∈ entries, entry.2.Faithful) :
    (pointer collection.toTerm id (.ofOption Words.toTerm database) entries).Faithful := by
  unfold Faithful at one ⊢
  have read : Words.ofTerm? (ofOption Words.toTerm database) = database := by
    cases database with
    | none => rfl
    | some name => exact Words.ofTerm?_toTerm name
  rw [Value.ofTerm, Words.ofTerm?_toTerm]
  simp only [Value.toTerm, Node.toTerm, one, read, entryTerms_ofEntryTerms keys faithful]

/-- Names are read from the terms that they are the texts of. -/
theorem names?_eq_some {names : List String} (read : FieldRef.names? items = some names) :
    items = names.map text := by
  unfold FieldRef.names? at read
  induction items generalizing names with
  | nil =>
      cases read
      rfl
  | cons t rest ih =>
      rw [List.mapM_cons] at read
      obtain ⟨name, first, more⟩ := Option.bind_eq_some_iff.mp read
      obtain ⟨others, later, made⟩ := Option.bind_eq_some_iff.mp more
      cases made
      split at first
      · cases first
        rw [ih later, List.map_cons]
      · cases first

/-- A reference is read back from its model and its chain. -/
theorem faithful_reference {owner parts : Term} (left : owner.Faithful) (right : parts.Faithful) :
    (record "FieldRef" [("model", owner), ("parts", parts)]).Faithful := by
  unfold Faithful at left right ⊢
  rw [Value.ofTerm]
  cases found : FieldRef.ofTerms? owner parts with
  | none => simp only [Value.toTerm, Node.toTerm, left, right]
  | some r =>
      unfold FieldRef.ofTerms? at found
      split at found
      · rename_i m names
        obtain ⟨texts, read, made⟩ := Option.map_eq_some_iff.mp found
        cases made
        rw [names?_eq_some read]
        simp only [Value.toTerm, Node.toTerm, Field.toTerm]
      · cases found

end Term

theorem Query.toTerm_faithful (q : Query) : q.toTerm.Faithful := by
  cases q <;> exact Term.faithful_record _ (by decide)

theorem Path.toTerm_faithful (p : Path) : p.toTerm.Faithful := by
  cases p <;> exact Term.faithful_record _ (by decide)

theorem ScoreFunction.toTerm_faithful (f : ScoreFunction) : f.toTerm.Faithful := by
  cases f with
  | combined way children => cases way <;> exact Term.faithful_record _ (by decide)
  | transformed way child => cases way <;> exact Term.faithful_record _ (by decide)
  | _ => exact Term.faithful_record _ (by decide)

theorem Score.toTerm_faithful (s : Score) : s.toTerm.Faithful := by
  cases s <;> exact Term.faithful_record _ (by decide)

theorem Span.toTerm_faithful (s : Span) : s.toTerm.Faithful := by
  cases s <;> exact Term.faithful_record _ (by decide)

theorem Facet.toTerm_faithful (f : Facet) : f.toTerm.Faithful := by
  cases f <;> exact Term.faithful_record _ (by decide)

theorem Operator.toTerm_faithful (op : Operator Value) : op.toTerm.Faithful := by
  cases op with
  | pattern form query path analyzed score =>
      rw [Operator.toTerm]
      cases form <;> exact Term.faithful_record _ (by decide)
  | range form path lower upper score =>
      rw [Operator.toTerm]
      cases form <;> exact Term.faithful_record _ (by decide)
  | _ =>
      rw [Operator.toTerm]
      exact Term.faithful_record _ (by decide)

/-- The parts of definitions are faithful: none of them is read back as another value. -/
theorem Node.Part.faithful {n : Node Value} (part : n.Part) : n.toTerm.Faithful := by
  cases n with
  | query q => simpa only [Node.toTerm] using q.toTerm_faithful
  | path p => simpa only [Node.toTerm] using p.toTerm_faithful
  | expression f => simpa only [Node.toTerm] using f.toTerm_faithful
  | score s => simpa only [Node.toTerm] using s.toTerm_faithful
  | span s => simpa only [Node.toTerm] using s.toTerm_faithful
  | facet f => simpa only [Node.toTerm] using f.toTerm_faithful
  | operator op => simpa only [Node.toTerm] using op.toTerm_faithful
  | fuzzy f =>
      rw [Node.toTerm]
      exact Term.faithful_record _ (by decide)
  | count c =>
      rw [Node.toTerm]
      exact Term.faithful_record _ (by decide)
  | highlight h =>
      rw [Node.toTerm]
      exact Term.faithful_record _ (by decide)
  | point p =>
      rw [Node.toTerm]
      exact Term.faithful_record _ (by decide)
  | box b =>
      rw [Node.toTerm, GeoBox.toTerm]
      exact Term.faithful_record _ (by decide)
  | circle c =>
      rw [Node.toTerm, GeoCircle.toTerm]
      exact Term.faithful_record _ (by decide)
  | rangeStart p s =>
      rw [Node.toTerm]
      exact Term.faithful_record _ (by decide)
  | _ => exact part.elim

end SearchQuery
