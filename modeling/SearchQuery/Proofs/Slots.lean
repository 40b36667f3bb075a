import Mathlib.Data.List.Forall2
import SearchQuery.Proofs.Demand
import SearchQuery.Proofs.Outcome

/-!
# Bodies by slots

The body of a document has a fixed row of slots, one for each key that it may
have, and an entry for each slot that is filled.  Which slots an operator has
and what fills them is said here once for every operator that has a body; what
is known of documents is known through it.
-/

namespace SearchQuery

/-- A key that a body may have, and its value if it has it. -/
abbrev Slot := String × Option Value

namespace Slot

/-- The entries of the slots that are filled, in order. -/
def present (slots : List Slot) : List (String × Value) :=
  slots.filterMap (fun slot => slot.2.map (fun v => (slot.1, v)))

@[simp] theorem present_nil : present [] = [] := rfl

@[simp] theorem present_some (key : String) (v : Value) (rest : List Slot) :
    present ((key, some v) :: rest) = (key, v) :: present rest := rfl

@[simp] theorem present_none (key : String) (rest : List Slot) :
    present ((key, none) :: rest) = present rest := rfl

theorem present_append (before after : List Slot) :
    present (before ++ after) = present before ++ present after :=
  List.filterMap_append

theorem mem_present {slots : List Slot} {key : String} {v : Value} :
    (key, v) ∈ present slots ↔ (key, some v) ∈ slots := by
  unfold present
  rw [List.mem_filterMap]
  constructor
  · rintro ⟨⟨k, filled⟩, held, made⟩
    obtain ⟨w, rfl, same⟩ := Option.map_eq_some_iff.mp made
    cases same
    exact held
  · intro held
    exact ⟨(key, some v), held, rfl⟩

theorem keys_present_sublist (slots : List Slot) :
    ((present slots).map Prod.fst).Sublist (slots.map Prod.fst) := by
  induction slots with
  | nil => exact .slnil
  | cons slot rest ih =>
      obtain ⟨key, filled⟩ := slot
      cases filled with
      | none => exact ih.cons key
      | some v => exact ih.cons_cons key

/-- An optional entry is a slot that may be empty. -/
theorem optionalEntry_eq {α : Type} (key : String) (wrap : α → Value) (given : Option α) :
    optionalEntry key wrap given = present [(key, given.map wrap)] := by
  cases given <;> rfl

/-- An entry written only when it is positive is a slot filled only then. -/
theorem positiveEntry_eq (key : String) (w : Whole) :
    positiveEntry key w = present [(key, if 0 < w.value then some (.whole w) else none)] := by
  unfold positiveEntry
  split <;> rfl

end Slot

open Slot (present)

/-- The document of fuzzy settings by slots. -/
theorem Fuzzy.render_eq (f : Fuzzy) :
    f.render = .object (present [("maxEdits", f.maxEdits.map .whole),
      ("prefixLength", f.prefixLength.map .whole),
      ("maxExpansions", f.maxExpansions.map .whole)]) := by
  unfold Fuzzy.render
  rw [Slot.optionalEntry_eq, Slot.optionalEntry_eq, Slot.optionalEntry_eq, ← Slot.present_append,
    ← Slot.present_append]
  rfl

/-- The document of an area's geometry, box or circle. -/
def Geometry.document (g : Geometry Value) : Value :=
  .object [("type", .text g.type), ("coordinates", g.coordinates)]

namespace Geometry

theorem render_eq_ok {argument : String} {allowed : List String} {g : Geometry Value} {v : Value}
    (written : g.render argument allowed = .ok v) : v = g.document := by
  unfold render at written
  split at written
  · cases written
  · exact (Except.ok.inj written).symm

end Geometry

def GeoBox.document (b : GeoBox Value) : Value :=
  .object [("bottomLeft", b.bottomLeft.document), ("topRight", b.topRight.document)]

theorem GeoBox.render_eq_ok {b : GeoBox Value} {v : Value} (written : b.render = .ok v) :
    v = b.document := by
  obtain ⟨low, foundLow, more⟩ := Outcome.bind_eq_ok.mp written
  obtain ⟨high, foundHigh, made⟩ := Outcome.bind_eq_ok.mp more
  cases made
  cases Geometry.render_eq_ok foundLow
  cases Geometry.render_eq_ok foundHigh
  rfl

def GeoCircle.document (c : GeoCircle Value) : Value :=
  .object [("center", c.center.document), ("radius", .number c.radius)]

theorem GeoCircle.render_eq_ok {c : GeoCircle Value} {v : Value} (written : c.render = .ok v) :
    v = c.document := by
  obtain ⟨middle, found, made⟩ := Outcome.bind_eq_ok.mp written
  cases made
  cases Geometry.render_eq_ok found
  rfl

/-- The slots of an area: one of them is filled. -/
def Area.slots : Area Value → List Slot
  | .geometry g => [("geometry", some g.document), ("box", none), ("circle", none)]
  | .box b => [("geometry", none), ("box", some b.document), ("circle", none)]
  | .circle c => [("geometry", none), ("box", none), ("circle", some c.document)]

theorem Area.entry_eq_ok {area : Area Value} {entry : String × Value}
    (written : area.entry = .ok entry) : present area.slots = [entry] := by
  cases area with
  | geometry g =>
      obtain ⟨document, found, made⟩ := Outcome.bind_eq_ok.mp written
      cases made
      cases Geometry.render_eq_ok found
      rfl
  | box b =>
      obtain ⟨document, found, made⟩ := Outcome.bind_eq_ok.mp written
      cases made
      cases GeoBox.render_eq_ok found
      rfl
  | circle c =>
      obtain ⟨document, found, made⟩ := Outcome.bind_eq_ok.mp written
      cases made
      cases GeoCircle.render_eq_ok found
      rfl

/-- The slots of a bound: one for when the range leaves it out, one for when the
range takes it in. -/
def Bound.slots (left taken : String) (bound : Option (Bound Value)) : List Slot :=
  [(left, bound.bind (fun b => if b.inclusive.truth then none else some (.ofLimit b.limit))),
    (taken, bound.bind (fun b => if b.inclusive.truth then some (.ofLimit b.limit) else none))]

theorem Bound.lowerEntry_eq (bound : Option (Bound Value)) :
    bound.toList.map Bound.lowerEntry = present (Bound.slots "gt" "gte" bound) := by
  cases bound with
  | none => rfl
  | some b => cases taken : b.inclusive.truth <;> simp [slots, lowerEntry, taken]

theorem Bound.upperEntry_eq (bound : Option (Bound Value)) :
    bound.toList.map Bound.upperEntry = present (Bound.slots "lt" "lte" bound) := by
  cases bound with
  | none => rfl
  | some b => cases taken : b.inclusive.truth <;> simp [slots, upperEntry, taken]

section

variable (resolve : Resolver)

/-- The document of a score that may be absent. -/
def Score.Written : Option Score → Option Value → Prop :=
  Option.Rel (fun score document => score.render resolve = .ok document)

/-- The documents of clauses that may be absent. -/
def Operator.Written : Option (List (Operator Value)) → Option (List Value) → Prop :=
  Option.Rel (List.Forall₂ (fun op document => op.render resolve = .ok document))

/-- What fills the slots of an operator's body.  A span has the body of its
definition, and a hand-written document has none. -/
def Operator.Fills : Operator Value → List Slot → Prop
  | .text query p fuzzy score, slots =>
    ∃ path last, p.render resolve = .ok path ∧ Score.Written resolve score last ∧
      slots = [("query", some query.render), ("path", some path),
        ("fuzzy", fuzzy.map Fuzzy.render), ("score", last)]
  | .phrase query p slop score, slots =>
    ∃ path last, p.render resolve = .ok path ∧ Score.Written resolve score last ∧
      slots = [("query", some query.render), ("path", some path),
        ("slop", if slop.value = 0 then none else some (.whole slop)), ("score", last)]
  | .autocomplete query p order fuzzy score, slots =>
    ∃ path last, p.render resolve = .ok path ∧ Score.Written resolve score last ∧
      slots = [("query", some query.render), ("path", some path),
        ("tokenOrder", if order = .any then none else some (.text order.word)),
        ("fuzzy", fuzzy.map Fuzzy.render), ("score", last)]
  | .pattern _ query p analyzed score, slots =>
    ∃ path last, p.render resolve = .ok path ∧ Score.Written resolve score last ∧
      slots = [("query", some query.render), ("path", some path),
        ("allowAnalyzedField", if analyzed then some (.bool true) else none), ("score", last)]
  | .queryString field query score, slots =>
    ∃ name last, resolve field = .ok name ∧ Score.Written resolve score last ∧
      slots = [("defaultPath", some (.ofWords name)), ("query", some (.ofWords query)),
        ("score", last)]
  | .equals field value score, slots =>
    ∃ name last, resolve field = .ok name ∧ Score.Written resolve score last ∧
      slots = [("path", some (.ofWords name)), ("value", some (.ofExact value)), ("score", last)]
  | .existence field, slots =>
    ∃ name, resolve field = .ok name ∧ slots = [("path", some (.ofWords name))]
  | .near p origin pivot score, slots =>
    ∃ path last, p.render resolve = .ok path ∧ Score.Written resolve score last ∧
      slots = [("path", some path), ("origin", some origin.render),
        ("pivot", some (.number pivot)), ("score", last)]
  | .geoWithin p area score, slots =>
    ∃ path last, p.render resolve = .ok path ∧ Score.Written resolve score last ∧
      slots = ("path", some path) :: area.slots ++ [("score", last)]
  | .geoShape p geometry relation score, slots =>
    ∃ path last, p.render resolve = .ok path ∧ Score.Written resolve score last ∧
      slots = [("path", some path), ("geometry", some geometry.document),
        ("relation", some (.text relation.word)), ("score", last)]
  | .range _ p lower upper score, slots =>
    ∃ path last, p.render resolve = .ok path ∧ Score.Written resolve score last ∧
      slots = ("path", some path) :: Bound.slots "gt" "gte" lower ++
        Bound.slots "lt" "lte" upper ++ [("score", last)]
  | .compound must mustNot should filter minimum score, slots =>
    ∃ first second third fourth last, Operator.Written resolve must first ∧
      Operator.Written resolve mustNot second ∧ Operator.Written resolve should third ∧
      Operator.Written resolve filter fourth ∧ Score.Written resolve score last ∧
      slots = [("must", first.map .list), ("mustNot", second.map .list),
        ("should", third.map .list), ("filter", fourth.map .list),
        ("minimumShouldMatch", if 0 < minimum.value then some (.whole minimum) else none),
        ("score", last)]
  | .facet operator facets, slots =>
    ∃ document documents, operator.render resolve = .ok document ∧
      Facet.renderAll resolve facets = .ok documents ∧
      slots = [("operator", some document), ("facets", some (.object documents))]
  | .span _, _ => False
  | .raw _, _ => False

end

variable {resolve : Resolver}

theorem Score.entries_eq_ok {score : Option Score} {entries : List (String × Value)}
    (written : Score.entries resolve score = .ok entries) :
    ∃ last, Score.Written resolve score last ∧ entries = present [("score", last)] := by
  cases score with
  | none =>
      cases written
      exact ⟨none, .none, rfl⟩
  | some s =>
      obtain ⟨document, found, made⟩ := Outcome.bind_eq_ok.mp written
      cases made
      exact ⟨some document, .some found, rfl⟩

theorem Score.entries_of_written {score : Option Score} {last : Option Value}
    (written : Score.Written resolve score last) :
    Score.entries resolve score = .ok (present [("score", last)]) := by
  cases written with
  | none => rfl
  | some found => exact Outcome.bind_eq_ok.mpr ⟨_, found, rfl⟩

/-- The document of a decay by slots. -/
theorem ScoreFunction.render_gauss {p : Path} {origin scale : Number}
    {decay offset : Option Number} {v : Value}
    (written : (ScoreFunction.gauss p origin scale decay offset).render resolve = .ok v) :
    ∃ name, p.render resolve = .ok name ∧
      v = .object [("gauss", .object (Slot.present [("path", some name),
        ("origin", some (.number origin)), ("scale", some (.number scale)),
        ("decay", decay.map .number), ("offset", offset.map .number)]))] := by
  obtain ⟨name, found, made⟩ := Outcome.bind_eq_ok.mp written
  rw [Slot.optionalEntry_eq, Slot.optionalEntry_eq] at made
  cases made
  refine ⟨name, found, ?_⟩
  cases decay <;> rfl

/-- The document of a boost by a field by slots. -/
theorem Score.render_boostPath {p : Path} {undefined : Number} {v : Value}
    (written : (Score.boostPath p undefined).render resolve = .ok v) :
    ∃ name, p.render resolve = .ok name ∧
      v = .object [("boost", .object (Slot.present [("path", some name),
        ("undefined", if undefined.isZero = true then none else some (.number undefined))]))] := by
  obtain ⟨name, found, made⟩ := Outcome.bind_eq_ok.mp written
  cases made
  refine ⟨name, found, ?_⟩
  cases undefined.isZero <;> rfl

namespace Facet

def word : Facet → String
  | .string .. => "string"
  | .number .. => "number"
  | .date .. => "date"

/-- What else fills the slots of a facet's document. -/
def slots (path : Value) : Facet → List Slot
  | .string _ _ buckets =>
    [("path", some path),
      ("numBuckets", if buckets.value = 10 then none else some (.whole buckets))]
  | .number _ _ boundaries outside =>
    [("path", some path), ("boundaries", some (.list (boundaries.map .number))),
      ("default", outside.map .ofWords)]
  | .date _ _ boundaries outside =>
    [("path", some path), ("boundaries", some (.list (boundaries.map .dateTime))),
      ("default", outside.map .ofWords)]

theorem render_slots {f : Facet} {v : Value}
    (written : f.render resolve = .ok v) : ∃ name, f.path.render resolve = .ok name ∧
      v = .object (Slot.present (("type", some (.text f.word)) :: f.slots name)) := by
  cases f with
  | string title p buckets =>
      obtain ⟨name, found, made⟩ := Outcome.bind_eq_ok.mp written
      cases made
      refine ⟨name, found, ?_⟩
      by_cases ten : buckets.value = 10 <;> simp only [slots, ten] <;> rfl
  | number title p boundaries outside =>
      obtain ⟨name, found, made⟩ := Outcome.bind_eq_ok.mp written
      rw [Slot.optionalEntry_eq] at made
      cases made
      exact ⟨name, found, rfl⟩
  | date title p boundaries outside =>
      obtain ⟨name, found, made⟩ := Outcome.bind_eq_ok.mp written
      rw [Slot.optionalEntry_eq] at made
      cases made
      exact ⟨name, found, rfl⟩

end Facet

theorem Operator.renderAll_eq_ok {clauses : List (Operator Value)} {documents : List Value}
    (written : Operator.renderAll resolve clauses = .ok documents) :
    List.Forall₂ (fun op document => op.render resolve = .ok document) clauses documents := by
  induction clauses generalizing documents with
  | nil =>
      cases written
      exact .nil
  | cons clause rest ih =>
      obtain ⟨document, found, more⟩ := Outcome.bind_eq_ok.mp written
      obtain ⟨others, foundAll, made⟩ := Outcome.bind_eq_ok.mp more
      cases made
      exact .cons found (ih foundAll)

theorem Operator.renderAll_of_forall₂ {clauses : List (Operator Value)} {documents : List Value}
    (written : List.Forall₂ (fun op document => op.render resolve = .ok document)
      clauses documents) : Operator.renderAll resolve clauses = .ok documents := by
  induction written with
  | nil => rfl
  | cons first _ ih => exact Outcome.bind_eq_ok.mpr ⟨_, first, Outcome.bind_eq_ok.mpr ⟨_, ih, rfl⟩⟩

theorem Operator.renderClauses_eq_ok {key : String} {clauses : Option (List (Operator Value))}
    {entries : List (String × Value)}
    (written : Operator.renderClauses resolve key clauses = .ok entries) :
    ∃ documents, Operator.Written resolve clauses documents ∧
      entries = present [(key, documents.map .list)] := by
  cases clauses with
  | none =>
      cases written
      exact ⟨none, .none, rfl⟩
  | some ops =>
      obtain ⟨documents, found, made⟩ := Outcome.bind_eq_ok.mp written
      cases made
      exact ⟨some documents, .some (renderAll_eq_ok found), rfl⟩

theorem Operator.renderClauses_of_written {key : String}
    {clauses : Option (List (Operator Value))} {documents : Option (List Value)}
    (written : Operator.Written resolve clauses documents) :
    Operator.renderClauses resolve key clauses = .ok (present [(key, documents.map .list)]) := by
  cases written with
  | none => rfl
  | some found => exact Outcome.bind_eq_ok.mpr ⟨_, renderAll_of_forall₂ found, rfl⟩

namespace Operator

/-- The document of a span is that of its definition under the name of the operator. -/
theorem render_span {s : Span} {v : Value} (written : (Operator.span s).render resolve = .ok v) :
    ∃ document, s.render resolve = .ok document ∧ v = .object [("span", document)] := by
  obtain ⟨document, found, made⟩ := Outcome.bind_eq_ok.mp written
  cases made
  exact ⟨document, found, rfl⟩

/-- A document that needs one more part and a score is put together of what
both are written as. -/
theorem scored_eq_ok {α : Type} {part : Except (Fault Value) α} {score : Option Score}
    {document : α → List (String × Value) → Value} {v : Value}
    (written : (do
      let a ← part
      let entries ← Score.entries resolve score
      pure (document a entries)) = .ok v) :
    ∃ a last, part = .ok a ∧ Score.Written resolve score last ∧
      v = document a (present [("score", last)]) := by
  obtain ⟨a, found, more⟩ := Outcome.bind_eq_ok.mp written
  obtain ⟨entries, foundScore, made⟩ := Outcome.bind_eq_ok.mp more
  obtain ⟨last, scored, rfl⟩ := Score.entries_eq_ok foundScore
  cases made
  exact ⟨a, last, found, scored, rfl⟩

/-- Every other document that is not hand-written has one entry: the name of the
operator over the entries of its slots. -/
theorem render_fills {op : Operator Value} {v : Value} (written : op.render resolve = .ok v)
    (spanless : ∀ s, op ≠ .span s) (rawless : ∀ entries, op ≠ .raw entries) :
    ∃ slots, op.Fills resolve slots ∧ v = .object [(op.name, .object (present slots))] := by
  cases op with
  | text query p fuzzy score =>
      obtain ⟨path, last, found, score, rfl⟩ := scored_eq_ok written
      refine ⟨_, ⟨path, last, found, score, rfl⟩, ?_⟩
      rw [Slot.optionalEntry_eq]
      cases fuzzy <;> rfl
  | phrase query p slop score =>
      obtain ⟨path, last, found, score, rfl⟩ := scored_eq_ok written
      refine ⟨_, ⟨path, last, found, score, rfl⟩, ?_⟩
      by_cases zero : slop.value = 0 <;> simp only [zero] <;> rfl
  | autocomplete query p order fuzzy score =>
      obtain ⟨path, last, found, score, rfl⟩ := scored_eq_ok written
      refine ⟨_, ⟨path, last, found, score, rfl⟩, ?_⟩
      rw [Slot.optionalEntry_eq]
      cases order <;> cases fuzzy <;> rfl
  | pattern form query p analyzed score =>
      obtain ⟨path, last, found, score, rfl⟩ := scored_eq_ok written
      refine ⟨_, ⟨path, last, found, score, rfl⟩, ?_⟩
      cases analyzed <;> rfl
  | queryString field query score =>
      obtain ⟨name, last, found, score, rfl⟩ := scored_eq_ok written
      exact ⟨_, ⟨name, last, found, score, rfl⟩, rfl⟩
  | equals field value score =>
      obtain ⟨name, last, found, score, rfl⟩ := scored_eq_ok written
      exact ⟨_, ⟨name, last, found, score, rfl⟩, rfl⟩
  | existence field =>
      obtain ⟨name, found, made⟩ := Outcome.bind_eq_ok.mp written
      cases made
      exact ⟨_, ⟨name, found, rfl⟩, rfl⟩
  | near p origin pivot score =>
      obtain ⟨path, last, found, score, rfl⟩ := scored_eq_ok written
      exact ⟨_, ⟨path, last, found, score, rfl⟩, rfl⟩
  | geoWithin p area score =>
      obtain ⟨path, found, more⟩ := Outcome.bind_eq_ok.mp written
      obtain ⟨entry, last, foundArea, score, rfl⟩ := scored_eq_ok more
      refine ⟨_, ⟨path, last, found, score, rfl⟩, ?_⟩
      rw [List.cons_append, Slot.present_some, Slot.present_append, Area.entry_eq_ok foundArea]
      rfl
  | geoShape p g relation score =>
      obtain ⟨path, found, more⟩ := Outcome.bind_eq_ok.mp written
      obtain ⟨document, last, foundShape, score, rfl⟩ := scored_eq_ok more
      cases Geometry.render_eq_ok foundShape
      exact ⟨_, ⟨path, last, found, score, rfl⟩, rfl⟩
  | range form p lower upper score =>
      obtain ⟨path, last, found, score, rfl⟩ := scored_eq_ok written
      refine ⟨_, ⟨path, last, found, score, rfl⟩, ?_⟩
      rw [Bound.lowerEntry_eq, Bound.upperEntry_eq, List.cons_append, List.cons_append,
        Slot.present_some, Slot.present_append, Slot.present_append]
      rfl
  | compound must mustNot should filter minimum score =>
      obtain ⟨first, foundMust, more⟩ := Outcome.bind_eq_ok.mp written
      obtain ⟨second, foundMustNot, more⟩ := Outcome.bind_eq_ok.mp more
      obtain ⟨third, foundShould, more⟩ := Outcome.bind_eq_ok.mp more
      obtain ⟨fourth, foundFilter, more⟩ := Outcome.bind_eq_ok.mp more
      obtain ⟨entries, foundScore, made⟩ := Outcome.bind_eq_ok.mp more
      obtain ⟨ms, must, rfl⟩ := renderClauses_eq_ok foundMust
      obtain ⟨ns, mustNot, rfl⟩ := renderClauses_eq_ok foundMustNot
      obtain ⟨ss, should, rfl⟩ := renderClauses_eq_ok foundShould
      obtain ⟨fs, filter, rfl⟩ := renderClauses_eq_ok foundFilter
      obtain ⟨last, score, rfl⟩ := Score.entries_eq_ok foundScore
      cases made
      refine ⟨_, ⟨ms, ns, ss, fs, last, must, mustNot, should, filter, score, rfl⟩, ?_⟩
      rw [Slot.positiveEntry_eq, ← Slot.present_append, ← Slot.present_append, ← Slot.present_append,
        ← Slot.present_append, ← Slot.present_append]
      rfl
  | facet operator facets =>
      obtain ⟨document, found, more⟩ := Outcome.bind_eq_ok.mp written
      obtain ⟨documents, foundFacets, made⟩ := Outcome.bind_eq_ok.mp more
      cases made
      exact ⟨_, ⟨document, documents, found, foundFacets, rfl⟩, rfl⟩
  | span s => exact absurd rfl (spanless s)
  | raw entries => exact absurd rfl (rawless entries)

end Operator

end SearchQuery
