import SearchQuery.Proofs.ReadBack
import SearchQuery.Proofs.Storable

/-!
# The keys of documents

Every key of a document is from a fixed vocabulary or the name of a facet.  No
word of the vocabulary names a type, so no part of a document is taken for
another one when it is read back, as long as no facet is named like a type.
-/

namespace SearchQuery

namespace Value

def isLeaf : Value → Bool
  | .list _ => false
  | .dict _ => false
  | _ => true

/-- The keys of every dictionary in a document are distinct texts that can be read back and name no
type. -/
inductive Keyed : Value → Prop where
  | leaf {v : Value} (atom : v.isLeaf = true) : Keyed v
  | list {items : List Value} (all : ∀ v ∈ items, Keyed v) : Keyed (.list items)
  | object {entries : List (String × Value)} (distinct : (entries.map Prod.fst).Nodup)
      (keys : ∀ entry ∈ entries, PlainKey entry.1) (all : ∀ entry ∈ entries, Keyed entry.2) :
      Keyed (.object entries)

instance (key : String) : Decidable (PlainKey key) :=
  inferInstanceAs (Decidable (_ ∧ _))

/-- The keys that documents have, other than the names of facets. -/
def vocabulary : List String :=
  ["", "$search", "$searchMeta", "add", "allowAnalyzedField", "autocomplete", "boost", "bottomLeft",
    "boundaries", "box", "center", "circle", "clauses", "compound", "constant", "coordinates",
    "decay", "default", "defaultPath", "endPositionLte", "equals", "exclude", "exists", "facet",
    "facets", "filter", "first", "function", "fuzzy", "gauss", "geoShape", "geoWithin", "geometry",
    "gt", "gte", "inOrder", "include", "index", "log", "log1p", "lt", "lte", "maxEdits",
    "maxExpansions", "minimumShouldMatch", "multi", "multiply", "must", "mustNot", "near",
    "numBuckets", "offset", "operator", "or", "origin", "path", "phrase", "pivot", "prefixLength",
    "query", "queryString", "radius", "range", "regex", "relation", "scale", "score", "should",
    "slop", "span", "subtract", "term", "text", "tokenOrder", "topRight", "type", "undefined",
    "value", "wildcard"]

theorem vocabulary_plain : ∀ key ∈ vocabulary, PlainKey key := by
  decide

/-- A document with one entry under a word of the vocabulary. -/
theorem Keyed.single {key : String} {v : Value} (listed : key ∈ vocabulary) (keyed : v.Keyed) :
    (Value.object [(key, v)]).Keyed :=
  .object (List.nodup_singleton key) (by simpa using vocabulary_plain key listed) (by simpa)

/-- A body whose slots are named by distinct words of the vocabulary. -/
theorem Keyed.slots {slots : List Slot} (distinct : (slots.map Prod.fst).Nodup)
    (listed : ∀ slot ∈ slots, slot.1 ∈ vocabulary) (filled : ∀ slot ∈ slots, ∀ v ∈ slot.2, v.Keyed) :
    (Value.object (Slot.present slots)).Keyed := by
  refine .object (distinct.sublist (Slot.keys_present_sublist slots)) ?_ ?_
  · rintro ⟨key, v⟩ held
    exact vocabulary_plain key (listed _ (Slot.mem_present.mp held))
  · rintro ⟨key, v⟩ held
    exact filled _ (Slot.mem_present.mp held) v rfl

/-- A document of plain keys can be read back when its leaves can. -/
theorem Keyed.legible {v : Value} (keyed : v.Keyed) {outer inner : String}
    (leaves : v.Each (fun _ _ leaf => leaf.Legible) outer inner) : v.Legible := by
  induction keyed generalizing outer inner with
  | @leaf v atom => cases v <;> first | exact leaves | cases atom
  | list all ih => exact .list (fun v held => ih v held (each_list.mp leaves v held))
  | object distinct keys all ih =>
      exact .object distinct keys (fun entry held => ih entry held (each_object.mp leaves entry held))

@[simp]
theorem keyed_text (s : String) : (text s).Keyed :=
  .leaf rfl

@[simp]
theorem keyed_number (x : Number) : (number x).Keyed :=
  .leaf rfl

@[simp]
theorem keyed_bool (b : Bool) : (bool b).Keyed :=
  .leaf rfl

@[simp]
theorem keyed_date (t : DateTime) : (dateTime t).Keyed :=
  .leaf rfl

end Value

open Value (Keyed)

variable {resolve : Resolver} {v : Value}

/-! ## Parts -/

@[simp]
theorem keyed_ofWords (w : Words) : (Value.ofWords w).Keyed := by
  rcases w with ⟨text, _ | scope⟩
  · exact .leaf rfl
  · exact .leaf rfl

theorem Query.render_keyed (q : Query) : q.render.Keyed := by
  cases q with
  | single text => exact keyed_ofWords text
  | many texts =>
      refine .list ?_
      rw [List.forall_mem_map]
      exact fun text _ => keyed_ofWords text

theorem Path.resolveAll_keyed {fields : List Field} {names : List Value}
    (written : resolveAll resolve fields = .ok names) : ∀ v ∈ names, v.Keyed := by
  induction fields generalizing names with
  | nil =>
      cases written
      exact nofun
  | cons field rest ih =>
      obtain ⟨name, -, more⟩ := Outcome.bind_eq_ok.mp written
      obtain ⟨others, resolved, made⟩ := Outcome.bind_eq_ok.mp more
      cases made
      exact List.forall_mem_cons.mpr ⟨keyed_ofWords name, ih resolved⟩

theorem Path.render_keyed {p : Path} (written : p.render resolve = .ok v) : v.Keyed := by
  cases p with
  | single field =>
      obtain ⟨name, -, made⟩ := Outcome.bind_eq_ok.mp written
      cases made
      exact keyed_ofWords name
  | many fields =>
      obtain ⟨names, found, made⟩ := Outcome.bind_eq_ok.mp written
      cases made
      exact .list (resolveAll_keyed found)
  | analyzed field analyzer =>
      obtain ⟨name, -, made⟩ := Outcome.bind_eq_ok.mp written
      cases made
      show (Value.object (Slot.present [("value", some (.ofWords name)),
        ("multi", some (.ofWords analyzer))])).Keyed
      exact .slots (by simp) (by simp [Value.vocabulary]) (by simp)
  | wildcard pattern =>
      cases written
      exact .single (by simp [Value.vocabulary]) (keyed_ofWords pattern)

theorem Fuzzy.render_keyed (f : Fuzzy) : f.render.Keyed := by
  rw [render_eq]
  exact .slots (by simp) (by simp [Value.vocabulary]) (by simp)

namespace ScoreFunction

mutual

theorem render_keyed {f : ScoreFunction} {v : Value} (written : f.render resolve = .ok v) :
    v.Keyed := by
  cases f with
  | path p undefined =>
      obtain ⟨name, found, made⟩ := Outcome.bind_eq_ok.mp written
      have keyed := Path.render_keyed found
      split at made
      · cases made
        exact .single (by simp [Value.vocabulary]) keyed
      · cases made
        refine .single (by simp [Value.vocabulary]) ?_
        show (Value.object (Slot.present [("value", some name),
          ("undefined", some (.number undefined))])).Keyed
        exact .slots (by simp) (by simp [Value.vocabulary]) (by simp [keyed])
  | relevance =>
      cases written
      exact .single (by simp [Value.vocabulary]) (.leaf rfl)
  | constant value =>
      cases written
      exact .single (by simp [Value.vocabulary]) (.leaf rfl)
  | combined way children =>
      obtain ⟨documents, found, made⟩ := Outcome.bind_eq_ok.mp written
      cases made
      refine .single ?_ (.list (renderAll_keyed found))
      cases way <;> simp [Combination.word, Value.vocabulary]
  | gauss p origin scale decay offset =>
      obtain ⟨name, found, rfl⟩ := render_gauss written
      refine .single (by simp [Value.vocabulary]) (.slots (by simp) (by simp [Value.vocabulary]) ?_)
      simp [Path.render_keyed found]
  | transformed way child =>
      obtain ⟨document, found, made⟩ := Outcome.bind_eq_ok.mp written
      cases made
      refine .single ?_ (render_keyed found)
      cases way <;> simp [Transform.word, Value.vocabulary]

theorem renderAll_keyed {children : List ScoreFunction} {documents : List Value}
    (written : renderAll resolve children = .ok documents) : ∀ v ∈ documents, v.Keyed := by
  cases children with
  | nil =>
      cases written
      exact nofun
  | cons child rest =>
      obtain ⟨document, found, more⟩ := Outcome.bind_eq_ok.mp written
      obtain ⟨others, foundAll, made⟩ := Outcome.bind_eq_ok.mp more
      cases made
      exact List.forall_mem_cons.mpr ⟨render_keyed found, renderAll_keyed foundAll⟩

end

end ScoreFunction

namespace Score

theorem render_keyed {s : Score} (written : s.render resolve = .ok v) : v.Keyed := by
  cases s with
  | boost value =>
      cases written
      exact .single (by simp [Value.vocabulary]) (.single (by simp [Value.vocabulary]) (.leaf rfl))
  | boostPath p undefined =>
      obtain ⟨name, found, rfl⟩ := render_boostPath written
      refine .single (by simp [Value.vocabulary]) (.slots (by simp) (by simp [Value.vocabulary]) ?_)
      simp [Path.render_keyed found]
  | constant value =>
      cases written
      exact .single (by simp [Value.vocabulary]) (.single (by simp [Value.vocabulary]) (.leaf rfl))
  | function expression =>
      obtain ⟨document, found, made⟩ := Outcome.bind_eq_ok.mp written
      cases made
      exact .single (by simp [Value.vocabulary]) (ScoreFunction.render_keyed found)

theorem written_keyed {score : Option Score} {last : Option Value}
    (written : Score.Written resolve score last) : ∀ v ∈ last, v.Keyed := by
  cases written with
  | none => exact nofun
  | some found =>
      rintro v ⟨⟩
      exact render_keyed found

end Score

namespace Span

mutual

theorem render_keyed {s : Span} {v : Value} (written : s.render resolve = .ok v) : v.Keyed := by
  cases s with
  | term query path =>
      obtain ⟨name, found, made⟩ := Outcome.bind_eq_ok.mp written
      cases made
      refine .single (by simp [Value.vocabulary]) ?_
      show (Value.object (Slot.present [("query", some query.render), ("path", some name)])).Keyed
      refine .slots (by simp) (by simp [Value.vocabulary]) ?_
      simp [query.render_keyed, Path.render_keyed found]
  | first operator endPosition =>
      obtain ⟨document, found, made⟩ := Outcome.bind_eq_ok.mp written
      cases made
      refine .single (by simp [Value.vocabulary]) ?_
      show (Value.object (Slot.present [("operator", some document),
        ("endPositionLte", some (.whole endPosition))])).Keyed
      refine .slots (by simp) (by simp [Value.vocabulary]) ?_
      simp [render_keyed found]
  | near clauses slop inOrder =>
      obtain ⟨documents, found, made⟩ := Outcome.bind_eq_ok.mp written
      cases made
      refine .single (by simp [Value.vocabulary]) ?_
      show (Value.object (Slot.present [("clauses", some (.list documents)),
        ("slop", some (.whole slop)), ("inOrder", some (.bool inOrder))])).Keyed
      refine .slots (by simp) (by simp [Value.vocabulary]) ?_
      simp [Keyed.list (renderAll_keyed found)]
  | either clauses =>
      obtain ⟨documents, found, made⟩ := Outcome.bind_eq_ok.mp written
      cases made
      exact .single (by simp [Value.vocabulary])
        (.single (by simp [Value.vocabulary]) (.list (renderAll_keyed found)))
  | subtract kept removed =>
      obtain ⟨included, found, more⟩ := Outcome.bind_eq_ok.mp written
      obtain ⟨excluded, foundNext, made⟩ := Outcome.bind_eq_ok.mp more
      cases made
      refine .single (by simp [Value.vocabulary]) ?_
      show (Value.object (Slot.present [("include", some included),
        ("exclude", some excluded)])).Keyed
      refine .slots (by simp) (by simp [Value.vocabulary]) ?_
      simp [render_keyed found, render_keyed foundNext]

theorem renderAll_keyed {clauses : List Span} {documents : List Value}
    (written : renderAll resolve clauses = .ok documents) : ∀ v ∈ documents, v.Keyed := by
  cases clauses with
  | nil =>
      cases written
      exact nofun
  | cons clause rest =>
      obtain ⟨document, found, more⟩ := Outcome.bind_eq_ok.mp written
      obtain ⟨others, foundAll, made⟩ := Outcome.bind_eq_ok.mp more
      cases made
      exact List.forall_mem_cons.mpr ⟨render_keyed found, renderAll_keyed foundAll⟩

end

end Span

namespace Facet

theorem render_keyed {f : Facet} (written : f.render resolve = .ok v) : v.Keyed := by
  obtain ⟨name, found, rfl⟩ := render_slots written
  have path := Path.render_keyed found
  cases f with
  | string title p buckets =>
      refine .slots (by simp [slots]) (by simp [slots, Value.vocabulary]) ?_
      simp [slots, path]
  | number title p boundaries outside =>
      have numbers : (Value.list (boundaries.map .number)).Keyed := .list (by simp)
      refine .slots (by simp [slots]) (by simp [slots, Value.vocabulary]) ?_
      simp [slots, path, numbers]
  | date title p boundaries outside =>
      have dates : (Value.list (boundaries.map .dateTime)).Keyed := .list (by simp)
      refine .slots (by simp [slots]) (by simp [slots, Value.vocabulary]) ?_
      simp [slots, path, dates]

/-- Facets are written under their names. -/
theorem renderAll_keyed {facets : List Facet} {documents : List (String × Value)}
    (written : renderAll resolve facets = .ok documents) :
    documents.map Prod.fst = facets.map (fun f => f.name.text) ∧
      ∀ entry ∈ documents, entry.2.Keyed := by
  induction facets generalizing documents with
  | nil =>
      cases written
      exact ⟨rfl, nofun⟩
  | cons facet rest ih =>
      obtain ⟨document, found, more⟩ := Outcome.bind_eq_ok.mp written
      obtain ⟨others, foundAll, made⟩ := Outcome.bind_eq_ok.mp more
      cases made
      obtain ⟨names, keyed⟩ := ih foundAll
      exact ⟨by simp [names], List.forall_mem_cons.mpr ⟨render_keyed found, keyed⟩⟩

end Facet

mutual

/-- Nested coordinates have no keys at all. -/
theorem Value.Nested.keyed {v : Value} (nested : v.Nested) : v.listify.Keyed := by
  cases v with
  | number x =>
      rw [listify]
      exact .leaf rfl
  | list items =>
      simp only [Nested] at nested
      rw [listify]
      exact .list (AllNested.keyed nested)
  | tuple items =>
      simp only [Nested] at nested
      rw [listify]
      exact .list (AllNested.keyed nested)
  | _ => simp only [Nested] at nested

theorem Value.AllNested.keyed {items : List Value} (nested : AllNested items) :
    ∀ v ∈ listifyAll items, v.Keyed := by
  cases items with
  | nil => simp [listifyAll]
  | cons v rest =>
      simp only [AllNested] at nested
      rw [listifyAll, List.forall_mem_cons]
      exact ⟨Value.Nested.keyed nested.1, AllNested.keyed nested.2⟩

end

namespace Geometry

theorem document_keyed {argument : String} {allowed : List String} {g : Geometry Value}
    (mapped : (Demand.geometry argument allowed g).Mapped) : g.document.Keyed := by
  obtain ⟨made, plotted⟩ := mapped
  obtain ⟨entries, w, described, found, same⟩ := build_coordinates made
  have nested := plotted argument entries w described found
  show (Value.object (Slot.present [("type", some (.text g.type)),
    ("coordinates", some g.coordinates)])).Keyed
  refine .slots (by simp) (by simp [Value.vocabulary]) ?_
  simp [same, nested.keyed]

end Geometry

namespace Area

theorem slots_keyed {a : Area Value} (mapped : Demand.AllMapped a.demands) :
    ∀ slot ∈ a.slots, ∀ v ∈ slot.2, v.Keyed := by
  cases a with
  | geometry g =>
      have drawn := Geometry.document_keyed (mapped _ List.mem_cons_self)
      simp [slots, drawn]
  | box b =>
      simp only [demands, Demand.allMapped_cons] at mapped
      have drawn : b.document.Keyed := by
        show (Value.object (Slot.present [("bottomLeft", some b.bottomLeft.document),
          ("topRight", some b.topRight.document)])).Keyed
        refine .slots (by simp) (by simp [Value.vocabulary]) ?_
        simp [Geometry.document_keyed mapped.1, Geometry.document_keyed mapped.2.1]
      simp [slots, drawn]
  | circle c =>
      have drawn : c.document.Keyed := by
        show (Value.object (Slot.present [("center", some c.center.document),
          ("radius", some (.number c.radius))])).Keyed
        refine .slots (by simp) (by simp [Value.vocabulary]) ?_
        simp [Geometry.document_keyed (mapped _ List.mem_cons_self)]
      simp [slots, drawn]

end Area

@[simp]
theorem keyed_origin (o : Origin) : o.render.Keyed := by
  cases o with
  | number x => exact .leaf rfl
  | date t => exact .leaf rfl
  | point p =>
      have place : (Value.list [.number p.longitude, .number p.latitude]).Keyed := .list (by simp)
      show (Value.object (Slot.present [("type", some (.text "Point")),
        ("coordinates", some (.list [.number p.longitude, .number p.latitude]))])).Keyed
      exact .slots (by simp) (by simp [Value.vocabulary]) (by simp [place])

@[simp]
theorem keyed_limit (limit : Limit) : (Value.ofLimit limit).Keyed := by
  cases limit with
  | number x => exact .leaf rfl
  | date t => exact .leaf rfl

@[simp]
theorem keyed_exact (e : Exact) : (Value.ofExact e).Keyed := by
  cases e with
  | flag b => exact .leaf rfl
  | id o => exact .leaf rfl

theorem Bound.slots_keyed (left taken : String) (bound : Option (Bound Value)) :
    ∀ slot ∈ Bound.slots left taken bound, ∀ v ∈ slot.2, v.Keyed := by
  cases bound with
  | none => simp [slots]
  | some b => cases flag : b.inclusive.truth <;> simp [slots, flag]

namespace Operator

mutual

/-- The names of the facets of an operator, at any depth. -/
def facetNames : Operator Value → List String
  | .compound must mustNot should filter _ _ =>
    clauseFacetNames must ++ clauseFacetNames mustNot ++ clauseFacetNames should ++
      clauseFacetNames filter
  | .facet operator facets => facetNames operator ++ facets.map (fun f => f.name.text)
  | _ => []

def clauseFacetNames : Option (List (Operator Value)) → List String
  | none => []
  | some clauses => allFacetNames clauses

def allFacetNames : List (Operator Value) → List String
  | [] => []
  | clause :: rest => facetNames clause ++ allFacetNames rest

end

/-- The name of an operator is a word of the vocabulary. -/
theorem name_listed (op : Operator Value) : op.name ∈ Value.vocabulary := by
  cases op with
  | pattern form => cases form <;> simp [name, PatternForm.word, Value.vocabulary]
  | _ => simp [name, Value.vocabulary]

/-- The body of an operator is keyed as soon as what fills its slots is. -/
theorem body_keyed (op : Operator Value) {slots : List Slot}
    (distinct : (slots.map Prod.fst).Nodup) (listed : ∀ slot ∈ slots, slot.1 ∈ Value.vocabulary)
    (filled : ∀ slot ∈ slots, ∀ v ∈ slot.2, v.Keyed) :
    (Value.object [(op.name, .object (Slot.present slots))]).Keyed :=
  .single op.name_listed (.slots distinct listed filled)

mutual

/-- The keys of the document of an operator are plain when the names of its facets are. -/
theorem render_keyed {op : Operator Value} {v : Value} (admissible : op.Admissible)
    (free : op.rawFree = true) (mapped : Demand.AllMapped op.demands)
    (named : ∀ name ∈ op.facetNames, Value.PlainKey name) (written : op.render resolve = .ok v) :
    v.Keyed := by
  cases op with
  | text query p fuzzy score =>
      obtain ⟨slots, ⟨path, last, found, given, rfl⟩, rfl⟩ :=
        render_fills written (by simp) (by simp)
      refine body_keyed _ (by simp) (by simp [Value.vocabulary]) ?_
      simpa [query.render_keyed, Path.render_keyed found, Fuzzy.render_keyed] using
        Score.written_keyed given
  | phrase query p slop score =>
      obtain ⟨slots, ⟨path, last, found, given, rfl⟩, rfl⟩ :=
        render_fills written (by simp) (by simp)
      refine body_keyed _ (by simp) (by simp [Value.vocabulary]) ?_
      simpa [query.render_keyed, Path.render_keyed found] using Score.written_keyed given
  | autocomplete query p order fuzzy score =>
      obtain ⟨slots, ⟨path, last, found, given, rfl⟩, rfl⟩ :=
        render_fills written (by simp) (by simp)
      refine body_keyed _ (by simp) (by simp [Value.vocabulary]) ?_
      simpa [query.render_keyed, Path.render_keyed found, Fuzzy.render_keyed] using
        Score.written_keyed given
  | pattern form query p analyzed score =>
      obtain ⟨slots, ⟨path, last, found, given, rfl⟩, rfl⟩ :=
        render_fills written (by simp) (by simp)
      refine body_keyed _ (by simp) (by simp [Value.vocabulary]) ?_
      simpa [query.render_keyed, Path.render_keyed found] using Score.written_keyed given
  | queryString field query score =>
      obtain ⟨slots, ⟨name, last, found, given, rfl⟩, rfl⟩ :=
        render_fills written (by simp) (by simp)
      refine body_keyed _ (by simp) (by simp [Value.vocabulary]) ?_
      simpa using Score.written_keyed given
  | equals field value score =>
      obtain ⟨slots, ⟨name, last, found, given, rfl⟩, rfl⟩ :=
        render_fills written (by simp) (by simp)
      refine body_keyed _ (by simp) (by simp [Value.vocabulary]) ?_
      simpa using Score.written_keyed given
  | existence field =>
      obtain ⟨slots, ⟨name, found, rfl⟩, rfl⟩ := render_fills written (by simp) (by simp)
      exact body_keyed _ (by simp) (by simp [Value.vocabulary]) (by simp)
  | near p origin pivot score =>
      obtain ⟨slots, ⟨path, last, found, given, rfl⟩, rfl⟩ :=
        render_fills written (by simp) (by simp)
      refine body_keyed _ (by simp) (by simp [Value.vocabulary]) ?_
      simpa [Path.render_keyed found] using Score.written_keyed given
  | geoWithin p area score =>
      obtain ⟨slots, ⟨path, last, found, given, rfl⟩, rfl⟩ :=
        render_fills written (by simp) (by simp)
      simp only [demands, Demand.allMapped_append] at mapped
      refine body_keyed _ (by cases area <;> simp [Area.slots])
        (by cases area <;> simp [Area.slots, Value.vocabulary]) ?_
      simp only [List.cons_append, List.forall_mem_cons, List.forall_mem_append]
      exact ⟨by simp [Path.render_keyed found], Area.slots_keyed mapped.1.2,
        Score.written_keyed given, by simp⟩
  | geoShape p geometry relation score =>
      obtain ⟨slots, ⟨path, last, found, given, rfl⟩, rfl⟩ :=
        render_fills written (by simp) (by simp)
      simp only [demands, Demand.allMapped_append, Demand.allMapped_cons] at mapped
      refine body_keyed _ (by simp) (by simp [Value.vocabulary]) ?_
      simpa [Path.render_keyed found, Geometry.document_keyed mapped.1.2.1] using
        Score.written_keyed given
  | range form p lower upper score =>
      obtain ⟨slots, ⟨path, last, found, given, rfl⟩, rfl⟩ :=
        render_fills written (by simp) (by simp)
      refine body_keyed _ (by simp [Bound.slots]) (by simp [Bound.slots, Value.vocabulary]) ?_
      simp only [List.cons_append, List.forall_mem_cons, List.forall_mem_append]
      exact ⟨by simp [Path.render_keyed found],
        ⟨Bound.slots_keyed _ _ lower, Bound.slots_keyed _ _ upper⟩, Score.written_keyed given,
        by simp⟩
  | compound must mustNot should filter minimum score =>
      simp only [Admissible] at admissible
      obtain ⟨soundMust, soundMustNot, soundShould, soundFilter, -, -⟩ := admissible
      simp only [rawFree, Bool.and_eq_true] at free
      obtain ⟨⟨⟨freeMust, freeMustNot⟩, freeShould⟩, freeFilter⟩ := free
      simp only [demands, Demand.allMapped_append] at mapped
      obtain ⟨⟨⟨⟨mappedMust, mappedMustNot⟩, mappedShould⟩, mappedFilter⟩, -⟩ := mapped
      simp only [facetNames, List.forall_mem_append] at named
      obtain ⟨⟨⟨namedMust, namedMustNot⟩, namedShould⟩, namedFilter⟩ := named
      obtain ⟨slots, ⟨ms, ns, ss, fs, last, must, mustNot, should, filter, given, rfl⟩, rfl⟩ :=
        render_fills written (by simp) (by simp)
      refine body_keyed _ (by simp) (by simp [Value.vocabulary]) ?_
      simp only [List.forall_mem_cons]
      exact ⟨written_keyed soundMust freeMust mappedMust namedMust must,
        written_keyed soundMustNot freeMustNot mappedMustNot namedMustNot mustNot,
        written_keyed soundShould freeShould mappedShould namedShould should,
        written_keyed soundFilter freeFilter mappedFilter namedFilter filter,
        by simp, Score.written_keyed given, by simp⟩
  | span s =>
      obtain ⟨document, found, rfl⟩ := render_span written
      exact .single (by simp [Value.vocabulary]) (s.render_keyed found)
  | facet operator facets =>
      simp only [Admissible] at admissible
      obtain ⟨sound, -, -, distinct⟩ := admissible
      simp only [rawFree] at free
      simp only [demands, Demand.allMapped_append] at mapped
      simp only [facetNames, List.forall_mem_append] at named
      obtain ⟨slots, ⟨document, documents, found, foundFacets, rfl⟩, rfl⟩ :=
        render_fills written (by simp) (by simp)
      have inner := render_keyed sound free mapped.1 named.1 found
      obtain ⟨names, keyed⟩ := Facet.renderAll_keyed foundFacets
      have counted : (Value.object documents).Keyed := by
        refine .object (names ▸ distinct) ?_ keyed
        intro entry held
        exact named.2 entry.1 (names ▸ List.mem_map_of_mem held)
      exact body_keyed _ (by simp) (by simp [Value.vocabulary]) (by simp [inner, counted])
  | raw entries => cases free

theorem written_keyed {clauses : Option (List (Operator Value))} {documents : Option (List Value)}
    (admissible : ClausesAdmissible clauses) (free : rawFree.clausesRawFree clauses = true)
    (mapped : Demand.AllMapped (clauseDemands clauses))
    (named : ∀ name ∈ clauseFacetNames clauses, Value.PlainKey name)
    (written : Written resolve clauses documents) : ∀ v ∈ documents.map Value.list, v.Keyed := by
  cases clauses with
  | none =>
      cases written
      exact nofun
  | some clauses =>
      cases written with
      | some all =>
          simp only [ClausesAdmissible] at admissible
          simp only [rawFree.clausesRawFree] at free
          simp only [clauseDemands] at mapped
          simp only [clauseFacetNames] at named
          rintro v ⟨⟩
          exact .list (all_keyed admissible.2 free mapped named all)

theorem all_keyed {clauses : List (Operator Value)} {documents : List Value}
    (admissible : AllAdmissible clauses) (free : rawFree.allRawFree clauses = true)
    (mapped : Demand.AllMapped (allDemands clauses))
    (named : ∀ name ∈ allFacetNames clauses, Value.PlainKey name)
    (written : List.Forall₂ (fun op document => op.render resolve = .ok document)
      clauses documents) : ∀ v ∈ documents, v.Keyed := by
  cases clauses with
  | nil =>
      cases written
      exact nofun
  | cons clause rest =>
      cases written with
      | cons first others =>
          simp only [AllAdmissible] at admissible
          simp only [rawFree.allRawFree, Bool.and_eq_true] at free
          simp only [allDemands, Demand.allMapped_append] at mapped
          simp only [allFacetNames, List.forall_mem_append] at named
          exact List.forall_mem_cons.mpr
            ⟨render_keyed admissible.1 free.1 mapped.1 named.1 first,
              all_keyed admissible.2 free.2 mapped.2 named.2 others⟩

end

end Operator

end SearchQuery
