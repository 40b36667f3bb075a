import SearchQuery.Proofs.ScoreRecovery

/-!
# Definitions from their documents

Definitions that are written alike are equal.  One thing is looked at more
closely than equality of documents does, the order of the facets of an
operator, and one less closely: geometries are compared by their documents,
whatever they were read from.
-/

namespace SearchQuery

/-! ## What is compared -/

namespace Value

mutual

/-- The document of an operator with the facets in it as a list of names and
documents, which keeps their order when documents are compared. -/
def listed : Value → Value
  | .dict [(.text name, body)] => .dict [(.text name, listedBody name body)]
  | v => v

def listedBody (name : String) : Value → Value
  | .dict entries =>
    if name = "compound" then .dict (listedClauses entries)
    else if name = "facet" then .dict (listedFacets entries)
    else .dict entries
  | v => v

def listedClauses : List (Value × Value) → List (Value × Value)
  | [] => []
  | (key, v) :: rest => (key, listedItems v) :: listedClauses rest

def listedItems : Value → Value
  | .list items => .list (listedAll items)
  | v => v

def listedAll : List Value → List Value
  | [] => []
  | v :: rest => listed v :: listedAll rest

/-- The entries of an operator with facets: the facets listed, and those of its operator. -/
def listedFacets : List (Value × Value) → List (Value × Value)
  | [] => []
  | (.text "facets", .dict entries) :: rest =>
    (.text "facets", .list (entries.map (fun e => .list [e.1, e.2]))) :: listedFacets rest
  | (key, v) :: rest => (key, listed v) :: listedFacets rest

end

def listing (entries : List (String × Value)) : Value :=
  .list (entries.map (fun e => .list [.text e.1, e.2]))

end Value

namespace Operator

mutual

/-- An operator whose geometries are known by their documents. -/
def settled : Operator Value → Operator Value
  | .geoWithin path area score => .geoWithin path area.settled score
  | .geoShape path g relation score =>
    .geoShape path (g.settled "geometry" shapeTypes) relation score
  | .compound must mustNot should filter minimum score =>
    .compound (settledClauses must) (settledClauses mustNot) (settledClauses should)
      (settledClauses filter) minimum score
  | .facet operator facets => .facet (settled operator) facets
  | op => op

/-- Clauses whose geometries are known by their documents. -/
def settledClauses : Option (List (Operator Value)) → Option (List (Operator Value))
  | none => none
  | some clauses => some (settledAll clauses)

def settledAll : List (Operator Value) → List (Operator Value)
  | [] => []
  | op :: rest => settled op :: settledAll rest

end

end Operator

/-! ## Documents with facets listed -/

namespace Value

theorem listed_object (name : String) (body : Value) :
    (object [(name, body)]).listed = .object [(name, listedBody name body)] := by
  simp only [object, List.map_cons, List.map_nil, listed]

/-- A body is left as it is unless it is that of a compound or has facets. -/
theorem listedBody_object {name : String} {entries : List (String × Value)}
    (plain : name ≠ "compound") (facetless : name ≠ "facet") :
    listedBody name (object entries) = object entries := by
  simp only [object, listedBody, plain, facetless, if_false]

theorem listedClauses_present (slots : List Slot) :
    listedBody "compound" (object (Slot.present slots)) =
      object (Slot.present (slots.map (fun slot => (slot.1, slot.2.map listedItems)))) := by
  simp only [object, listedBody, if_true]
  congr 1
  induction slots with
  | nil => simp [listedClauses]
  | cons slot rest ih =>
      obtain ⟨key, _ | v⟩ := slot
      · simpa using ih
      · simp [listedClauses, ih]

theorem listedAll_eq_map (items : List Value) : listedAll items = items.map listed := by
  induction items with
  | nil => simp [listedAll]
  | cons v rest ih => rw [listedAll, ih, List.map_cons]

theorem listedBody_facet (operator : Value) (facets : List (String × Value)) :
    listedBody "facet" (object [("operator", operator), ("facets", object facets)]) =
      object [("operator", listed operator), ("facets", listing facets)] := by
  simp [object, listedBody, listedFacets, listing]

end Value

/-! ## Operators without operators in them -/

theorem PatternForm.word_ne {form : PatternForm} {s : String} (unlikeWildcard : s ≠ "wildcard")
    (unlikeRegex : s ≠ "regex") (named : s ≠ "") : form.word ≠ s := by
  cases form with
  | wildcard => exact unlikeWildcard.symm
  | regex => exact unlikeRegex.symm
  | unnamed => exact named.symm

theorem PatternForm.ne_word {form : PatternForm} {s : String} (unlikeWildcard : s ≠ "wildcard")
    (unlikeRegex : s ≠ "regex") (named : s ≠ "") : s ≠ form.word :=
  (word_ne unlikeWildcard unlikeRegex named).symm

theorem PatternForm.eq_of_word {form other : PatternForm} (same : form.word = other.word) :
    form = other := by
  cases form <;> cases other <;> simp_all [word]

section

variable {c : Catalog}

theorem Field.alike_of_resolve {field other : Field} {name named : Words} (left : field.Admissible)
    (right : other.Admissible) (found : Schema.untyped.resolver c field = .ok name)
    (foundOther : Schema.untyped.resolver c other = .ok named)
    (same : (Value.ofWords name).Alike (.ofWords named)) : field.toTerm.Alike other.toTerm := by
  cases Schema.untyped_eq_ok found
  cases Schema.untyped_eq_ok foundOther
  exact Words.alike_of_ofWords left.faithful right.faithful same

namespace Operator

/-- An operator is told by its body among the operators of its name. -/
def ToldByBody (c : Catalog) (op : Operator Value) : Prop :=
  ∀ ⦃other : Operator Value⦄ ⦃xs ys : List Slot⦄, op.Admissible → other.Admissible →
    op.Fills (Schema.untyped.resolver c) xs → other.Fills (Schema.untyped.resolver c) ys →
      op.name = other.name → (Value.object (Slot.present xs)).Alike (.object (Slot.present ys)) →
        op.settled.toTerm.Alike other.settled.toTerm

/-! The name tells which operator the other one is, and its slots tell the rest one by one. -/

theorem text_toldByBody {query : Query} {p : Path} {fuzzy : Option Fuzzy} {score : Option Score} :
    (Operator.text query p fuzzy score).ToldByBody c := by
  intro other xs ys left right fills fillsOther names same
  cases other with
  | text question q vague rank =>
      obtain ⟨path, last, found, scored, rfl⟩ := fills
      obtain ⟨name, final, foundOther, scoredOther, rfl⟩ := fillsOther
      have both := Slot.alike_slots _ _ (by rfl) (by simp) same
      simp only [List.forall₂_cons, Option.rel_some_some] at both
      obtain ⟨queries, paths, fuzzies, scores, -⟩ := both
      simp only [Admissible] at left right
      simp only [settled, toTerm]
      have alikeQuery := Query.alike_of_render left.1 right.1 queries
      have alikePath := Path.alike_of_render left.2.1 right.2.1 found foundOther paths
      have alikeFuzzy := Value.alike_ofOption (fun _ _ _ _ => Fuzzy.alike_of_render) fuzzies
      have alikeScore := Score.alike_of_written left.2.2.2 right.2.2.2 scored scoredOther scores
      exact Term.alike_record _
        (.cons ⟨rfl, alikeQuery⟩ (.cons ⟨rfl, alikePath⟩ (.cons ⟨rfl, alikeFuzzy⟩
          (.cons ⟨rfl, alikeScore⟩ .nil))))
  | _ => simp [name, PatternForm.ne_word] at names

theorem phrase_toldByBody {query : Query} {p : Path} {slop : Whole} {score : Option Score} :
    (Operator.phrase query p slop score).ToldByBody c := by
  intro other xs ys left right fills fillsOther names same
  cases other with
  | phrase question q distance rank =>
      obtain ⟨path, last, found, scored, rfl⟩ := fills
      obtain ⟨name, final, foundOther, scoredOther, rfl⟩ := fillsOther
      have both := Slot.alike_slots _ _ (by rfl) (by simp) same
      simp only [List.forall₂_cons, Option.rel_some_some] at both
      obtain ⟨queries, paths, slops, scores, -⟩ := both
      simp only [Admissible] at left right
      simp only [settled, toTerm]
      have alikeQuery := Query.alike_of_render left.1 right.1 queries
      have alikePath := Path.alike_of_render left.2.1 right.2.1 found foundOther paths
      have alikeSlop := Whole.alike_of_default slops
      have alikeScore := Score.alike_of_written left.2.2.2 right.2.2.2 scored scoredOther scores
      exact Term.alike_record _
        (.cons ⟨rfl, alikeQuery⟩ (.cons ⟨rfl, alikePath⟩ (.cons ⟨rfl, alikeSlop⟩
          (.cons ⟨rfl, alikeScore⟩ .nil))))
  | _ => simp [name, PatternForm.ne_word] at names

theorem autocomplete_toldByBody {query : Query} {p : Path} {order : TokenOrder}
    {fuzzy : Option Fuzzy} {score : Option Score} :
    (Operator.autocomplete query p order fuzzy score).ToldByBody c := by
  intro other xs ys left right fills fillsOther names same
  cases other with
  | autocomplete question q sequence vague rank =>
      obtain ⟨path, last, found, scored, rfl⟩ := fills
      obtain ⟨name, final, foundOther, scoredOther, rfl⟩ := fillsOther
      have both := Slot.alike_slots _ _ (by rfl) (by simp) same
      simp only [List.forall₂_cons, Option.rel_some_some] at both
      obtain ⟨queries, paths, orders, fuzzies, scores, -⟩ := both
      obtain rfl := TokenOrder.eq_of_written orders
      simp only [Admissible] at left right
      simp only [settled, toTerm]
      have alikeQuery := Query.alike_of_render left.1 right.1 queries
      have alikePath := Path.alike_of_render left.2.1 right.2.1 found foundOther paths
      have alikeFuzzy := Value.alike_ofOption (fun _ _ _ _ => Fuzzy.alike_of_render) fuzzies
      have alikeScore := Score.alike_of_written left.2.2.2 right.2.2.2 scored scoredOther scores
      exact Term.alike_record _
        (.cons ⟨rfl, alikeQuery⟩ (.cons ⟨rfl, alikePath⟩ (.cons ⟨rfl, Term.alike_choice _⟩
          (.cons ⟨rfl, alikeFuzzy⟩ (.cons ⟨rfl, alikeScore⟩ .nil)))))
  | _ => simp [name, PatternForm.ne_word] at names

theorem pattern_toldByBody {form : PatternForm} {query : Query} {p : Path} {analyzed : Bool}
    {score : Option Score} :
    (Operator.pattern form query p analyzed score).ToldByBody c := by
  intro other xs ys left right fills fillsOther names same
  cases other with
  | pattern shape question q kept rank =>
      obtain ⟨path, last, found, scored, rfl⟩ := fills
      obtain ⟨name, final, foundOther, scoredOther, rfl⟩ := fillsOther
      have both := Slot.alike_slots _ _ (by rfl) (by simp) same
      simp only [List.forall₂_cons, Option.rel_some_some] at both
      obtain ⟨queries, paths, flags, scores, -⟩ := both
      obtain rfl := PatternForm.eq_of_word names
      obtain rfl := Value.eq_of_flag flags
      simp only [Admissible] at left right
      simp only [settled, toTerm]
      have alikeQuery := Query.alike_of_render left.2.1 right.2.1 queries
      have alikePath := Path.alike_of_render left.2.2.1 right.2.2.1 found foundOther paths
      have alikeScore := Score.alike_of_written left.2.2.2 right.2.2.2 scored scoredOther scores
      exact Term.alike_record _
        (.cons ⟨rfl, alikeQuery⟩ (.cons ⟨rfl, alikePath⟩ (.cons ⟨rfl, Term.alike_bool _⟩
          (.cons ⟨rfl, alikeScore⟩ .nil))))
  | raw entries => cases fillsOther
  | _ => simp [name, PatternForm.word_ne] at names

theorem queryString_toldByBody {field : Field} {query : Words} {score : Option Score} :
    (Operator.queryString field query score).ToldByBody c := by
  intro other xs ys left right fills fillsOther names same
  cases other with
  | queryString named question rank =>
      obtain ⟨path, last, found, scored, rfl⟩ := fills
      obtain ⟨name, final, foundOther, scoredOther, rfl⟩ := fillsOther
      have both := Slot.alike_slots _ _ (by rfl) (by simp) same
      simp only [List.forall₂_cons, Option.rel_some_some] at both
      obtain ⟨paths, queries, scores, -⟩ := both
      simp only [Admissible] at left right
      simp only [settled, toTerm]
      have alikePath := Field.alike_of_resolve left.1 right.1 found foundOther paths
      have alikeQuery := Words.alike_of_ofWords left.2.1 right.2.1 queries
      have alikeScore := Score.alike_of_written left.2.2 right.2.2 scored scoredOther scores
      exact Term.alike_record _
        (.cons ⟨rfl, alikePath⟩ (.cons ⟨rfl, alikeQuery⟩ (.cons ⟨rfl, alikeScore⟩ .nil)))
  | _ => simp [name, PatternForm.ne_word] at names

theorem equals_toldByBody {field : Field} {value : Exact} {score : Option Score} :
    (Operator.equals field value score).ToldByBody c := by
  intro other xs ys left right fills fillsOther names same
  cases other with
  | equals named exact rank =>
      obtain ⟨path, last, found, scored, rfl⟩ := fills
      obtain ⟨name, final, foundOther, scoredOther, rfl⟩ := fillsOther
      have both := Slot.alike_slots _ _ (by rfl) (by simp) same
      simp only [List.forall₂_cons, Option.rel_some_some] at both
      obtain ⟨paths, values, scores, -⟩ := both
      simp only [Admissible] at left right
      simp only [settled, toTerm]
      have alikePath := Field.alike_of_resolve left.1 right.1 found foundOther paths
      have alikeValue := Exact.alike_of_render values
      have alikeScore := Score.alike_of_written left.2 right.2 scored scoredOther scores
      exact Term.alike_record _
        (.cons ⟨rfl, alikePath⟩ (.cons ⟨rfl, alikeValue⟩ (.cons ⟨rfl, alikeScore⟩ .nil)))
  | _ => simp [name, PatternForm.ne_word] at names

theorem existence_toldByBody {field : Field} :
    (Operator.existence field).ToldByBody c := by
  intro other xs ys left right fills fillsOther names same
  cases other with
  | existence named =>
      obtain ⟨path, found, rfl⟩ := fills
      obtain ⟨name, foundOther, rfl⟩ := fillsOther
      have both := Slot.alike_slots _ _ (by rfl) (by simp) same
      simp only [List.forall₂_cons, Option.rel_some_some] at both
      obtain ⟨paths, -⟩ := both
      simp only [Admissible] at left right
      simp only [settled, toTerm]
      have alikePath := Field.alike_of_resolve left right found foundOther paths
      exact Term.alike_record _ (.cons ⟨rfl, alikePath⟩ .nil)
  | _ => simp [name, PatternForm.ne_word] at names

theorem near_toldByBody {p : Path} {origin : Origin} {pivot : Number} {score : Option Score} :
    (Operator.near p origin pivot score).ToldByBody c := by
  intro other xs ys left right fills fillsOther names same
  cases other with
  | near q start middle rank =>
      obtain ⟨path, last, found, scored, rfl⟩ := fills
      obtain ⟨name, final, foundOther, scoredOther, rfl⟩ := fillsOther
      have both := Slot.alike_slots _ _ (by rfl) (by simp) same
      simp only [List.forall₂_cons, Option.rel_some_some] at both
      obtain ⟨paths, origins, pivots, scores, -⟩ := both
      simp only [Admissible] at left right
      simp only [settled, toTerm]
      have alikePath := Path.alike_of_render left.1 right.1 found foundOther paths
      have alikeOrigin := Origin.alike_of_render origins
      have alikePivot := Value.alike_number.mp pivots
      have alikeScore := Score.alike_of_written left.2 right.2 scored scoredOther scores
      exact Term.alike_record _
        (.cons ⟨rfl, alikePath⟩ (.cons ⟨rfl, alikeOrigin⟩ (.cons ⟨rfl, alikePivot⟩
          (.cons ⟨rfl, alikeScore⟩ .nil))))
  | _ => simp [name, PatternForm.ne_word] at names

theorem geoWithin_toldByBody {p : Path} {area : Area Value} {score : Option Score} :
    (Operator.geoWithin p area score).ToldByBody c := by
  intro other xs ys left right fills fillsOther names same
  cases other with
  | geoWithin q region rank =>
      obtain ⟨path, last, found, scored, rfl⟩ := fills
      obtain ⟨name, final, foundOther, scoredOther, rfl⟩ := fillsOther
      simp only [Admissible] at left right
      obtain ⟨soundPath, soundArea, soundScore⟩ := left
      obtain ⟨soundOther, soundRegion, soundRank⟩ := right
      obtain ⟨geometry, box, circle, fillsArea⟩ := area.slots_eq
      obtain ⟨geometry', box', circle', fillsRegion⟩ := region.slots_eq
      rw [fillsArea, fillsRegion] at same
      have both := Slot.alike_slots _ _ (by rfl) (by simp) same
      simp only [List.cons_append, List.nil_append, List.forall₂_cons,
        Option.rel_some_some] at both
      obtain ⟨paths, geometries, boxes, circles, scores, -⟩ := both
      obtain ⟨alikeGeometry, alikeBox, alikeCircle⟩ :=
        Area.alike_of_slots soundArea soundRegion (by
          rw [fillsArea, fillsRegion]
          exact .cons geometries (.cons boxes (.cons circles .nil)))
      simp only [settled, toTerm]
      have alikePath := Path.alike_of_render soundPath soundOther found foundOther paths
      have alikeScore := Score.alike_of_written soundScore soundRank scored scoredOther scores
      exact Term.alike_record _
        (.cons ⟨rfl, alikePath⟩ (.cons ⟨rfl, alikeGeometry⟩ (.cons ⟨rfl, alikeBox⟩
          (.cons ⟨rfl, alikeCircle⟩ (.cons ⟨rfl, alikeScore⟩ .nil)))))
  | _ => simp [name, PatternForm.ne_word] at names

theorem geoShape_toldByBody {p : Path} {geometry : Geometry Value} {relation : ShapeRelation}
    {score : Option Score} :
    (Operator.geoShape p geometry relation score).ToldByBody c := by
  intro other xs ys left right fills fillsOther names same
  cases other with
  | geoShape q outline lying rank =>
      obtain ⟨path, last, found, scored, rfl⟩ := fills
      obtain ⟨name, final, foundOther, scoredOther, rfl⟩ := fillsOther
      have both := Slot.alike_slots _ _ (by rfl) (by simp) same
      simp only [List.forall₂_cons, Option.rel_some_some] at both
      obtain ⟨paths, geometries, relations, scores, -⟩ := both
      obtain rfl := ShapeRelation.eq_of_word (Value.alike_text.mp relations)
      simp only [Admissible] at left right
      simp only [settled, toTerm]
      have alikePath := Path.alike_of_render left.1 right.1 found foundOther paths
      have alikeGeometry := Geometry.alike_of_document left.2.1 right.2.1 geometries
      have alikeScore := Score.alike_of_written left.2.2 right.2.2 scored scoredOther scores
      exact Term.alike_record _
        (.cons ⟨rfl, alikePath⟩ (.cons ⟨rfl, alikeGeometry⟩
          (.cons ⟨rfl, Term.alike_choice _⟩ (.cons ⟨rfl, alikeScore⟩ .nil))))
  | _ => simp [name, PatternForm.ne_word] at names

theorem range_toldByBody {form : RangeForm} {p : Path} {lower upper : Option (Bound Value)}
    {score : Option Score} :
    (Operator.range form p lower upper score).ToldByBody c := by
  intro other xs ys left right fills fillsOther names same
  cases other with
  | range shape q least most rank =>
      obtain ⟨path, last, found, scored, rfl⟩ := fills
      obtain ⟨name, final, foundOther, scoredOther, rfl⟩ := fillsOther
      simp only [Admissible] at left right
      obtain ⟨soundPath, admits, soundScore⟩ := left
      obtain ⟨soundOther, admitsOther, soundRank⟩ := right
      have both := Slot.alike_slots _ _ (by rfl) (by simp [Bound.slots]) same
      simp only [Bound.slots, List.cons_append, List.nil_append, List.forall₂_cons,
        Option.rel_some_some] at both
      obtain ⟨paths, leftOut, takenIn, leftOver, takenUp, scores, -⟩ := both
      obtain ⟨lowers, someLower⟩ := Bound.alike_of_slots "gt" "gte" admits.lowerFlag
        admitsOther.lowerFlag (.cons leftOut (.cons takenIn .nil))
      obtain ⟨uppers, someUpper⟩ := Bound.alike_of_slots "lt" "lte" admits.upperFlag
        admitsOther.upperFlag (.cons leftOver (.cons takenUp .nil))
      obtain rfl := admits.form_eq admitsOther someLower someUpper
      simp only [settled, toTerm]
      have alikePath := Path.alike_of_render soundPath soundOther found foundOther paths
      have alikeScore := Score.alike_of_written soundScore soundRank scored scoredOther scores
      exact Term.alike_record _
        (.cons ⟨rfl, alikePath⟩ (.cons ⟨rfl, lowers⟩ (.cons ⟨rfl, uppers⟩
          (.cons ⟨rfl, alikeScore⟩ .nil))))
  | _ => simp [name, PatternForm.ne_word] at names

/-- Operators without operators in them are told by their names and their bodies. -/
theorem alike_of_fills {op other : Operator Value} {xs ys : List Slot} (left : op.Admissible)
    (right : other.Admissible) (fills : op.Fills (Schema.untyped.resolver c) xs)
    (fillsOther : other.Fills (Schema.untyped.resolver c) ys) (names : op.name = other.name)
    (plain : op.name ≠ "compound") (facetless : op.name ≠ "facet")
    (same : (Value.object (Slot.present xs)).Alike (.object (Slot.present ys))) :
    op.settled.toTerm.Alike other.settled.toTerm := by
  cases op with
  | text => exact text_toldByBody left right fills fillsOther names same
  | phrase => exact phrase_toldByBody left right fills fillsOther names same
  | autocomplete => exact autocomplete_toldByBody left right fills fillsOther names same
  | pattern => exact pattern_toldByBody left right fills fillsOther names same
  | queryString => exact queryString_toldByBody left right fills fillsOther names same
  | equals => exact equals_toldByBody left right fills fillsOther names same
  | existence => exact existence_toldByBody left right fills fillsOther names same
  | near => exact near_toldByBody left right fills fillsOther names same
  | geoWithin => exact geoWithin_toldByBody left right fills fillsOther names same
  | geoShape => exact geoShape_toldByBody left right fills fillsOther names same
  | range => exact range_toldByBody left right fills fillsOther names same
  | compound must mustNot should filter minimum score => exact absurd rfl plain
  | facet operator facets => exact absurd rfl facetless
  | span s => cases fills
  | raw entries => cases fills

theorem render_named {resolve : Resolver} {op : Operator Value} {v : Value}
    (free : op.rawFree = true) (written : op.render resolve = .ok v) :
    ∃ body, v = .object [(op.name, body)] := by
  cases op with
  | span s =>
      obtain ⟨document, -, rfl⟩ := render_span written
      exact ⟨document, rfl⟩
  | raw entries => cases free
  | _ =>
      obtain ⟨slots, -, rfl⟩ := render_fills written (by simp) (by simp)
      exact ⟨_, rfl⟩

/-- Operators whose documents are alike have one name. -/
theorem name_eq_of_render {resolve : Resolver} {op other : Operator Value} {v w : Value}
    (free : op.rawFree = true) (freeOther : other.rawFree = true)
    (written : op.render resolve = .ok v) (writtenOther : other.render resolve = .ok w)
    (same : v.listed.Alike w.listed) : op.name = other.name := by
  obtain ⟨body, rfl⟩ := render_named free written
  obtain ⟨bodyOther, rfl⟩ := render_named freeOther writtenOther
  rw [Value.listed_object, Value.listed_object] at same
  exact (Value.alike_single.mp same).1

theorem alike_of_plain {op other : Operator Value} {v w : Value} (left : op.Admissible)
    (right : other.Admissible) (free : op.rawFree = true) (freeOther : other.rawFree = true)
    (written : op.render (Schema.untyped.resolver c) = .ok v)
    (writtenOther : other.render (Schema.untyped.resolver c) = .ok w) (plain : op.name ≠ "compound")
    (facetless : op.name ≠ "facet") (spanless : op.name ≠ "span")
    (same : v.listed.Alike w.listed) : op.settled.toTerm.Alike other.settled.toTerm := by
  have names := name_eq_of_render free freeOther written writtenOther same
  have spanlessOther : other.name ≠ "span" := names ▸ spanless
  obtain ⟨xs, fills, rfl⟩ := render_fills written
    (by rintro s rfl; exact spanless rfl) (by rintro entries rfl; cases free)
  obtain ⟨ys, fillsOther, rfl⟩ := render_fills writtenOther
    (by rintro s rfl; exact spanlessOther rfl) (by rintro entries rfl; cases freeOther)
  rw [Value.listed_object, Value.listed_object, ← names, Value.listedBody_object plain facetless,
    Value.listedBody_object plain facetless] at same
  have bodies := (Value.alike_single.mp same).2
  exact alike_of_fills left right fills fillsOther names plain facetless bodies

end Operator

/-! ## Operators with operators in them -/

theorem Words.toTerm_of_plain {w : Words} (plain : w.isCode = false) : w.toTerm = .text w.text := by
  obtain ⟨s, _ | scope⟩ := w
  · rfl
  · cases plain

theorem Facet.alike_of_entry {f g : Facet} {e d : String × Value}
    (left : f.Admissible ∧ f.name.isCode = false) (right : g.Admissible ∧ g.name.isCode = false)
    (written : f.name.text = e.1 ∧ f.render (Schema.untyped.resolver c) = .ok e.2)
    (writtenOther : g.name.text = d.1 ∧ g.render (Schema.untyped.resolver c) = .ok d.2)
    (same : (Value.list [.text e.1, e.2]).Alike (.list [.text d.1, d.2])) :
    f.toTerm.Alike g.toTerm := by
  simp only [Value.alike_list, List.forall₂_cons, Value.alike_text] at same
  obtain ⟨texts, documents, -⟩ := same
  have named : f.name.toTerm.Alike g.name.toTerm := by
    rw [Words.toTerm_of_plain left.2, Words.toTerm_of_plain right.2, written.1, writtenOther.1,
      texts]
    exact Term.alike_text.mpr rfl
  exact alike_of_render left.1 right.1 named written.2 writtenOther.2 documents

/-- The facets of an operator are told by the list of their names and documents. -/
theorem Facet.all_alike {facets others : List Facet} {entries listed : List (String × Value)}
    (left : ∀ f ∈ facets, f.Admissible ∧ f.name.isCode = false)
    (right : ∀ f ∈ others, f.Admissible ∧ f.name.isCode = false)
    (written : renderAll (Schema.untyped.resolver c) facets = .ok entries)
    (writtenOther : renderAll (Schema.untyped.resolver c) others = .ok listed)
    (same : (Value.listing entries).Alike (.listing listed)) :
    (Term.tuple (facets.map toTerm)).Alike (.tuple (others.map toTerm)) := by
  have both := renderAll_eq_ok written
  have bothOther := renderAll_eq_ok writtenOther
  clear written writtenOther
  unfold Value.listing at same
  rw [Value.alike_list, List.forall₂_map_left_iff, List.forall₂_map_right_iff] at same
  rw [Term.alike_tuple, List.forall₂_map_left_iff, List.forall₂_map_right_iff]
  induction both generalizing others listed with
  | nil =>
      cases same
      cases bothOther
      exact .nil
  | cons first _ ih =>
      cases same with
      | cons alike likewise =>
          cases bothOther with
          | cons second later =>
              rw [List.forall_mem_cons] at left right
              exact .cons (alike_of_entry left.1 right.1 first second alike)
                (ih left.2 right.2 likewise later)

/-- What is written of a score has no clauses to list. -/
theorem Score.listedItems_written {resolve : Resolver} {score : Option Score} {last : Option Value}
    (written : Written resolve score last) : last.map Value.listedItems = last := by
  cases written with
  | none => rfl
  | some found =>
      obtain ⟨inner, rfl⟩ := render_word found
      rfl

theorem Value.listedItems_whole (p : Prop) [Decidable p] (w : Whole) :
    (if p then some (Value.whole w) else none).map listedItems =
      if p then some (.whole w) else none := by
  split <;> rfl

namespace Operator

mutual

/-- Operators are told by their documents. -/
theorem alike_of_render {op other : Operator Value} {v w : Value} (left : op.Admissible)
    (right : other.Admissible) (free : op.rawFree = true) (freeOther : other.rawFree = true)
    (written : op.render (Schema.untyped.resolver c) = .ok v)
    (writtenOther : other.render (Schema.untyped.resolver c) = .ok w)
    (same : v.listed.Alike w.listed) : op.settled.toTerm.Alike other.settled.toTerm := by
  have names := name_eq_of_render free freeOther written writtenOther same
  cases op with
  | compound must mustNot should filter minimum score =>
      cases other with
      | compound wanted unwanted optional kept least rank =>
          simp only [Admissible] at left right
          obtain ⟨soundMust, soundMustNot, soundShould, soundFilter, natural, soundScore⟩ := left
          obtain ⟨soundWanted, soundUnwanted, soundOptional, soundKept, naturalOther, soundRank⟩ := right
          simp only [rawFree, Bool.and_eq_true] at free freeOther
          obtain ⟨⟨⟨freeMust, freeMustNot⟩, freeShould⟩, freeFilter⟩ := free
          obtain ⟨⟨⟨freeWanted, freeUnwanted⟩, freeOptional⟩, freeKept⟩ := freeOther
          obtain ⟨xs, ⟨ms, ns, ss, fs, last, must, mustNot, should, filter, scored, rfl⟩, rfl⟩ :=
            render_fills written (by simp) (by simp)
          obtain ⟨ys, ⟨ws, us, os, ks, final, wanted, unwanted, optional, kept, ranked, rfl⟩, rfl⟩ :=
            render_fills writtenOther (by simp) (by simp)
          rw [Value.listed_object, Value.listed_object] at same
          have bodies := (Value.alike_single.mp same).2
          simp only [name, Value.listedClauses_present] at bodies
          have both := Slot.alike_slots _ _ (by rfl) (by simp) bodies
          simp only [List.map_cons, List.map_nil, List.forall₂_cons, Value.listedItems_whole,
            Score.listedItems_written scored, Score.listedItems_written ranked] at both
          obtain ⟨musts, mustNots, shoulds, filters, minima, scores, -⟩ := both
          simp only [settled, toTerm]
          have alikeMust := written_alike soundMust soundWanted freeMust freeWanted must wanted
            musts
          have alikeMustNot := written_alike soundMustNot soundUnwanted freeMustNot freeUnwanted
            mustNot unwanted mustNots
          have alikeShould := written_alike soundShould soundOptional freeShould freeOptional
            should optional shoulds
          have alikeFilter := written_alike soundFilter soundKept freeFilter freeKept filter kept
            filters
          have alikeMinimum := Whole.alike_of_positive natural naturalOther minima
          have alikeScore := Score.alike_of_written soundScore soundRank scored ranked scores
          exact Term.alike_record _
            (.cons ⟨rfl, alikeMust⟩ (.cons ⟨rfl, alikeMustNot⟩ (.cons ⟨rfl, alikeShould⟩
              (.cons ⟨rfl, alikeFilter⟩ (.cons ⟨rfl, alikeMinimum⟩ (.cons ⟨rfl, alikeScore⟩ .nil))))))
      | _ => simp [name, PatternForm.ne_word] at names
  | facet operator facets =>
      cases other with
      | facet search counts =>
          simp only [Admissible] at left right
          obtain ⟨sound, -, soundFacets, -⟩ := left
          obtain ⟨soundOther, -, soundOthers, -⟩ := right
          simp only [rawFree] at free freeOther
          obtain ⟨xs, ⟨document, entries, found, foundFacets, rfl⟩, rfl⟩ :=
            render_fills written (by simp) (by simp)
          obtain ⟨ys, ⟨inner, others, foundOther, foundOthers, rfl⟩, rfl⟩ :=
            render_fills writtenOther (by simp) (by simp)
          rw [Value.listed_object, Value.listed_object] at same
          have bodies := (Value.alike_single.mp same).2
          simp only [name, Slot.present_some, Slot.present_nil, Value.listedBody_facet] at bodies
          have both := Slot.alike_slots
            [("operator", some document.listed), ("facets", some (.listing entries))]
            [("operator", some inner.listed), ("facets", some (.listing others))]
            rfl (by simp) bodies
          simp only [List.forall₂_cons, Option.rel_some_some] at both
          simp only [settled, toTerm]
          exact Term.alike_record _
            (.cons ⟨rfl, alike_of_render sound soundOther free freeOther found foundOther both.1⟩
              (.cons ⟨rfl, Facet.all_alike soundFacets soundOthers foundFacets foundOthers both.2.1⟩
                .nil))
      | _ => simp [name, PatternForm.ne_word] at names
  | span s =>
      cases other with
      | span t =>
          simp only [Admissible] at left right
          obtain ⟨document, found, rfl⟩ := render_span written
          obtain ⟨documentOther, foundOther, rfl⟩ := render_span writtenOther
          obtain ⟨inner, rfl⟩ := Span.render_word found
          obtain ⟨innerOther, rfl⟩ := Span.render_word foundOther
          rw [Value.listed_object, Value.listed_object,
            Value.listedBody_object (by simp) (by simp),
            Value.listedBody_object (by simp) (by simp)] at same
          have alike := Span.alike_of_render left right found foundOther
            (Value.alike_single.mp same).2
          simp only [settled, toTerm]
          exact Term.alike_record _ (.cons ⟨rfl, alike⟩ .nil)
      | _ => simp [name, PatternForm.ne_word] at names
  | raw entries => cases free
  | _ =>
      exact alike_of_plain left right free freeOther written writtenOther
        (by simp [name, PatternForm.word_ne]) (by simp [name, PatternForm.word_ne])
        (by simp [name, PatternForm.word_ne]) same

theorem written_alike {clauses others : Option (List (Operator Value))}
    {documents listed : Option (List Value)} (left : ClausesAdmissible clauses)
    (right : ClausesAdmissible others) (free : rawFree.clausesRawFree clauses = true)
    (freeOther : rawFree.clausesRawFree others = true)
    (written : Written (Schema.untyped.resolver c) clauses documents)
    (writtenOther : Written (Schema.untyped.resolver c) others listed)
    (same : Option.Rel Value.Alike ((documents.map .list).map Value.listedItems)
      ((listed.map .list).map Value.listedItems)) :
    (optionTerm (settledClauses clauses)).Alike (optionTerm (settledClauses others)) := by
  cases clauses with
  | none =>
      cases written
      cases others with
      | none => exact Term.alike_null
      | some ops =>
          cases writtenOther
          cases same
  | some ops =>
      cases written with
      | some both =>
          cases others with
          | none =>
              cases writtenOther
              cases same
          | some more =>
              cases writtenOther with
              | some bothOther =>
                  simp only [ClausesAdmissible] at left right
                  simp only [rawFree.clausesRawFree] at free freeOther
                  simp only [Option.map_some, Option.rel_some_some, Value.listedItems,
                    Value.listedAll_eq_map, Value.alike_list, List.forall₂_map_left_iff,
                    List.forall₂_map_right_iff] at same
                  simp only [settledClauses, optionTerm]
                  exact Term.alike_tuple.mpr
                    (all_alike left.2 right.2 free freeOther both bothOther same)

theorem all_alike {ops others : List (Operator Value)} {vs ws : List Value}
    (left : AllAdmissible ops) (right : AllAdmissible others)
    (free : rawFree.allRawFree ops = true) (freeOther : rawFree.allRawFree others = true)
    (written : List.Forall₂ (fun op v => op.render (Schema.untyped.resolver c) = .ok v) ops vs)
    (writtenOther :
      List.Forall₂ (fun op v => op.render (Schema.untyped.resolver c) = .ok v) others ws)
    (same : List.Forall₂ (fun v w => v.listed.Alike w.listed) vs ws) :
    List.Forall₂ Term.Alike (terms (settledAll ops)) (terms (settledAll others)) := by
  cases ops with
  | nil =>
      cases written
      cases same
      cases writtenOther
      simp only [settledAll, terms]
      exact .nil
  | cons op rest =>
      cases written with
      | cons first later =>
          cases same with
          | cons alike likewise =>
              cases writtenOther with
              | cons second after =>
                  simp only [AllAdmissible] at left right
                  simp only [rawFree.allRawFree, Bool.and_eq_true] at free freeOther
                  simp only [settledAll, terms]
                  exact .cons
                    (alike_of_render left.1 right.1 free.1 freeOther.1 first second alike)
                    (all_alike left.2 right.2 free.2 freeOther.2 later after likewise)

end

end Operator

theorem Operator.toTerm_record (op : Operator Value) :
    ∃ kind fields, op.toTerm = .record kind fields := by
  cases op <;> exact ⟨_, _, rfl⟩

/-- Definitions that a program makes without hand-written parts are told by their documents:
two of them that are written alike, facets in order, are equal, as long as
geometries count as equal when their documents do. -/
theorem Made.equal_of_documents {op other : Operator Value} (made : Made (.ofOperator op))
    (madeOther : Made (.ofOperator other)) (free : op.rawFree = true)
    (freeOther : other.rawFree = true) {v w : Value}
    (written : op.render (Schema.untyped.resolver c) = .ok v)
    (writtenOther : other.render (Schema.untyped.resolver c) = .ok w)
    (same : v.listed.equal w.listed = true) :
    (Value.ofOperator op.settled).equal (.ofOperator other.settled) = true := by
  have alike := Operator.alike_of_render made.admissible madeOther.admissible free freeOther written
    writtenOther (Term.alike_of_equal same)
  obtain ⟨kind, fields, known⟩ := op.settled.toTerm_record
  refine Term.equal_of_alike alike ?_
  change op.settled.toTerm.sameOccurrence other.settled.toTerm = false
  rw [known]
  rfl

end

def around (g : Geometry Value) : Operator Value :=
  .geoShape (.single (.name "place")) g .contains none

theorem around_made {g : Geometry Value} (given : Made g.given)
    (admissible : g.Admissible "geometry" shapeTypes) : Made (.ofOperator (around g)) := by
  have path : Made (.text "place") := .plain trivial
  have relation : Made (.node (.choice (.relation .contains))) := .plain trivial
  have null : Made .null := .plain trivial
  refine .built .geoShape [.text "place", g.given, .node (.choice (.relation .contains)), .null]
    (by simpa using ⟨path, given, relation, null⟩) ?_
  unfold Geometry.Admissible at admissible
  simp only [Factory.run, Factory.four, Operator.makeGeoShape, Operator.ofGeoShape, admissible]
  rfl

def positioned : Geometry Value :=
  ⟨.node (.point ⟨.int 2, .int 48⟩), "Point", .list [.number (.int 2), .number (.int 48)]⟩

theorem positioned_admissible : positioned.Admissible "geometry" shapeTypes := by
  simp [positioned, Geometry.Admissible, Geometry.build, Geometry.description, GeoPoint.render,
    Value.object, Value.lookup, Value.find?, Value.hashable, Value.toTerm, Term.hashable,
    shapeTypes, Value.listify, Value.listifyAll, Bind.bind, Except.bind, pure, Except.pure]

/-- The same position described by its coordinates and its type. -/
def described : Geometry Value :=
  ⟨.object [("coordinates", .tuple [.number (.whole (.long 2)), .number (.int 48)]),
      ("type", .text "Point")],
    "Point", .list [.number (.whole (.long 2)), .number (.int 48)]⟩

theorem described_admissible : described.Admissible "geometry" shapeTypes := by
  simp [described, Geometry.Admissible, Geometry.build, Geometry.description, Value.object,
    Value.lookup, Value.find?, Value.hashable, Value.toTerm, Term.hashable, shapeTypes,
    Value.listify, Value.listifyAll, Bind.bind, Except.bind, pure, Except.pure]

/-- What a position is given as does not tell two definitions apart. -/
theorem around_positioned_described : ∃ v w,
    (around positioned).render (Schema.untyped.resolver Catalog.empty) = .ok v ∧
      (around described).render (Schema.untyped.resolver Catalog.empty) = .ok w ∧
        v.listed.equal w.listed = true ∧
          (Value.ofOperator (around positioned).settled).equal
            (.ofOperator (around described).settled) = true := by
  obtain ⟨v, written⟩ : ∃ v,
      (around positioned).render (Schema.untyped.resolver Catalog.empty) = .ok v := ⟨_, rfl⟩
  obtain ⟨w, writtenOther⟩ : ∃ w,
      (around described).render (Schema.untyped.resolver Catalog.empty) = .ok w := ⟨_, rfl⟩
  have number : ∀ x, Made (.number x) := fun x => .plain trivial
  have position : Made positioned.given :=
    .built .point [.number (.int 2), .number (.int 48)] (by simp [number]) rfl
  have description : Made described.given := by
    have coordinates : Made (.tuple [.number (.whole (.long 2)), .number (.int 48)]) :=
      .tuple (by simp [number])
    have text : ∀ s, Made (.text s) := fun s => .plain trivial
    exact .dict (by simp [text]) (by simp [text, coordinates])
  have same : v.listed.equal w.listed = true := by
    cases written
    cases writtenOther
    decide +kernel
  exact ⟨v, w, written, writtenOther, same,
    (around_made position positioned_admissible).equal_of_documents
      (around_made description described_admissible) rfl rfl written writtenOther same⟩

end SearchQuery
