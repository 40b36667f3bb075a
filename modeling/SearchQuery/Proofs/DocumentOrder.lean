import SearchQuery.Proofs.Demand
import SearchQuery.Proofs.Outcome

/-!
# The order of names in documents

The leaves of a document are the values that stand in it, read from left to
right.  The names of the fields of a definition are leaves of its document, in
the order in which its demands list the fields.
-/

namespace SearchQuery

namespace Value

mutual

/-- The values at the leaves of a document, from left to right. -/
def leaves : Value → List Value
  | .list items => leavesOfAll items
  | .dict entries => leavesOfEntries entries
  | v => [v]

def leavesOfAll : List Value → List Value
  | [] => []
  | v :: rest => leaves v ++ leavesOfAll rest

def leavesOfEntries : List (Value × Value) → List Value
  | [] => []
  | (_, v) :: rest => leaves v ++ leavesOfEntries rest

end

def entryLeaves (entries : List (String × Value)) : List Value :=
  entries.flatMap (fun entry => entry.2.leaves)

@[simp]
theorem leaves_object (entries : List (String × Value)) :
    (object entries).leaves = entryLeaves entries := by
  unfold object leaves
  induction entries with
  | nil => rfl
  | cons entry rest ih =>
      rw [List.map_cons, leavesOfEntries, ih]
      rfl

@[simp]
theorem leaves_list (items : List Value) : (Value.list items).leaves = leavesOfAll items := by
  rw [leaves]

@[simp]
theorem entryLeaves_nil : entryLeaves [] = [] :=
  rfl

@[simp]
theorem entryLeaves_cons (key : String) (v : Value) (rest : List (String × Value)) :
    entryLeaves ((key, v) :: rest) = v.leaves ++ entryLeaves rest :=
  rfl

@[simp]
theorem entryLeaves_append (first second : List (String × Value)) :
    entryLeaves (first ++ second) = entryLeaves first ++ entryLeaves second :=
  List.flatMap_append

/-- Words are a leaf. -/
theorem leaves_ofWords (w : Words) : (ofWords w).leaves = [ofWords w] := by
  rcases w with ⟨text, _ | scope⟩
  · simp only [ofWords, leaves]
  · simp only [ofWords, leaves]

end Value

def Resolver.chosen (resolve : Resolver) (field : Field) : Words :=
  match resolve field with
  | .ok name => name
  | .error _ => ""

/-- The names that a schema gives for the fields among some demands. -/
def Resolver.answers (resolve : Resolver) (demands : List Demand) : List Value :=
  (demands.filterMap Demand.field?).map (fun field => .ofWords (resolve.chosen field))

namespace Resolver

variable (resolve : Resolver)

@[simp]
theorem answers_name (field : Field) (rest : List Demand) :
    resolve.answers (.name field :: rest) =
      .ofWords (resolve.chosen field) :: resolve.answers rest :=
  rfl

@[simp]
theorem answers_geometry (argument : String) (allowed : List String) (g : Geometry Value)
    (rest : List Demand) :
    resolve.answers (.geometry argument allowed g :: rest) = resolve.answers rest :=
  rfl

@[simp]
theorem answers_append (first second : List Demand) :
    resolve.answers (first ++ second) = resolve.answers first ++ resolve.answers second := by
  simp only [answers, List.filterMap_append, List.map_append]

theorem chosen_eq {resolve : Resolver} {field : Field} {name : Words}
    (found : resolve field = .ok name) : resolve.chosen field = name := by
  simp only [chosen, found]

end Resolver

section

variable {resolve : Resolver}

theorem Resolver.answers_shown {field : Field} {name : Words} (found : resolve field = .ok name) :
    (resolve.answers [.name field]).Sublist (Value.ofWords name).leaves := by
  rw [Value.leaves_ofWords, ← Resolver.chosen_eq found]
  exact List.Sublist.refl _

namespace Path

theorem resolveAll_shows {fields : List Field} {names : List Value}
    (written : resolveAll resolve fields = .ok names) :
    Value.leavesOfAll names = resolve.answers (fields.map .name) := by
  induction fields generalizing names with
  | nil =>
      cases written
      rfl
  | cons field rest ih =>
      obtain ⟨name, found, more⟩ := Outcome.bind_eq_ok.mp written
      obtain ⟨others, resolved, made⟩ := Outcome.bind_eq_ok.mp more
      cases made
      rw [List.map_cons, Resolver.answers_name, ← ih resolved, Resolver.chosen_eq found,
        Value.leavesOfAll, Value.leaves_ofWords]
      rfl

/-- The names of the fields of a path stand in its document in order. -/
theorem render_shows {p : Path} {v : Value} (written : p.render resolve = .ok v) :
    (resolve.answers p.demands).Sublist v.leaves := by
  cases p with
  | single field =>
      obtain ⟨name, found, made⟩ := Outcome.bind_eq_ok.mp written
      cases made
      exact Resolver.answers_shown found
  | many fields =>
      obtain ⟨names, found, made⟩ := Outcome.bind_eq_ok.mp written
      cases made
      rw [Value.leaves_list, resolveAll_shows found]
      exact List.Sublist.refl _
  | analyzed field analyzer =>
      obtain ⟨name, found, made⟩ := Outcome.bind_eq_ok.mp written
      cases made
      rw [Value.leaves_object, Value.entryLeaves_cons]
      exact List.sublist_append_of_sublist_left (Resolver.answers_shown found)
  | wildcard pattern => exact List.nil_sublist _

end Path

namespace ScoreFunction

mutual

/-- The names of the fields of an expression stand in its document in order. -/
theorem render_shows {f : ScoreFunction} {v : Value} (written : f.render resolve = .ok v) :
    (resolve.answers f.demands).Sublist v.leaves := by
  cases f with
  | path p undefined =>
      obtain ⟨name, found, made⟩ := Outcome.bind_eq_ok.mp written
      have shown := p.render_shows found
      split at made
      · cases made
        simpa [demands] using shown
      · cases made
        simpa [demands] using shown.trans (List.sublist_append_left _ _)
  | relevance => exact List.nil_sublist _
  | constant value => exact List.nil_sublist _
  | combined way children =>
      obtain ⟨documents, found, made⟩ := Outcome.bind_eq_ok.mp written
      cases made
      simpa [demands] using renderAll_shows found
  | gauss p origin scale decay offset =>
      obtain ⟨name, found, made⟩ := Outcome.bind_eq_ok.mp written
      cases made
      have shown := p.render_shows found
      simpa [demands] using shown.trans (List.sublist_append_left _ _)
  | transformed way child =>
      obtain ⟨document, found, made⟩ := Outcome.bind_eq_ok.mp written
      cases made
      simpa [demands] using render_shows found

/-- The names of the fields of several expressions stand in their documents in order. -/
theorem renderAll_shows {children : List ScoreFunction} {documents : List Value}
    (written : renderAll resolve children = .ok documents) :
    (resolve.answers (allDemands children)).Sublist (Value.leavesOfAll documents) := by
  cases children with
  | nil => exact List.nil_sublist _
  | cons child rest =>
      obtain ⟨document, found, more⟩ := Outcome.bind_eq_ok.mp written
      obtain ⟨others, foundAll, made⟩ := Outcome.bind_eq_ok.mp more
      cases made
      rw [allDemands, Resolver.answers_append, Value.leavesOfAll]
      exact (render_shows found).append (renderAll_shows foundAll)

end

end ScoreFunction

namespace Score

/-- The names of the fields of a score stand in its document in order. -/
theorem render_shows {score : Score} {v : Value} (written : score.render resolve = .ok v) :
    (resolve.answers score.demands).Sublist v.leaves := by
  cases score with
  | boost value => exact List.nil_sublist _
  | boostPath p undefined =>
      obtain ⟨name, found, made⟩ := Outcome.bind_eq_ok.mp written
      cases made
      have shown := p.render_shows found
      simpa [demands] using shown.trans (List.sublist_append_left _ _)
  | constant value => exact List.nil_sublist _
  | function expression =>
      obtain ⟨document, found, made⟩ := Outcome.bind_eq_ok.mp written
      cases made
      simpa [demands] using expression.render_shows found

/-- The names of the fields of a score stand in the score entry in order. -/
theorem entries_show {score : Option Score} {last : List (String × Value)}
    (written : entries resolve score = .ok last) :
    (resolve.answers (entryDemands score)).Sublist (Value.entryLeaves last) := by
  cases score with
  | none => exact List.nil_sublist _
  | some score =>
      obtain ⟨document, found, made⟩ := Outcome.bind_eq_ok.mp written
      cases made
      simpa [entryDemands] using render_shows found

end Score

namespace Span

mutual

/-- The names of the fields of a span stand in its document in order. -/
theorem render_shows {s : Span} {v : Value} (written : s.render resolve = .ok v) :
    (resolve.answers s.demands).Sublist v.leaves := by
  cases s with
  | term query path =>
      obtain ⟨name, found, made⟩ := Outcome.bind_eq_ok.mp written
      cases made
      have shown := path.render_shows found
      simpa [demands] using List.sublist_append_of_sublist_right shown
  | first operator endPosition =>
      obtain ⟨document, found, made⟩ := Outcome.bind_eq_ok.mp written
      cases made
      simpa [demands] using List.sublist_append_of_sublist_left (render_shows found)
  | near clauses slop inOrder =>
      obtain ⟨documents, found, made⟩ := Outcome.bind_eq_ok.mp written
      cases made
      simpa [demands] using List.sublist_append_of_sublist_left (renderAll_shows found)
  | either clauses =>
      obtain ⟨documents, found, made⟩ := Outcome.bind_eq_ok.mp written
      cases made
      simpa [demands] using renderAll_shows found
  | subtract kept removed =>
      obtain ⟨included, found, more⟩ := Outcome.bind_eq_ok.mp written
      obtain ⟨excluded, foundNext, made⟩ := Outcome.bind_eq_ok.mp more
      cases made
      simpa [demands] using (render_shows found).append (render_shows foundNext)

/-- The names of the fields of several spans stand in their documents in order. -/
theorem renderAll_shows {clauses : List Span} {documents : List Value}
    (written : renderAll resolve clauses = .ok documents) :
    (resolve.answers (allDemands clauses)).Sublist (Value.leavesOfAll documents) := by
  cases clauses with
  | nil => exact List.nil_sublist _
  | cons clause rest =>
      obtain ⟨document, found, more⟩ := Outcome.bind_eq_ok.mp written
      obtain ⟨others, foundAll, made⟩ := Outcome.bind_eq_ok.mp more
      cases made
      rw [allDemands, Resolver.answers_append, Value.leavesOfAll]
      exact (render_shows found).append (renderAll_shows foundAll)

end

end Span

namespace Facet

/-- The names of the fields of a facet stand in its document in order. -/
theorem render_shows {facet : Facet} {v : Value} (written : facet.render resolve = .ok v) :
    (resolve.answers facet.path.demands).Sublist v.leaves := by
  cases facet with
  | string name p buckets =>
      obtain ⟨document, found, made⟩ := Outcome.bind_eq_ok.mp written
      cases made
      have shown := p.render_shows found
      simpa [path] using List.sublist_append_of_sublist_right
        (List.sublist_append_of_sublist_left shown)
  | number name p boundaries outside =>
      obtain ⟨document, found, made⟩ := Outcome.bind_eq_ok.mp written
      cases made
      have shown := p.render_shows found
      simpa [path] using List.sublist_append_of_sublist_right
        (List.sublist_append_of_sublist_left shown)
  | date name p boundaries outside =>
      obtain ⟨document, found, made⟩ := Outcome.bind_eq_ok.mp written
      cases made
      have shown := p.render_shows found
      simpa [path] using List.sublist_append_of_sublist_right
        (List.sublist_append_of_sublist_left shown)

/-- The names of the fields of several facets stand in their documents in order. -/
theorem renderAll_shows {facets : List Facet} {documents : List (String × Value)}
    (written : renderAll resolve facets = .ok documents) :
    (resolve.answers (allDemands facets)).Sublist (Value.entryLeaves documents) := by
  induction facets generalizing documents with
  | nil => exact List.nil_sublist _
  | cons facet rest ih =>
      obtain ⟨document, found, more⟩ := Outcome.bind_eq_ok.mp written
      obtain ⟨others, foundAll, made⟩ := Outcome.bind_eq_ok.mp more
      cases made
      rw [allDemands, List.flatMap_cons, Resolver.answers_append, Value.entryLeaves_cons]
      exact (render_shows found).append (ih foundAll)

end Facet

theorem Area.answers_demands (area : Area Value) : resolve.answers area.demands = [] := by
  cases area <;> rfl

namespace Operator

/-- A body shows what its path shows and then what its score shows, whatever
stands before and between them. -/
theorem body_shows (before between : List (String × Value)) {first last : List Demand}
    {name key : String} {document : Value} {after : List (String × Value)}
    (shown : (resolve.answers first).Sublist document.leaves)
    (shownLast : (resolve.answers last).Sublist (Value.entryLeaves after)) :
    (resolve.answers (first ++ last)).Sublist
      (Value.object [(name, .object (before ++ (key, document) :: (between ++ after)))]).leaves := by
  rw [Resolver.answers_append, Value.leaves_object, Value.entryLeaves_cons, Value.leaves_object,
    Value.entryLeaves_append, Value.entryLeaves_cons, Value.entryLeaves_append,
    Value.entryLeaves_nil, List.append_nil]
  exact List.sublist_append_of_sublist_right
    (shown.append (List.sublist_append_of_sublist_right shownLast))

mutual

/-- The names of the fields of an operator stand in its document in order. -/
theorem render_shows {op : Operator Value} {v : Value} (written : op.render resolve = .ok v) :
    (resolve.answers op.demands).Sublist v.leaves := by
  cases op with
  | text query p fuzzy score =>
      obtain ⟨path, found, more⟩ := Outcome.bind_eq_ok.mp written
      obtain ⟨last, foundLast, made⟩ := Outcome.bind_eq_ok.mp more
      cases made
      exact body_shows [_] _ (p.render_shows found) (Score.entries_show foundLast)
  | phrase query p slop score =>
      obtain ⟨path, found, more⟩ := Outcome.bind_eq_ok.mp written
      obtain ⟨last, foundLast, made⟩ := Outcome.bind_eq_ok.mp more
      cases made
      exact body_shows [_] _ (p.render_shows found) (Score.entries_show foundLast)
  | autocomplete query p order fuzzy score =>
      obtain ⟨path, found, more⟩ := Outcome.bind_eq_ok.mp written
      obtain ⟨last, foundLast, made⟩ := Outcome.bind_eq_ok.mp more
      cases made
      exact body_shows [_] (_ ++ _) (p.render_shows found) (Score.entries_show foundLast)
  | pattern form query p analyzed score =>
      obtain ⟨path, found, more⟩ := Outcome.bind_eq_ok.mp written
      obtain ⟨last, foundLast, made⟩ := Outcome.bind_eq_ok.mp more
      cases made
      exact body_shows [_] _ (p.render_shows found) (Score.entries_show foundLast)
  | queryString field query score =>
      obtain ⟨path, found, more⟩ := Outcome.bind_eq_ok.mp written
      obtain ⟨last, foundLast, made⟩ := Outcome.bind_eq_ok.mp more
      cases made
      exact body_shows [] [_] (Resolver.answers_shown found) (Score.entries_show foundLast)
  | equals field value score =>
      obtain ⟨path, found, more⟩ := Outcome.bind_eq_ok.mp written
      obtain ⟨last, foundLast, made⟩ := Outcome.bind_eq_ok.mp more
      cases made
      exact body_shows [] [_] (Resolver.answers_shown found) (Score.entries_show foundLast)
  | existence field =>
      obtain ⟨name, found, made⟩ := Outcome.bind_eq_ok.mp written
      cases made
      simpa [demands] using Resolver.answers_shown found
  | near p origin pivot score =>
      obtain ⟨path, found, more⟩ := Outcome.bind_eq_ok.mp written
      obtain ⟨last, foundLast, made⟩ := Outcome.bind_eq_ok.mp more
      cases made
      exact body_shows [] [_, _] (p.render_shows found) (Score.entries_show foundLast)
  | geoWithin p area score =>
      obtain ⟨path, found, more⟩ := Outcome.bind_eq_ok.mp written
      obtain ⟨entry, foundArea, rest⟩ := Outcome.bind_eq_ok.mp more
      obtain ⟨last, foundLast, made⟩ := Outcome.bind_eq_ok.mp rest
      cases made
      rw [demands, List.append_assoc, Resolver.answers_append, Resolver.answers_append,
        Area.answers_demands, List.nil_append, ← Resolver.answers_append]
      exact body_shows [] [_] (p.render_shows found) (Score.entries_show foundLast)
  | geoShape p g relation score =>
      obtain ⟨path, found, more⟩ := Outcome.bind_eq_ok.mp written
      obtain ⟨document, foundShape, rest⟩ := Outcome.bind_eq_ok.mp more
      obtain ⟨last, foundLast, made⟩ := Outcome.bind_eq_ok.mp rest
      cases made
      rw [demands, List.append_assoc, Resolver.answers_append, List.singleton_append,
        Resolver.answers_geometry, ← Resolver.answers_append]
      exact body_shows [] [_, _] (p.render_shows found) (Score.entries_show foundLast)
  | range form p lower upper score =>
      obtain ⟨path, found, more⟩ := Outcome.bind_eq_ok.mp written
      obtain ⟨last, foundLast, made⟩ := Outcome.bind_eq_ok.mp more
      cases made
      exact body_shows [] (_ ++ _) (p.render_shows found) (Score.entries_show foundLast)
  | compound must mustNot should filter minimum score =>
      obtain ⟨first, foundMust, more⟩ := Outcome.bind_eq_ok.mp written
      obtain ⟨second, foundMustNot, more⟩ := Outcome.bind_eq_ok.mp more
      obtain ⟨third, foundShould, more⟩ := Outcome.bind_eq_ok.mp more
      obtain ⟨fourth, foundFilter, more⟩ := Outcome.bind_eq_ok.mp more
      obtain ⟨last, foundLast, made⟩ := Outcome.bind_eq_ok.mp more
      cases made
      have clauses := (((renderClauses_shows foundMust).append
        (renderClauses_shows foundMustNot)).append (renderClauses_shows foundShould)).append
          (renderClauses_shows foundFilter)
      have shown := clauses.append ((Score.entries_show foundLast).trans
        (List.sublist_append_right
          (Value.entryLeaves (positiveEntry "minimumShouldMatch" minimum)) _))
      simpa [demands] using shown
  | span s =>
      obtain ⟨document, found, made⟩ := Outcome.bind_eq_ok.mp written
      cases made
      simpa [demands] using s.render_shows found
  | facet operator facets =>
      obtain ⟨document, found, more⟩ := Outcome.bind_eq_ok.mp written
      obtain ⟨documents, foundFacets, made⟩ := Outcome.bind_eq_ok.mp more
      cases made
      have shown := (render_shows found).append (Facet.renderAll_shows foundFacets)
      simpa [demands] using shown
  | raw entries => exact List.nil_sublist _

/-- The names of the fields of clauses stand in their entry in order. -/
theorem renderClauses_shows {key : String} {clauses : Option (List (Operator Value))}
    {entries : List (String × Value)} (written : renderClauses resolve key clauses = .ok entries) :
    (resolve.answers (clauseDemands clauses)).Sublist (Value.entryLeaves entries) := by
  cases clauses with
  | none => exact List.nil_sublist _
  | some clauses =>
      obtain ⟨documents, found, made⟩ := Outcome.bind_eq_ok.mp written
      cases made
      simpa [clauseDemands] using renderAll_shows found

/-- The names of the fields of several operators stand in their documents in order. -/
theorem renderAll_shows {clauses : List (Operator Value)} {documents : List Value}
    (written : renderAll resolve clauses = .ok documents) :
    (resolve.answers (allDemands clauses)).Sublist (Value.leavesOfAll documents) := by
  cases clauses with
  | nil => exact List.nil_sublist _
  | cons clause rest =>
      obtain ⟨document, found, more⟩ := Outcome.bind_eq_ok.mp written
      obtain ⟨others, foundAll, made⟩ := Outcome.bind_eq_ok.mp more
      cases made
      rw [allDemands, Resolver.answers_append, Value.leavesOfAll]
      exact (render_shows found).append (renderAll_shows foundAll)

end

end Operator

end

end SearchQuery
