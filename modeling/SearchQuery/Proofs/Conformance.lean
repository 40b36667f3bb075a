import SearchQuery.Proofs.Grammar

/-!
# Documents conform to the grammar

Whatever a schema resolves fields to, the document of an admissible definition
is one of the grammar.  The definitions that programs make are admissible, so
no document that is written from them is outside of it.
-/

namespace SearchQuery

variable {resolve : Resolver}

theorem Query.render_isQuery (q : Query) : q.render.IsQuery := by
  cases q with
  | single text => exact .text text
  | many texts =>
      refine .texts ?_
      intro v held
      obtain ⟨w, -, rfl⟩ := List.mem_map.mp held
      exact ⟨w, rfl⟩

namespace Path

/-- Resolved fields are as many as the fields, and all of them are names. -/
theorem resolveAll_eq_ok {fields : List Field} {names : List Value}
    (found : resolveAll resolve fields = .ok names) :
    List.Forall₂ (fun field v => ∃ name, resolve field = .ok name ∧ v = .ofWords name)
      fields names := by
  induction fields generalizing names with
  | nil =>
      cases found
      exact .nil
  | cons field rest ih =>
      obtain ⟨name, first, more⟩ := Outcome.bind_eq_ok.mp found
      obtain ⟨others, later, made⟩ := Outcome.bind_eq_ok.mp more
      cases made
      exact .cons ⟨name, first, rfl⟩ (ih later)

theorem render_isPath {p : Path} {v : Value} (admissible : p.Admissible)
    (written : p.render resolve = .ok v) : v.IsPath := by
  cases p with
  | single field =>
      obtain ⟨name, -, made⟩ := Outcome.bind_eq_ok.mp written
      cases made
      exact .name name
  | many fields =>
      obtain ⟨names, found, made⟩ := Outcome.bind_eq_ok.mp written
      cases made
      have both := resolveAll_eq_ok found
      refine .names ?_ ?_
      · rintro rfl
        exact admissible.1 (List.forall₂_nil_right_iff.mp both)
      · clear found admissible written
        induction both with
        | nil => simp
        | cons first _ ih =>
            obtain ⟨name, -, rfl⟩ := first
            exact List.forall_mem_cons.mpr ⟨⟨name, rfl⟩, ih⟩
  | analyzed field analyzer =>
      obtain ⟨name, -, made⟩ := Outcome.bind_eq_ok.mp written
      cases made
      exact .analyzed name analyzer
  | wildcard pattern =>
      cases written
      exact .wildcard pattern

end Path

/-- An option that is mapped is related to what it is mapped to. -/
theorem Slot.rel_map {α β : Type} {R : α → β → Prop} {f : α → β} {given : Option α}
    (held : ∀ a ∈ given, R a (f a)) : Option.Rel R given (given.map f) := by
  cases given with
  | none => exact .none
  | some a => exact .some (held a rfl)

theorem Fuzzy.render_conforms {f : Fuzzy} (admissible : f.Admissible) : f.Conforms f.render := by
  rw [render_eq]
  refine ⟨_, rfl, .of_slots (by simp) (.cons ?_ (.cons ?_ (.cons ?_ .nil)))⟩
  · exact Rule.given_fits (Slot.rel_map (fun w held => ⟨w, rfl, admissible.edits w held⟩))
  · exact Rule.given_fits (Slot.rel_map (fun w held => ⟨w, rfl, admissible.kept w held⟩))
  · exact Rule.given_fits (Slot.rel_map (fun w held => ⟨w, rfl, admissible.expansions w held⟩))

namespace ScoreFunction

mutual

theorem render_conforms {f : ScoreFunction} {v : Value} (admissible : f.Admissible)
    (written : f.render resolve = .ok v) : f.Conforms v := by
  cases f with
  | path p undefined =>
      simp only [Admissible] at admissible
      obtain ⟨name, found, made⟩ := Outcome.bind_eq_ok.mp written
      have shape := Path.render_isPath admissible found
      simp only [Conforms]
      cases zero : undefined.isZero with
      | true =>
          simp only [zero] at made
          cases made
          exact ⟨name, rfl, fun _ => shape, fun other => absurd other (by simp)⟩
      | false =>
          simp only [zero] at made
          cases made
          refine ⟨_, rfl, fun other => absurd other (by simp), fun _ => ⟨_, rfl, ?_⟩⟩
          show Body _ (Slot.present [("value", some name), ("undefined", some (.number undefined))])
          exact .of_slots (by simp) (.cons (Rule.always_fits shape)
            (.cons (Rule.always_fits ⟨undefined, rfl, zero⟩) .nil))
  | relevance =>
      cases written
      simp only [Conforms]
  | constant value =>
      cases written
      simp only [Conforms]
      exact ⟨value, rfl⟩
  | combined way children =>
      simp only [Admissible] at admissible
      obtain ⟨named, enough, all⟩ := admissible
      obtain ⟨items, found, made⟩ := Outcome.bind_eq_ok.mp written
      cases made
      obtain ⟨conform, length⟩ := renderAll_conform all found
      simp only [Conforms]
      refine ⟨items, rfl, ?_, by omega, conform⟩
      cases way <;> simp [Combination.word] at named ⊢
  | gauss p origin scale decay offset =>
      simp only [Admissible] at admissible
      obtain ⟨soundPath, positive, rate⟩ := admissible
      obtain ⟨name, found, rfl⟩ := render_gauss written
      simp only [Conforms]
      refine .of_slots (by simp) (.cons ?_ (.cons ?_ (.cons ?_ (.cons ?_ (.cons ?_ .nil)))))
      · exact Rule.always_fits (Path.render_isPath soundPath found)
      · exact Rule.always_fits ⟨origin, rfl, trivial⟩
      · exact Rule.always_fits ⟨scale, rfl, positive⟩
      · exact Rule.given_fits (Slot.rel_map (fun x held => ⟨x, rfl, rate x held⟩))
      · exact Rule.given_fits (Slot.rel_map (fun x _ => ⟨x, rfl, trivial⟩))
  | transformed way child =>
      simp only [Admissible] at admissible
      obtain ⟨inner, found, made⟩ := Outcome.bind_eq_ok.mp written
      cases made
      simp only [Conforms]
      refine ⟨inner, rfl, ?_, render_conforms admissible.2 found⟩
      have named := admissible.1
      cases way <;> simp [Transform.word] at named ⊢

theorem renderAll_conform {children : List ScoreFunction} {items : List Value}
    (admissible : AllAdmissible children) (written : renderAll resolve children = .ok items) :
    AllConform children items ∧ items.length = children.length := by
  cases children with
  | nil =>
      cases written
      simp [AllConform]
  | cons child rest =>
      simp only [AllAdmissible] at admissible
      obtain ⟨first, found, more⟩ := Outcome.bind_eq_ok.mp written
      obtain ⟨others, foundAll, made⟩ := Outcome.bind_eq_ok.mp more
      cases made
      obtain ⟨conform, length⟩ := renderAll_conform admissible.2 foundAll
      simp only [AllConform]
      exact ⟨⟨first, others, rfl, render_conforms admissible.1 found, conform⟩, by simp [length]⟩

end

end ScoreFunction

namespace Score

theorem render_conforms {s : Score} {v : Value} (admissible : s.Admissible)
    (written : s.render resolve = .ok v) : s.Conforms v := by
  cases s with
  | boost value =>
      cases written
      show Labelled _ _
        (.object [("boost", .object (Slot.present [("value", some (.number value))]))])
      exact .of_slots (by simp) (.cons (Rule.always_fits ⟨value, rfl, admissible⟩) .nil)
  | boostPath p undefined =>
      obtain ⟨name, found, rfl⟩ := render_boostPath written
      refine .of_slots (by simp) (.cons ?_ (.cons ?_ .nil))
      · exact Rule.always_fits (Path.render_isPath admissible found)
      · exact Rule.unless_fits (fun other => ⟨undefined, rfl, by simpa using other⟩)
  | constant value =>
      cases written
      show Labelled _ _
        (.object [("constant", .object (Slot.present [("value", some (.number value))]))])
      exact .of_slots (by simp) (.cons (Rule.always_fits ⟨value, rfl, admissible⟩) .nil)
  | function expression =>
      obtain ⟨inner, found, made⟩ := Outcome.bind_eq_ok.mp written
      cases made
      exact ⟨inner, rfl, ScoreFunction.render_conforms admissible found⟩

end Score

namespace Span

/-- Some spans conform to some documents only. -/
theorem AllConform.ne_nil {clauses : List Span} {items : List Value}
    (conform : AllConform clauses items) (nonempty : clauses ≠ []) : items ≠ [] := by
  cases clauses with
  | nil => exact absurd rfl nonempty
  | cons clause rest =>
      simp only [AllConform] at conform
      obtain ⟨first, others, rfl, -⟩ := conform
      exact List.cons_ne_nil first others

mutual

theorem render_conforms {s : Span} {v : Value} (admissible : s.Admissible)
    (written : s.render resolve = .ok v) : s.Conforms v := by
  cases s with
  | term query path =>
      simp only [Admissible] at admissible
      obtain ⟨name, found, made⟩ := Outcome.bind_eq_ok.mp written
      cases made
      simp only [Conforms]
      show Labelled _ _ (.object [("term", .object (Slot.present [("query", some query.render),
        ("path", some name)]))])
      exact .of_slots (by simp) (.cons (Rule.always_fits query.render_isQuery)
        (.cons (Rule.always_fits (Path.render_isPath admissible.2 found)) .nil))
  | first operator endPosition =>
      simp only [Admissible] at admissible
      obtain ⟨inner, found, made⟩ := Outcome.bind_eq_ok.mp written
      cases made
      simp only [Conforms]
      show Labelled _ _ (.object [("first", .object (Slot.present [("operator", some inner),
        ("endPositionLte", some (.whole endPosition))]))])
      exact .of_slots (by simp) (.cons (Rule.always_fits (render_conforms admissible.1 found))
        (.cons (Rule.always_fits ⟨endPosition, rfl, admissible.2⟩) .nil))
  | near clauses slop inOrder =>
      simp only [Admissible] at admissible
      obtain ⟨nonempty, all, natural⟩ := admissible
      obtain ⟨items, found, made⟩ := Outcome.bind_eq_ok.mp written
      cases made
      simp only [Conforms]
      show Labelled _ _ (.object [("near", .object (Slot.present [("clauses", some (.list items)),
        ("slop", some (.whole slop)), ("inOrder", some (.bool inOrder))]))])
      refine .of_slots (by simp) (.cons ?_ (.cons ?_ (.cons ?_ .nil)))
      · have conform := renderAll_conform all found
        exact Rule.always_fits ⟨items, rfl, conform.ne_nil nonempty, conform⟩
      · exact Rule.always_fits ⟨slop, rfl, natural⟩
      · exact Rule.always_fits ⟨inOrder, rfl⟩
  | either clauses =>
      simp only [Admissible] at admissible
      obtain ⟨items, found, made⟩ := Outcome.bind_eq_ok.mp written
      cases made
      simp only [Conforms]
      show Labelled _ _ (.object [("or", .object (Slot.present [("clauses", some (.list items))]))])
      have conform := renderAll_conform admissible.2 found
      exact .of_slots (by simp)
        (.cons (Rule.always_fits ⟨items, rfl, conform.ne_nil admissible.1, conform⟩) .nil)
  | subtract kept removed =>
      simp only [Admissible] at admissible
      obtain ⟨included, found, more⟩ := Outcome.bind_eq_ok.mp written
      obtain ⟨excluded, foundRemoved, made⟩ := Outcome.bind_eq_ok.mp more
      cases made
      simp only [Conforms]
      show Labelled _ _ (.object [("subtract", .object (Slot.present [("include", some included),
        ("exclude", some excluded)]))])
      exact .of_slots (by simp) (.cons (Rule.always_fits (render_conforms admissible.1 found))
        (.cons (Rule.always_fits (render_conforms admissible.2 foundRemoved)) .nil))

theorem renderAll_conform {clauses : List Span} {items : List Value}
    (admissible : AllAdmissible clauses) (written : renderAll resolve clauses = .ok items) :
    AllConform clauses items := by
  cases clauses with
  | nil =>
      cases written
      simp only [AllConform]
  | cons clause rest =>
      simp only [AllAdmissible] at admissible
      obtain ⟨first, found, more⟩ := Outcome.bind_eq_ok.mp written
      obtain ⟨others, foundAll, made⟩ := Outcome.bind_eq_ok.mp more
      cases made
      simp only [AllConform]
      exact ⟨first, others, rfl, render_conforms admissible.1 found,
        renderAll_conform admissible.2 foundAll⟩

end

end Span

namespace Facet

theorem render_conforms {f : Facet} {v : Value} (admissible : f.Admissible)
    (written : f.render resolve = .ok v) : f.Conforms v := by
  obtain ⟨document, found, rfl⟩ := render_slots written
  cases f with
  | string name path buckets =>
      obtain ⟨-, soundPath, atLeast, atMost⟩ := admissible
      refine ⟨_, rfl, .of_slots (by simp [slots]) (.cons ?_ (.cons ?_ (.cons ?_ .nil)))⟩
      · exact Rule.always_fits rfl
      · exact Rule.always_fits (Path.render_isPath soundPath found)
      · exact Rule.unless_fits (fun other => ⟨buckets, rfl, atLeast, atMost, other⟩)
  | number name path boundaries outside =>
      obtain ⟨-, soundPath, enough, -, -⟩ := admissible
      refine ⟨_, rfl, .of_slots (by simp [slots]) (.cons ?_ (.cons ?_ (.cons ?_ (.cons ?_ .nil))))⟩
      · exact Rule.always_fits rfl
      · exact Rule.always_fits (Path.render_isPath soundPath found)
      · exact Rule.always_fits ⟨boundaries, rfl, enough⟩
      · exact Rule.given_fits (Slot.rel_map (fun w _ => ⟨w, rfl⟩))
  | date name path boundaries outside =>
      obtain ⟨-, soundPath, enough, -, -⟩ := admissible
      refine ⟨_, rfl, .of_slots (by simp [slots]) (.cons ?_ (.cons ?_ (.cons ?_ (.cons ?_ .nil))))⟩
      · exact Rule.always_fits rfl
      · exact Rule.always_fits (Path.render_isPath soundPath found)
      · exact Rule.always_fits ⟨boundaries, rfl, enough⟩
      · exact Rule.given_fits (Slot.rel_map (fun w _ => ⟨w, rfl⟩))

/-- Facets are written under their names, one by one. -/
theorem renderAll_eq_ok {facets : List Facet} {entries : List (String × Value)}
    (written : renderAll resolve facets = .ok entries) :
    List.Forall₂ (fun f entry => f.name.text = entry.1 ∧ f.render resolve = .ok entry.2)
      facets entries := by
  induction facets generalizing entries with
  | nil =>
      cases written
      exact .nil
  | cons f rest ih =>
      obtain ⟨document, found, more⟩ := Outcome.bind_eq_ok.mp written
      obtain ⟨others, foundAll, made⟩ := Outcome.bind_eq_ok.mp more
      cases made
      exact .cons ⟨rfl, found⟩ (ih foundAll)

theorem renderAll_names {facets : List Facet} {entries : List (String × Value)}
    (written : renderAll resolve facets = .ok entries) :
    entries.map Prod.fst = facets.map (fun f => f.name.text) := by
  have both := renderAll_eq_ok written
  clear written
  induction both with
  | nil => rfl
  | cons first _ ih => rw [List.map_cons, List.map_cons, first.1, ih]

end Facet

theorem Score.written_conforms {score : Option Score} {last : Option Value}
    (admissible : ∀ s ∈ score, s.Admissible) (written : Score.Written resolve score last) :
    (Operator.scoreRule score).Fits ("score", last) := by
  refine Rule.given_fits ?_
  cases written with
  | none => exact .none
  | some found => exact .some (Score.render_conforms (admissible _ rfl) found)

namespace Geometry

theorem document_isGeometry {argument : String} {allowed : List String} {g : Geometry Value}
    (admissible : g.Admissible argument allowed) : g.document.IsGeometry allowed :=
  ⟨g.type, g.coordinates, rfl, (build_eq_ok admissible).2⟩

end Geometry

theorem Area.slots_fit {area : Area Value} (admissible : area.Admissible) :
    List.Forall₂ Rule.Fits area.rules area.slots := by
  cases area with
  | geometry g =>
      refine .cons ⟨rfl, by simp, ?_⟩ (.cons ⟨rfl, by simp, by simp⟩
        (.cons ⟨rfl, by simp, by simp⟩ .nil))
      intro v same
      cases same
      exact Geometry.document_isGeometry admissible
  | box b =>
      refine .cons ⟨rfl, by simp, by simp⟩ (.cons ⟨rfl, by simp, ?_⟩
        (.cons ⟨rfl, by simp, by simp⟩ .nil))
      intro v same
      cases same
      exact ⟨_, _, rfl, Geometry.document_isGeometry admissible.bottomLeft,
        Geometry.document_isGeometry admissible.topRight⟩
  | circle c =>
      refine .cons ⟨rfl, by simp, by simp⟩ (.cons ⟨rfl, by simp, by simp⟩
        (.cons ⟨rfl, by simp, ?_⟩ .nil))
      intro v same
      cases same
      exact ⟨_, _, rfl, Geometry.document_isGeometry admissible.center,
        c.radius, rfl, admissible.radius⟩

theorem Bound.slots_fit {left taken : String} {bound : Option (Bound Value)}
    (flag : ∀ b ∈ bound, ∃ inclusive, b.inclusive = .bool inclusive) :
    List.Forall₂ Rule.Fits (Bound.rules left taken bound) (Bound.slots left taken bound) := by
  have limit : ∀ l : Limit, (Value.ofLimit l).IsLimit := by
    intro l
    cases l with
    | number x => exact .inl ⟨x, rfl⟩
    | date t => exact .inr ⟨t, rfl⟩
  cases bound with
  | none => exact .cons ⟨rfl, by simp, by simp⟩ (.cons ⟨rfl, by simp, by simp⟩ .nil)
  | some b =>
      obtain ⟨inclusive, same⟩ := flag b rfl
      cases inclusive with
      | false =>
          refine .cons ⟨rfl, by simp [same, Value.truth], ?_⟩
            (.cons ⟨rfl, by simp [same, Value.truth], by simp [same, Value.truth]⟩ .nil)
          simpa [same, Value.truth, Bound.rules] using limit b.limit
      | true =>
          refine .cons ⟨rfl, by simp [same, Value.truth], by simp [same, Value.truth]⟩
            (.cons ⟨rfl, by simp [same, Value.truth], ?_⟩ .nil)
          simpa [same, Value.truth, Bound.rules] using limit b.limit

/-- A range has one of its bounds at least. -/
theorem RangeForm.Admits.some_bound {form : RangeForm} {lower upper : Option (Bound Value)}
    (admits : form.Admits lower upper) : lower.isSome = true ∨ upper.isSome = true := by
  have bounds := admits.bounds
  cases form with
  | lowerBounded => exact .inl bounds.1
  | upperBounded => exact .inr bounds.2
  | complete => exact .inl bounds.1

namespace Operator

/-- Some operators conform to some documents only. -/
theorem AllConform.ne_nil {clauses : List (Operator Value)} {items : List Value}
    (conform : AllConform clauses items) (nonempty : clauses ≠ []) : items ≠ [] := by
  cases clauses with
  | nil => exact absurd rfl nonempty
  | cons clause rest =>
      simp only [AllConform] at conform
      obtain ⟨first, others, rfl, -⟩ := conform
      exact List.cons_ne_nil first others

/-- Facets under distinct names conform to the entries that they are written as. -/
theorem facets_conform {facets : List Facet} {entries : List (String × Value)}
    (nonempty : facets ≠ []) (admissible : ∀ f ∈ facets, f.Admissible)
    (distinct : (facets.map (fun f => f.name.text)).Nodup)
    (written : Facet.renderAll resolve facets = .ok entries) :
    entries ≠ [] ∧ (entries.map Prod.fst).Nodup ∧
      List.Forall₂ (fun f entry => f.name.text = entry.1 ∧ f.Conforms entry.2) facets entries := by
  have both := Facet.renderAll_eq_ok written
  refine ⟨?_, Facet.renderAll_names written ▸ distinct, ?_⟩
  · rintro rfl
    exact nonempty (List.forall₂_nil_right_iff.mp both)
  · clear written distinct nonempty
    induction both with
    | nil => exact .nil
    | cons first _ ih =>
        rw [List.forall_mem_cons] at admissible
        exact .cons ⟨first.1, Facet.render_conforms admissible.1 first.2⟩ (ih admissible.2)

mutual

theorem render_conforms {op : Operator Value} {v : Value} (admissible : op.Admissible)
    (free : op.rawFree = true) (written : op.render resolve = .ok v) : op.Conforms v := by
  cases op with
  | text query p fuzzy score =>
      simp only [Admissible] at admissible
      obtain ⟨-, soundPath, soundFuzzy, scored⟩ := admissible
      obtain ⟨slots, ⟨path, last, found, given, rfl⟩, rfl⟩ :=
        render_fills written (by simp) (by simp)
      simp only [Conforms]
      refine .of_slots (by simp) (.cons ?_ (.cons ?_ (.cons ?_ (.cons ?_ .nil))))
      · exact Rule.always_fits query.render_isQuery
      · exact Rule.always_fits (Path.render_isPath soundPath found)
      · exact Rule.given_fits (Slot.rel_map (fun f held => Fuzzy.render_conforms (soundFuzzy f held)))
      · exact Score.written_conforms scored given
  | phrase query p slop score =>
      simp only [Admissible] at admissible
      obtain ⟨-, soundPath, natural, scored⟩ := admissible
      obtain ⟨slots, ⟨path, last, found, given, rfl⟩, rfl⟩ :=
        render_fills written (by simp) (by simp)
      simp only [Conforms]
      refine .of_slots (by simp) (.cons ?_ (.cons ?_ (.cons ?_ (.cons ?_ .nil))))
      · exact Rule.always_fits query.render_isQuery
      · exact Rule.always_fits (Path.render_isPath soundPath found)
      · exact Rule.unless_fits (fun other => ⟨slop, rfl, by omega⟩)
      · exact Score.written_conforms scored given
  | autocomplete query p order fuzzy score =>
      simp only [Admissible] at admissible
      obtain ⟨-, soundPath, soundFuzzy, scored⟩ := admissible
      obtain ⟨slots, ⟨path, last, found, given, rfl⟩, rfl⟩ :=
        render_fills written (by simp) (by simp)
      simp only [Conforms]
      refine .of_slots (by simp) (.cons ?_ (.cons ?_ (.cons ?_ (.cons ?_ (.cons ?_ .nil)))))
      · exact Rule.always_fits query.render_isQuery
      · exact Rule.always_fits (Path.render_isPath soundPath found)
      · refine Rule.unless_fits (fun other => ?_)
        cases order with
        | any => exact absurd rfl other
        | sequential => rfl
      · exact Rule.given_fits (Slot.rel_map (fun f held => Fuzzy.render_conforms (soundFuzzy f held)))
      · exact Score.written_conforms scored given
  | pattern form query p analyzed score =>
      simp only [Admissible] at admissible
      obtain ⟨named, -, soundPath, scored⟩ := admissible
      obtain ⟨slots, ⟨path, last, found, given, rfl⟩, rfl⟩ :=
        render_fills written (by simp) (by simp)
      simp only [Conforms]
      refine ⟨by cases form <;> simp [PatternForm.word] at named ⊢, ?_⟩
      refine .of_slots (by simp) (.cons ?_ (.cons ?_ (.cons ?_ (.cons ?_ .nil))))
      · exact Rule.always_fits query.render_isQuery
      · exact Rule.always_fits (Path.render_isPath soundPath found)
      · exact Rule.when_fits (fun _ => rfl)
      · exact Score.written_conforms scored given
  | queryString field query score =>
      simp only [Admissible] at admissible
      obtain ⟨slots, ⟨name, last, found, given, rfl⟩, rfl⟩ :=
        render_fills written (by simp) (by simp)
      simp only [Conforms]
      exact .of_slots (by simp) (.cons (Rule.always_fits ⟨name, rfl⟩)
        (.cons (Rule.always_fits ⟨query, rfl⟩)
          (.cons (Score.written_conforms admissible.2.2 given) .nil)))
  | equals field value score =>
      simp only [Admissible] at admissible
      obtain ⟨slots, ⟨name, last, found, given, rfl⟩, rfl⟩ :=
        render_fills written (by simp) (by simp)
      simp only [Conforms]
      refine .of_slots (by simp) (.cons ?_ (.cons ?_ (.cons ?_ .nil)))
      · exact Rule.always_fits ⟨name, rfl⟩
      · refine Rule.always_fits ?_
        cases value with
        | flag b => exact .inl ⟨b, rfl⟩
        | id o => exact .inr ⟨o, rfl⟩
      · exact Score.written_conforms admissible.2 given
  | existence field =>
      obtain ⟨slots, ⟨name, found, rfl⟩, rfl⟩ := render_fills written (by simp) (by simp)
      simp only [Conforms]
      exact .of_slots (by simp) (.cons (Rule.always_fits ⟨name, rfl⟩) .nil)
  | near p origin pivot score =>
      simp only [Admissible] at admissible
      obtain ⟨slots, ⟨path, last, found, given, rfl⟩, rfl⟩ :=
        render_fills written (by simp) (by simp)
      simp only [Conforms]
      refine .of_slots (by simp) (.cons ?_ (.cons ?_ (.cons ?_ (.cons ?_ .nil))))
      · exact Rule.always_fits (Path.render_isPath admissible.1 found)
      · refine Rule.always_fits ?_
        cases origin with
        | number x => exact .inl (.inl ⟨x, rfl⟩)
        | date t => exact .inl (.inr ⟨t, rfl⟩)
        | point position => exact .inr ⟨_, _, rfl, by simp⟩
      · exact Rule.always_fits ⟨pivot, rfl, trivial⟩
      · exact Score.written_conforms admissible.2 given
  | geoWithin p area score =>
      simp only [Admissible] at admissible
      obtain ⟨soundPath, soundArea, scored⟩ := admissible
      obtain ⟨slots, ⟨path, last, found, given, rfl⟩, rfl⟩ :=
        render_fills written (by simp) (by simp)
      simp only [Conforms]
      refine .of_slots (by cases area <;> simp [Area.slots])
        (.cons ?_ (List.rel_append ?_ (.cons ?_ .nil)))
      · exact Rule.always_fits (Path.render_isPath soundPath found)
      · exact Area.slots_fit soundArea
      · exact Score.written_conforms scored given
  | geoShape p geometry relation score =>
      simp only [Admissible] at admissible
      obtain ⟨soundPath, soundShape, scored⟩ := admissible
      obtain ⟨slots, ⟨path, last, found, given, rfl⟩, rfl⟩ :=
        render_fills written (by simp) (by simp)
      simp only [Conforms]
      refine .of_slots (by simp) (.cons ?_ (.cons ?_ (.cons ?_ (.cons ?_ .nil))))
      · exact Rule.always_fits (Path.render_isPath soundPath found)
      · exact Rule.always_fits (Geometry.document_isGeometry soundShape)
      · exact Rule.always_fits ⟨relation, rfl⟩
      · exact Score.written_conforms scored given
  | range form p lower upper score =>
      simp only [Admissible] at admissible
      obtain ⟨soundPath, admits, scored⟩ := admissible
      obtain ⟨slots, ⟨path, last, found, given, rfl⟩, rfl⟩ :=
        render_fills written (by simp) (by simp)
      simp only [Conforms]
      refine ⟨admits.some_bound, ?_⟩
      refine .of_slots (by simp [Bound.slots])
        (.cons ?_ (List.rel_append (List.rel_append ?_ ?_) (.cons ?_ .nil)))
      · exact Rule.always_fits (Path.render_isPath soundPath found)
      · exact Bound.slots_fit admits.lowerFlag
      · exact Bound.slots_fit admits.upperFlag
      · exact Score.written_conforms scored given
  | compound must mustNot should filter minimum score =>
      simp only [Admissible] at admissible
      obtain ⟨soundMust, soundMustNot, soundShould, soundFilter, -, scored⟩ := admissible
      simp only [rawFree, Bool.and_eq_true] at free
      obtain ⟨⟨⟨freeMust, freeMustNot⟩, freeShould⟩, freeFilter⟩ := free
      obtain ⟨slots, ⟨ms, ns, ss, fs, last, must, mustNot, should, filter, given, rfl⟩, rfl⟩ :=
        render_fills written (by simp) (by simp)
      simp only [Conforms]
      refine .of_slots (by simp)
        (.cons ?_ (.cons ?_ (.cons ?_ (.cons ?_ (.cons ?_ (.cons ?_ .nil))))))
      · exact written_conforms soundMust freeMust must
      · exact written_conforms soundMustNot freeMustNot mustNot
      · exact written_conforms soundShould freeShould should
      · exact written_conforms soundFilter freeFilter filter
      · exact Rule.when_fits (fun positive => ⟨minimum, rfl, positive⟩)
      · exact Score.written_conforms scored given
  | span s =>
      simp only [Admissible] at admissible
      obtain ⟨inner, found, rfl⟩ := render_span written
      simp only [Conforms]
      exact ⟨inner, rfl, Span.render_conforms admissible found⟩
  | facet operator facets =>
      simp only [Admissible] at admissible
      obtain ⟨sound, nonempty, all, distinct⟩ := admissible
      simp only [rawFree] at free
      obtain ⟨slots, ⟨document, entries, found, foundFacets, rfl⟩, rfl⟩ :=
        render_fills written (by simp) (by simp)
      simp only [Conforms]
      exact .of_slots (by simp) (.cons (Rule.always_fits (render_conforms sound free found))
        (.cons (Rule.always_fits ⟨entries, rfl,
          facets_conform nonempty (fun f held => (all f held).1) distinct foundFacets⟩) .nil))
  | raw entries => cases free

theorem written_conforms {key : String} {clauses : Option (List (Operator Value))}
    {documents : Option (List Value)} (admissible : ClausesAdmissible clauses)
    (free : rawFree.clausesRawFree clauses = true) (written : Written resolve clauses documents) :
    Rule.Fits ⟨key, clauses.isSome = true, fun w => ClausesConform clauses w⟩
      (key, documents.map .list) := by
  cases clauses with
  | none =>
      cases written
      exact ⟨rfl, by simp, by simp⟩
  | some ops =>
      simp only [ClausesAdmissible] at admissible
      simp only [rawFree.clausesRawFree] at free
      cases written with
      | some both =>
          refine ⟨rfl, by simp, ?_⟩
          intro v same
          cases same
          have conform := all_conform admissible.2 free both
          simp only [ClausesConform]
          exact ⟨_, rfl, conform.ne_nil admissible.1, conform⟩

theorem all_conform {clauses : List (Operator Value)} {items : List Value}
    (admissible : AllAdmissible clauses) (free : rawFree.allRawFree clauses = true)
    (written : List.Forall₂ (fun op document => op.render resolve = .ok document) clauses items) :
    AllConform clauses items := by
  cases clauses with
  | nil =>
      cases written
      simp only [AllConform]
  | cons clause rest =>
      simp only [AllAdmissible] at admissible
      simp only [rawFree.allRawFree, Bool.and_eq_true] at free
      cases written with
      | cons first others =>
          simp only [AllConform]
          exact ⟨_, _, rfl, render_conforms admissible.1 free.1 first,
            all_conform admissible.2 free.2 others⟩

end

end Operator

/-- What is written of a definition that a program makes without hand-written
parts is a document of the grammar, whatever schema resolves its fields. -/
theorem Made.document_conforms {op : Operator Value} (made : Made (.ofOperator op))
    (free : op.rawFree = true) {v : Value} (written : op.render resolve = .ok v) :
    op.Conforms v :=
  Operator.render_conforms made.admissible free written

/-- Cafes and bars by a fuzzy and boosted text, counted by kind. -/
def placeFacets : Operator Value :=
  .facet
    (.compound none none
      (some [.text (.many ["cafe", "bar"]) (.single (.name "name"))
        (some ⟨some (.int 1), none, none⟩) (some (.boost (.int 2)))]) none (.int 1) none)
    [.string "kind" (.single (.name "type")) (.int 20)]

theorem placeFacets_made : Made (.ofOperator placeFacets) := by
  have text : ∀ s, Made (.text s) := fun s => .plain trivial
  have number : ∀ x, Made (.number x) := fun x => .plain trivial
  have null : Made .null := .plain trivial
  have words : Made (.list [.text "cafe", .text "bar"]) := .list (by simp [text])
  have fuzzy : Made (.node (.fuzzy ⟨some (.int 1), none, none⟩)) :=
    .built .fuzzy [.int 1, .null, .null] (by simp [number, null]) rfl
  have boost : Made (.node (.score (.boost (.int 2)))) :=
    .built .boost [.int 2] (by simp [number]) rfl
  have search := Made.built .text [_, .text "name", _, _]
    (by simpa using ⟨words, text _, fuzzy, boost⟩) rfl
  have compound := Made.built .compound [.null] (by simpa using null) rfl
  have filled := Made.built (.clauses .should) [_, _] (by simpa using ⟨compound, search⟩) rfl
  have enough := Made.built .atLeast [_, .int 1] (by simpa using ⟨filled, number _⟩) rfl
  have kinds := Made.built .stringFacet [.text "kind", .text "type", .int 20]
    (by simp [text, number]) rfl
  exact .built .facet [_, _] (by simpa using ⟨enough, kinds⟩) rfl

/-- Cafes and bars are written as a document of the grammar. -/
theorem placeFacets_conforms : ∃ v, Made (.ofOperator placeFacets) ∧ placeFacets.rawFree = true ∧
    placeFacets.render (Schema.untyped.resolver Catalog.empty) = .ok v ∧
      placeFacets.Conforms v := by
  obtain ⟨v, written⟩ : ∃ v,
      placeFacets.render (Schema.untyped.resolver Catalog.empty) = .ok v := ⟨_, rfl⟩
  exact ⟨v, placeFacets_made, rfl, written, placeFacets_made.document_conforms rfl written⟩

end SearchQuery
