import SearchQuery.Proofs.Accepted
import SearchQuery.Proofs.Reports
import SearchQuery.Proofs.StoredNames
import SearchQuery.Proofs.TwoPhase

/-!
# Names of fields

Every document shows the names that its schema finds for the fields of its
definition.  No constructor takes an empty text for a field, so these names are
empty only for references that lead nowhere, which are taken as they are.  Of
the projections only that of the metadata takes whatever its schema resolves.
-/

namespace SearchQuery

/-- A built-in schema resolves fields and nothing else. -/
theorem Schema.resolve_eq_ok {c : Catalog} {s : Schema} {v : Value} {name : Words}
    (own : s.BuiltIn) :
    s.resolve c v = .ok name ↔
      ∃ field, v.asField? = some field ∧ s.resolver c field = .ok name := by
  unfold resolve Value.asField?
  cases v.asWords? with
  | some w => simp
  | none =>
      cases v with
      | node n =>
          cases n with
          | field r => simp
          | looseField owner parts => simp
          | _ => cases s <;> first | exact absurd own id | simp
      | _ => cases s <;> first | exact absurd own id | simp

namespace Node

/-- The fields of a part of a definition, in document order. -/
def fields (n : Node Value) : List Field :=
  n.demands.filterMap Demand.field?

/-- A part of a definition over the names of its fields. -/
def rename (names : Field → Words) : Node Value → Node Value
  | .path p => .path (p.rename names)
  | .highlight h => .highlight (h.rename names)
  | .expression f => .expression (f.rename names)
  | .score s => .score (s.rename names)
  | .span s => .span (s.rename names)
  | .facet f => .facet (f.rename names)
  | .operator op => .operator (op.rename names)
  | n => n

variable {c : Catalog} {resolve : Resolver} {n : Node Value} {v : Value}

/-- A document is written with every demand of its node met, and is that of the
node over the names of its fields. -/
theorem document_met (c : Catalog) (written : n.document resolve = .ok v) :
    Demand.meetAll resolve n.demands = .ok () ∧
      (n.rename resolve.chosen).document (Schema.untyped.resolver c) = .ok v := by
  cases n with
  | path p => exact (p.render_follows resolve c).met written
  | highlight h =>
      obtain ⟨path, found, made⟩ := Outcome.bind_eq_ok.mp written
      obtain ⟨met, same⟩ := (h.path.render_follows resolve c).met found
      refine ⟨met, ?_⟩
      cases made
      exact Outcome.bind_eq_ok.mpr ⟨path, same, rfl⟩
  | expression f => exact (f.render_follows resolve c).met written
  | score s => exact (s.render_follows resolve c).met written
  | span s => exact (s.render_follows resolve c).met written
  | facet f => exact (f.render_follows resolve c).met written
  | operator op => exact (op.render_follows resolve c).met written
  | box b =>
      have entry : (Area.box b).entry = .ok ("box", v) :=
        Outcome.bind_eq_ok.mpr ⟨v, written, rfl⟩
      exact ⟨((Area.box b).entry_follows resolve).met entry |>.1, written⟩
  | circle circle =>
      have entry : (Area.circle circle).entry = .ok ("circle", v) :=
        Outcome.bind_eq_ok.mpr ⟨v, written, rfl⟩
      exact ⟨((Area.circle circle).entry_follows resolve).met entry |>.1, written⟩
  | query q => exact ⟨rfl, written⟩
  | fuzzy f => exact ⟨rfl, written⟩
  | count n => exact ⟨rfl, written⟩
  | point p => exact ⟨rfl, written⟩
  | _ => cases written

/-- The names of the fields of a node stand in its document in order. -/
theorem document_shows (written : n.document resolve = .ok v) :
    (n.fields.map (fun field => Value.ofWords (resolve.chosen field))).Sublist v.leaves := by
  show (resolve.answers n.demands).Sublist v.leaves
  cases n with
  | path p => exact p.render_shows written
  | highlight h =>
      obtain ⟨path, found, made⟩ := Outcome.bind_eq_ok.mp written
      cases made
      rw [Value.leaves_object, Value.entryLeaves_cons]
      exact List.sublist_append_of_sublist_left (h.path.render_shows found)
  | expression f => exact f.render_shows written
  | score s => exact s.render_shows written
  | span s => exact s.render_shows written
  | facet f => exact f.render_shows written
  | operator op => exact op.render_shows written
  | box b => exact List.nil_sublist _
  | circle circle => exact List.nil_sublist _
  | query q => exact List.nil_sublist _
  | fuzzy f => exact List.nil_sublist _
  | count n => exact List.nil_sublist _
  | point p => exact List.nil_sublist _
  | _ => cases written

end Node

/-- A constructor is given a value where it takes a field. -/
inductive Constructor.TakesField (v : Value) : Constructor → List Value → Prop where
  | singlePath : TakesField v .singlePath [v]
  | multiPath {items : List Value} (held : v ∈ items) : TakesField v .multiPath [.tuple items]
  | analyzerPath {analyzer : Value} : TakesField v .analyzerPath [v, analyzer]
  | queryString {query score : Value} : TakesField v .queryString [v, query, score]
  | equals {value score : Value} : TakesField v .equals [v, value, score]
  | existence : TakesField v .existence [v]

namespace Constructor

variable {v : Value} {k : Constructor} {given : List Value}

theorem TakesField.reports (takes : k.TakesField v given) : Reports (k.run given) := by
  cases takes with
  | singlePath => exact .map _ Path.ofField_reports
  | multiPath => exact .map _ Path.ofFields_reports
  | analyzerPath => exact .map _ Path.ofAnalyzer_reports
  | queryString => exact .map _ Operator.ofQueryString_reports
  | equals => exact .map _ Operator.ofEquals_reports
  | existence => exact .map _ Operator.ofExistence_reports

/-- What a constructor takes for a field is one with a name. -/
theorem TakesField.named {n : Node Value} (takes : k.TakesField v given)
    (built : k.Builds given n) :
    ∃ field, v.asField? = some field ∧ field.Named := by
  have one : ∀ argument field, Guard.field argument v = .ok field →
      ∃ field, v.asField? = some field ∧ field.Named := by
    intro argument field passed
    exact ⟨field, Guard.field_eq_ok.mp passed⟩
  cases takes with
  | singlePath => cases built with | singlePath field => exact one _ _ field
  | multiPath held =>
      cases built with
      | multiPath _ fields =>
          obtain ⟨_, field⟩ := Guard.each_mem fields held
          exact one _ _ field
  | analyzerPath => cases built with | analyzerPath field => exact one _ _ field
  | queryString => cases built with | queryString field => exact one _ _ field
  | equals => cases built with | equals field => exact one _ _ field
  | existence => cases built with | existence field => exact one _ _ field

/-- An empty text in the place of a field is reported. -/
theorem TakesField.refuses {field : Field} (takes : k.TakesField v given)
    (shown : v.asField? = some field) (unnamed : ¬ field.Named) :
    ∃ fault, k.run given = .error fault ∧ fault.IsReported := by
  cases outcome : k.run given with
  | ok n =>
      obtain ⟨other, same, named⟩ := takes.named (run_builds outcome)
      rw [shown] at same
      cases same
      exact absurd named unnamed
  | error fault => exact ⟨fault, rfl, takes.reports fault outcome⟩

end Constructor

namespace Stage

variable {c : Catalog} {s : Schema} {given schema v w : Value} {name : Words} {field : Field}

theorem projection_eq_ok :
    projection name w = .ok v ↔ name.isCode = false ∧ v = .object [(name.text, w)] := by
  unfold projection
  cases name.isCode <;> simp [eq_comm]

/-- The projection of the metadata is into the name of a field. -/
theorem projectMeta_eq_ok (coerced : Schema.coerce c schema = .ok s) (own : s.BuiltIn) :
    projectMeta c given schema = .ok v ↔ ∃ field name, given.asField? = some field ∧
      s.resolver c field = .ok name ∧ name.isCode = false ∧
        v = .object [(name.text, .text "$$SEARCH_META")] := by
  constructor
  · intro made
    obtain ⟨present, kept, more⟩ := Outcome.bind_eq_ok.mp made
    obtain ⟨other, found, more⟩ := Outcome.bind_eq_ok.mp more
    obtain ⟨name, resolved, last⟩ := Outcome.bind_eq_ok.mp more
    rw [coerced] at found
    cases found
    rw [Guard.notNull_eq_ok kept] at resolved
    obtain ⟨field, shown, stored⟩ := (Schema.resolve_eq_ok own).mp resolved
    obtain ⟨plain, rfl⟩ := projection_eq_ok.mp last
    exact ⟨field, name, shown, stored, plain, rfl⟩
  · rintro ⟨field, name, shown, stored, plain, rfl⟩
    have kept : Guard.notNull "field" given = .ok given := by
      cases given with
      | null => cases shown
      | _ => rfl
    refine Outcome.bind_eq_ok.mpr ⟨given, kept, ?_⟩
    refine Outcome.bind_eq_ok.mpr ⟨s, coerced, ?_⟩
    refine Outcome.bind_eq_ok.mpr ⟨name, (Schema.resolve_eq_ok own).mpr ⟨field, shown, stored⟩, ?_⟩
    exact projection_eq_ok.mpr ⟨plain, rfl⟩

/-- The metadata is projected into a name that is not empty, whatever the built-in schema. -/
def NamedInMetadata (given : Value) : Prop :=
  ∀ (c : Catalog) (schema : Value) (s : Schema) (v : Value), Schema.coerce c schema = .ok s →
    s.BuiltIn → projectMeta c given schema = .ok v →
      ∃ key, key ≠ "" ∧ v = .object [(key, .text "$$SEARCH_META")]

/-- The metadata is projected into names that are not empty exactly when the field is not hollow. -/
theorem namedInMetadata_iff (shown : given.asField? = some field) (plain : field.isCode = false) :
    NamedInMetadata given ↔ ¬ field.Hollow := by
  constructor
  · intro named hollow
    obtain ⟨c, s, name, own, stored, empty, code⟩ := hollow.empty_name
    obtain ⟨schema, coerced⟩ : ∃ schema, Schema.coerce c schema = .ok s := by
      cases s with
      | untyped => exact ⟨.null, rfl⟩
      | modelled m => exact ⟨.node (.model m), rfl⟩
      | prepending text => exact absurd own id
      | unusable => exact absurd own id
    have made : projectMeta c given schema = .ok (.object [(name.text, .text "$$SEARCH_META")]) :=
      (projectMeta_eq_ok coerced own).mpr ⟨field, name, shown, stored, code.trans plain, rfl⟩
    obtain ⟨key, some, same⟩ := named c schema s _ coerced own made
    simp only [Value.object, List.map_cons, List.map_nil, Value.dict.injEq, List.cons.injEq,
      Prod.mk.injEq, Value.text.injEq, and_true] at same
    exact some (same.symm.trans empty)
  · intro solid c schema s v coerced own made
    obtain ⟨other, name, same, stored, -, rfl⟩ := (projectMeta_eq_ok coerced own).mp made
    rw [shown] at same
    cases same
    exact ⟨name.text, Field.name_ne_empty solid own stored, rfl⟩

/-- The other projections are into names that are not empty. -/
theorem projection_named
    (made : Guard.text "field" given >>= (fun name => projection name w) = .ok v) :
    ∃ key, key ≠ "" ∧ v = .object [(key, w)] := by
  obtain ⟨name, found, last⟩ := Outcome.bind_eq_ok.mp made
  obtain ⟨-, rfl⟩ := projection_eq_ok.mp last
  exact ⟨name.text, (Guard.text_eq_ok.mp found).2, rfl⟩

end Stage

/-- The only field without a name is an empty text. -/
theorem Value.words_of_unnamed {v : Value} {field : Field} (shown : v.asField? = some field)
    (unnamed : ¬ field.Named) : ∃ w, v.asWords? = some w ∧ field = .name w ∧ w.text = "" := by
  unfold asField? at shown
  split at shown
  · rename_i w words
    cases shown
    exact ⟨w, words, rfl, not_not.mp unnamed⟩
  · cases shown
    exact absurd trivial unnamed
  · cases shown
    unfold Field.ofTerms at unnamed
    split at unnamed <;> exact absurd trivial unnamed
  · cases shown

/-- An empty text is refused wherever a field is taken, but for the projection
of the metadata without a model.  Over a model that projection reports it as no
field, if it can be shown. -/
structure Value.RefusedAsField (v : Value) : Prop where
  constructors : ∀ (k : Constructor) given, k.TakesField v given →
    ∃ fault, k.run given = .error fault ∧ fault.IsReported
  score : Stage.projectScore v = .error (.invalid "field" v .empty)
  highlights : Stage.projectHighlights v = .error (.invalid "field" v .empty)
  metadata : ∀ c schema m, Schema.coerce c schema = .ok (.modelled m) →
    ∃ shown, Stage.projectMeta c v schema = .error (.mismatch shown .notField)

theorem Value.refused_of_unnamed {v : Value} {field : Field} (shown : v.asField? = some field)
    (unnamed : ¬ field.Named) : v.RefusedAsField := by
  obtain ⟨w, words, rfl, empty⟩ := words_of_unnamed shown unnamed
  have refused : Guard.text "field" v = .error (.invalid "field" v .empty) := by
    simp only [Guard.text, words, empty, if_true]
  refine ⟨fun k given takes => takes.refuses shown unnamed, ?_, ?_, ?_⟩
  · unfold Stage.projectScore
    rw [refused]
    rfl
  · unfold Stage.projectHighlights
    rw [refused]
    rfl
  · intro c schema m coerced
    refine ⟨.ofField (.name w), ?_⟩
    have kept : Guard.notNull "field" v = .ok v := by
      cases v with
      | null => cases words
      | _ => rfl
    have resolved : Schema.resolve c (.modelled m) v =
        .error (.mismatch (.ofField (.name w)) .notField) := by
      unfold Schema.resolve
      simp only [words, Schema.resolver, Schema.outcome, Schema.resolveName, empty, if_true]
    unfold Stage.projectMeta
    rw [kept, coerced]
    show (Schema.resolve c (.modelled m) v).bind _ = _
    rw [resolved]
    rfl

/-- A document shows the names of the fields of a node.  Each field has one,
which is empty only if the field is hollow; the document is that of the node
over these names, and they stand in it in document order. -/
structure Node.ShowsNames (c : Catalog) (resolve : Resolver) (n : Node Value) (v : Value) :
    Prop where
  named : ∀ field ∈ n.fields, field.Named
  found : ∀ field ∈ n.fields,
    ∃ name, resolve field = .ok name ∧ (¬ field.Hollow → name.text ≠ "")
  renamed : (n.rename resolve.chosen).document (Schema.untyped.resolver c) = .ok v
  ordered : (n.fields.map (fun field => Value.ofWords (resolve.chosen field))).Sublist v.leaves

theorem Node.showsNames {c : Catalog} {s : Schema} {n : Node Value} {v : Value} (own : s.BuiltIn)
    (accepted : Accepted n) (written : n.document (s.resolver c) = .ok v) :
    n.ShowsNames c (s.resolver c) v := by
  obtain ⟨met, renamed⟩ := document_met c written
  refine ⟨?_, ?_, renamed, document_shows written⟩
  · intro field held
    exact accepted.allChecked _ (Demand.mem_fields.mp held)
  · intro field held
    obtain ⟨name, stored⟩ :=
      Demand.meet_name_ok.mp (Demand.meetAll_eq_ok.mp met _ (Demand.mem_fields.mp held))
    exact ⟨name, stored, fun solid => Field.name_ne_empty solid own stored⟩

/-- The search for a field is accepted if the field has a name. -/
theorem Accepted.existence {given : Value} {field : Field} (shown : given.asField? = some field)
    (named : field.Named) : Accepted (.operator (.existence field)) := by
  refine .made .existence [given] ?_ ?_
  · intro v held m part
    rw [List.mem_singleton.mp held] at part
    refine .other ?_
    intro own
    cases given with
    | node n =>
        rw [List.mem_singleton.mp part] at own
        cases n <;> first | exact own | cases shown
    | tuple items => cases shown
    | _ => cases part
  · have passed : Guard.field "path" given = .ok field := Guard.field_eq_ok.mpr ⟨shown, named⟩
    show ((Guard.field "path" given).bind (fun f => .ok (.existence f))).map Node.operator = _
    rw [passed]
    rfl

/-- A field has a name that is not empty in every document with a built-in schema. -/
def Field.NamedInDocuments (field : Field) : Prop :=
  ∀ (c : Catalog) (s : Schema) (n : Node Value) (v : Value), s.BuiltIn → Accepted n →
    field ∈ n.fields → n.document (s.resolver c) = .ok v →
      ∃ name, s.resolver c field = .ok name ∧ name.text ≠ ""

/-- A field that may be given to constructors has names that are not empty in
documents exactly when it is not hollow. -/
theorem Field.namedInDocuments_iff {given : Value} {field : Field}
    (shown : given.asField? = some field) (named : field.Named) :
    field.NamedInDocuments ↔ ¬ field.Hollow := by
  constructor
  · intro always hollow
    -- The search for a hollow field shows the empty name that some schema gives it.
    obtain ⟨c, s, name, own, stored, empty, -⟩ := hollow.empty_name
    have written : (Operator.existence field).render (s.resolver c) =
        .ok (.object [("exists", .object [("path", .ofWords name)])]) :=
      Outcome.bind_eq_ok.mpr ⟨name, stored, rfl⟩
    obtain ⟨other, same, some⟩ := always c s (.operator (.existence field)) _ own
      (.existence shown named) List.mem_cons_self written
    rw [stored] at same
    cases same
    exact some empty
  · intro solid c s n v own accepted held written
    obtain ⟨name, stored, some⟩ := (Node.showsNames own accepted written).found field held
    exact ⟨name, stored, some solid⟩

/-- Every document of an accepted node, under a built-in schema, shows the names
of its fields.  A text or reference that constructors take has names that are
not empty, in documents as in the projection of the metadata, exactly when it is
not hollow; the other projections check their names; and an empty text is
refused wherever else a field is taken. -/
theorem Field.names_in_documents (c : Catalog) (s : Schema) (given : Value) :
    (∀ (n : Node Value) (v : Value), s.BuiltIn → Accepted n →
      n.document (s.resolver c) = .ok v → n.ShowsNames c (s.resolver c) v) ∧
    (∀ field : Field, given.asField? = some field →
      (field.Named → (field.NamedInDocuments ↔ ¬ field.Hollow)) ∧
      (field.isCode = false → (Stage.NamedInMetadata given ↔ ¬ field.Hollow)) ∧
      (¬ field.Named → given.RefusedAsField)) ∧
    (∀ v, Stage.projectScore given = .ok v →
      ∃ key, key ≠ "" ∧ v = .object [(key, .object [("$meta", .text "searchScore")])]) ∧
    ∀ v, Stage.projectHighlights given = .ok v →
      ∃ key, key ≠ "" ∧ v = .object [(key, .object [("$meta", .text "searchHighlights")])] := by
  refine ⟨?_, ?_, fun _ => Stage.projection_named, fun _ => Stage.projection_named⟩
  · intro n v own accepted written
    exact Node.showsNames own accepted written
  · intro field shown
    refine ⟨?_, ?_, ?_⟩
    · exact Field.namedInDocuments_iff shown
    · exact Stage.namedInMetadata_iff shown
    · exact Value.refused_of_unnamed shown

/-- A title has a name in the document of a search for it, as in every other
document and projection, and an empty title is refused. -/
theorem Field.title_names_in_documents :
    Accepted (.operator (.existence (.name "title"))) ∧
      (Node.operator (.existence (.name "title"))).ShowsNames Catalog.empty
        (Schema.untyped.resolver Catalog.empty)
        (.object [("exists", .object [("path", .text "title")])]) ∧
      (Field.name "title").NamedInDocuments ∧ Stage.NamedInMetadata (.text "title") ∧
      (Value.text "").RefusedAsField := by
  have shown : (Value.text "title").asField? = some (.name "title") := rfl
  have named : (Field.name "title").Named := by
    show "title" ≠ ""
    decide
  have accepted : Accepted (.operator (.existence (.name "title"))) := .existence shown named
  obtain ⟨documents, fields, -, -⟩ := Field.names_in_documents .empty .untyped (.text "title")
  obtain ⟨inDocuments, inMetadata, -⟩ := fields _ shown
  obtain ⟨-, empty, -, -⟩ := Field.names_in_documents .empty .untyped (.text "")
  obtain ⟨-, -, refused⟩ := empty (.name "") rfl
  refine ⟨accepted, documents _ _ trivial accepted rfl, ?_, ?_, ?_⟩
  · exact (inDocuments named).mpr named
  · exact (inMetadata rfl).mpr named
  · exact refused (fun some => some rfl)

/-- The metadata is projected into the empty name when that is asked for. -/
theorem Stage.empty_not_namedInMetadata :
    projectMeta Catalog.empty (.text "") .null = .ok (.object [("", .text "$$SEARCH_META")]) ∧
      ¬ NamedInMetadata (.text "") := by
  have made : projectMeta Catalog.empty (.text "") .null =
      .ok (.object [("", .text "$$SEARCH_META")]) := rfl
  refine ⟨made, ?_⟩
  intro named
  obtain ⟨key, some, same⟩ := named _ _ .untyped _ rfl trivial made
  cases same
  exact some rfl

end SearchQuery
