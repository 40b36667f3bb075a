import SearchQuery.Proofs.Builders

/-!
# Builders keep operators admissible

Operators are built from admissible parts and from operators.  A range is
begun with one bound and completed with the other, and a compound grows by
one call after another; either way every step gives an admissible operator.
-/

namespace SearchQuery

open Value (Sound)

namespace Operator

theorem ofText_admissible {query path fuzzy score : Value} {op : Operator Value}
    (sound : query.Sound) (soundPath : path.Sound) (soundFuzzy : fuzzy.Sound)
    (soundScore : score.Sound) (made : ofText query path fuzzy score = .ok op) :
    op.Admissible := by
  obtain ⟨q, found, more⟩ := Outcome.bind_eq_ok.mp made
  obtain ⟨p, foundPath, more⟩ := Outcome.bind_eq_ok.mp more
  obtain ⟨f, foundFuzzy, more⟩ := Outcome.bind_eq_ok.mp more
  obtain ⟨s, foundScore, made⟩ := Outcome.bind_eq_ok.mp more
  cases made
  simp only [Admissible]
  exact ⟨Guard.query_admissible sound found, Guard.path_admissible soundPath foundPath,
    Guard.fuzzy_admissible soundFuzzy foundFuzzy, Guard.score_admissible soundScore foundScore⟩

theorem makeText_admissible {query path fuzzy score : Value} {op : Operator Value}
    (sound : query.Sound) (soundPath : path.Sound) (soundFuzzy : fuzzy.Sound)
    (soundScore : score.Sound) (made : makeText query path fuzzy score = .ok op) :
    op.Admissible := by
  obtain ⟨q, found, more⟩ := Outcome.bind_eq_ok.mp made
  obtain ⟨p, foundPath, made⟩ := Outcome.bind_eq_ok.mp more
  exact ofText_admissible (Value.sound_query (Query.coerce_admissible sound found))
    (Value.sound_path (Path.coerce_admissible soundPath foundPath)) soundFuzzy soundScore made

theorem ofPhrase_admissible {query path slop score : Value} {op : Operator Value}
    (sound : query.Sound) (soundPath : path.Sound) (soundScore : score.Sound)
    (made : ofPhrase query path slop score = .ok op) : op.Admissible := by
  obtain ⟨q, found, more⟩ := Outcome.bind_eq_ok.mp made
  obtain ⟨p, foundPath, more⟩ := Outcome.bind_eq_ok.mp more
  obtain ⟨n, natural, more⟩ := Outcome.bind_eq_ok.mp more
  obtain ⟨s, foundScore, made⟩ := Outcome.bind_eq_ok.mp more
  cases made
  simp only [Admissible]
  exact ⟨Guard.query_admissible sound found, Guard.path_admissible soundPath foundPath,
    (Guard.naturalInteger_eq_ok natural).2, Guard.score_admissible soundScore foundScore⟩

theorem makePhrase_admissible {query path slop score : Value} {op : Operator Value}
    (sound : query.Sound) (soundPath : path.Sound) (soundScore : score.Sound)
    (made : makePhrase query path slop score = .ok op) : op.Admissible := by
  obtain ⟨q, found, more⟩ := Outcome.bind_eq_ok.mp made
  obtain ⟨p, foundPath, made⟩ := Outcome.bind_eq_ok.mp more
  exact ofPhrase_admissible (Value.sound_query (Query.coerce_admissible sound found))
    (Value.sound_path (Path.coerce_admissible soundPath foundPath)) soundScore made

theorem ofAutocomplete_admissible {query path order fuzzy score : Value} {op : Operator Value}
    (sound : query.Sound) (soundPath : path.Sound) (soundFuzzy : fuzzy.Sound)
    (soundScore : score.Sound) (made : ofAutocomplete query path order fuzzy score = .ok op) :
    op.Admissible := by
  obtain ⟨q, found, more⟩ := Outcome.bind_eq_ok.mp made
  obtain ⟨p, foundPath, more⟩ := Outcome.bind_eq_ok.mp more
  obtain ⟨o, -, more⟩ := Outcome.bind_eq_ok.mp more
  obtain ⟨f, foundFuzzy, more⟩ := Outcome.bind_eq_ok.mp more
  obtain ⟨s, foundScore, made⟩ := Outcome.bind_eq_ok.mp more
  cases made
  simp only [Admissible]
  exact ⟨Guard.query_admissible sound found, Guard.path_admissible soundPath foundPath,
    Guard.fuzzy_admissible soundFuzzy foundFuzzy, Guard.score_admissible soundScore foundScore⟩

theorem makeAutocomplete_admissible {query path order fuzzy score : Value} {op : Operator Value}
    (sound : query.Sound) (soundPath : path.Sound) (soundFuzzy : fuzzy.Sound)
    (soundScore : score.Sound) (made : makeAutocomplete query path order fuzzy score = .ok op) :
    op.Admissible := by
  obtain ⟨q, found, more⟩ := Outcome.bind_eq_ok.mp made
  obtain ⟨p, foundPath, made⟩ := Outcome.bind_eq_ok.mp more
  exact ofAutocomplete_admissible (Value.sound_query (Query.coerce_admissible sound found))
    (Value.sound_path (Path.coerce_admissible soundPath foundPath)) soundFuzzy soundScore made

/-- A pattern operator that has a name is admissible. -/
theorem makePattern_admissible {form : PatternForm} {query path analyzed score : Value}
    {op : Operator Value} (named : form ≠ .unnamed) (sound : query.Sound) (soundPath : path.Sound)
    (soundScore : score.Sound) (made : makePattern form query path analyzed score = .ok op) :
    op.Admissible := by
  obtain ⟨q, found, more⟩ := Outcome.bind_eq_ok.mp made
  obtain ⟨p, foundPath, more⟩ := Outcome.bind_eq_ok.mp more
  obtain ⟨r, keptQuery, more⟩ := Outcome.bind_eq_ok.mp more
  obtain ⟨t, keptPath, more⟩ := Outcome.bind_eq_ok.mp more
  obtain ⟨a, -, more⟩ := Outcome.bind_eq_ok.mp more
  obtain ⟨s, foundScore, made⟩ := Outcome.bind_eq_ok.mp more
  cases made
  simp only [Admissible]
  exact ⟨named,
    Guard.query_admissible (Value.sound_query (Query.coerce_admissible sound found)) keptQuery,
    Guard.path_admissible (Value.sound_path (Path.coerce_admissible soundPath foundPath)) keptPath,
    Guard.score_admissible soundScore foundScore⟩

theorem ofQueryString_admissible {field query score : Value} {op : Operator Value}
    (sound : field.Sound) (soundQuery : query.Sound) (soundScore : score.Sound)
    (made : ofQueryString field query score = .ok op) : op.Admissible := by
  obtain ⟨f, found, more⟩ := Outcome.bind_eq_ok.mp made
  obtain ⟨q, foundQuery, more⟩ := Outcome.bind_eq_ok.mp more
  obtain ⟨s, foundScore, made⟩ := Outcome.bind_eq_ok.mp more
  cases made
  simp only [Admissible]
  exact ⟨Guard.field_admissible sound found, Guard.anyText_faithful soundQuery foundQuery,
    Guard.score_admissible soundScore foundScore⟩

theorem ofEquals_admissible {path value score : Value} {op : Operator Value} (sound : path.Sound)
    (soundScore : score.Sound) (made : ofEquals path value score = .ok op) : op.Admissible := by
  obtain ⟨f, found, more⟩ := Outcome.bind_eq_ok.mp made
  obtain ⟨v, -, more⟩ := Outcome.bind_eq_ok.mp more
  obtain ⟨s, foundScore, made⟩ := Outcome.bind_eq_ok.mp more
  cases made
  simp only [Admissible]
  exact ⟨Guard.field_admissible sound found, Guard.score_admissible soundScore foundScore⟩

theorem ofExistence_admissible {path : Value} {op : Operator Value} (sound : path.Sound)
    (made : ofExistence path = .ok op) : op.Admissible := by
  obtain ⟨f, found, made⟩ := Outcome.bind_eq_ok.mp made
  cases made
  simp only [Admissible]
  exact Guard.field_admissible sound found

theorem makeNear_admissible {path origin pivot score : Value} {op : Operator Value}
    (sound : path.Sound) (soundScore : score.Sound)
    (made : makeNear path origin pivot score = .ok op) : op.Admissible := by
  obtain ⟨p, found, more⟩ := Outcome.bind_eq_ok.mp made
  obtain ⟨q, kept, more⟩ := Outcome.bind_eq_ok.mp more
  obtain ⟨o, -, more⟩ := Outcome.bind_eq_ok.mp more
  obtain ⟨x, -, more⟩ := Outcome.bind_eq_ok.mp more
  obtain ⟨s, foundScore, made⟩ := Outcome.bind_eq_ok.mp more
  cases made
  simp only [Admissible]
  exact ⟨Guard.path_admissible (Value.sound_path (Path.coerce_admissible sound found)) kept,
    Guard.score_admissible soundScore foundScore⟩

theorem box_admissible {argument : String} {v : Value} {b : GeoBox Value} (sound : v.Sound)
    (passed : Operator.box argument v = .ok b) : b.Admissible := by
  have selected := Guard.expect_eq_ok passed
  split at selected
  · cases selected
    simpa only [Value.Sound, Node.Admissible] using sound
  · cases selected

theorem circle_admissible {argument : String} {v : Value} {c : GeoCircle Value} (sound : v.Sound)
    (passed : Operator.circle argument v = .ok c) : c.Admissible := by
  have selected := Guard.expect_eq_ok passed
  split at selected
  · cases selected
    simpa only [Value.Sound, Node.Admissible] using sound
  · cases selected

theorem area_admissible {geometry box circle : Value} {a : Area Value} (sound : box.Sound)
    (soundCircle : circle.Sound) (passed : area geometry box circle = .ok a) : a.Admissible := by
  unfold area at passed
  split at passed
  · split at passed
    · cases passed
    · obtain ⟨g, found, made⟩ := Outcome.bind_eq_ok.mp passed
      cases made
      exact Geometry.build_admissible found
  · obtain ⟨b, found, made⟩ := Outcome.bind_eq_ok.mp passed
    cases made
    exact box_admissible sound found
  · obtain ⟨c, found, made⟩ := Outcome.bind_eq_ok.mp passed
    cases made
    exact circle_admissible soundCircle found
  · cases passed
  · cases passed
  · cases passed
  · cases passed

theorem ofGeoWithin_admissible {path geometry box circle score : Value} {op : Operator Value}
    (sound : path.Sound) (soundBox : box.Sound) (soundCircle : circle.Sound)
    (soundScore : score.Sound) (made : ofGeoWithin path geometry box circle score = .ok op) :
    op.Admissible := by
  obtain ⟨p, found, more⟩ := Outcome.bind_eq_ok.mp made
  obtain ⟨a, foundArea, more⟩ := Outcome.bind_eq_ok.mp more
  obtain ⟨s, foundScore, made⟩ := Outcome.bind_eq_ok.mp more
  cases made
  simp only [Admissible]
  exact ⟨Guard.path_admissible sound found, area_admissible soundBox soundCircle foundArea,
    Guard.score_admissible soundScore foundScore⟩

theorem sound_null : Value.null.Sound := by
  simp only [Value.Sound]

theorem makeGeoWithin_admissible {path geometry score : Value} {op : Operator Value}
    (sound : path.Sound) (soundScore : score.Sound)
    (made : makeGeoWithin path geometry score = .ok op) : op.Admissible := by
  obtain ⟨p, found, made⟩ := Outcome.bind_eq_ok.mp made
  exact ofGeoWithin_admissible (Value.sound_path (Path.coerce_admissible sound found)) sound_null
    sound_null soundScore made

theorem makeGeoWithinBox_admissible {path box score : Value} {op : Operator Value}
    (sound : path.Sound) (soundBox : box.Sound) (soundScore : score.Sound)
    (made : makeGeoWithinBox path box score = .ok op) : op.Admissible := by
  obtain ⟨p, found, made⟩ := Outcome.bind_eq_ok.mp made
  exact ofGeoWithin_admissible (Value.sound_path (Path.coerce_admissible sound found)) soundBox
    sound_null soundScore made

theorem makeGeoWithinCircle_admissible {path circle score : Value} {op : Operator Value}
    (sound : path.Sound) (soundCircle : circle.Sound) (soundScore : score.Sound)
    (made : makeGeoWithinCircle path circle score = .ok op) : op.Admissible := by
  obtain ⟨p, found, made⟩ := Outcome.bind_eq_ok.mp made
  exact ofGeoWithin_admissible (Value.sound_path (Path.coerce_admissible sound found)) sound_null
    soundCircle soundScore made

theorem makeGeoShape_admissible {path geometry relation score : Value} {op : Operator Value}
    (sound : path.Sound) (soundScore : score.Sound)
    (made : makeGeoShape path geometry relation score = .ok op) : op.Admissible := by
  obtain ⟨p, found, more⟩ := Outcome.bind_eq_ok.mp made
  obtain ⟨q, kept, more⟩ := Outcome.bind_eq_ok.mp more
  obtain ⟨g, foundShape, more⟩ := Outcome.bind_eq_ok.mp more
  obtain ⟨r, -, more⟩ := Outcome.bind_eq_ok.mp more
  obtain ⟨s, foundScore, made⟩ := Outcome.bind_eq_ok.mp more
  cases made
  simp only [Admissible]
  exact ⟨Guard.path_admissible (Value.sound_path (Path.coerce_admissible sound found)) kept,
    Geometry.build_admissible foundShape, Guard.score_admissible soundScore foundScore⟩

theorem ofSpan_admissible {definition : Value} {op : Operator Value} (sound : definition.Sound)
    (made : ofSpan definition = .ok op) : op.Admissible := by
  obtain ⟨s, found, made⟩ := Outcome.bind_eq_ok.mp made
  cases made
  simp only [Admissible]
  exact Span.expect_admissible sound found

theorem ofFacets_admissible {operator facets : Value} {op : Operator Value}
    (sound : operator.Sound) (soundFacets : facets.Sound)
    (made : ofFacets operator facets = .ok op) : op.Admissible := by
  obtain ⟨inner, found, more⟩ := Outcome.bind_eq_ok.mp made
  obtain ⟨items, given, more⟩ := Outcome.bind_eq_ok.mp more
  split at more
  · cases more
  · rename_i nonempty
    obtain ⟨fs, distinct, made⟩ := Outcome.bind_eq_ok.mp more
    cases made
    obtain ⟨rfl, plain, nodup, -⟩ := Facet.distinctNames_eq_ok.mp distinct
    simp only [Admissible]
    refine ⟨Guard.operator_admissible sound found, ?_, fun f held => ⟨?_, plain f held⟩, nodup⟩
    · rintro rfl
      exact nonempty rfl
    · have soundFacet := Guard.tuple_sound soundFacets given _ (List.mem_map_of_mem held)
      exact Facet.expect_admissible soundFacet (Facet.expect_eq_ok.mpr rfl : Facet.expect "facets" _ = _)

end Operator

namespace Range

theorem start_admissible {path score : Value} {s : Start} (sound : path.Sound)
    (soundScore : score.Sound) (made : start path score = .ok s) :
    s.path.Admissible ∧ ∀ t ∈ s.score, t.Admissible := by
  obtain ⟨p, found, more⟩ := Outcome.bind_eq_ok.mp made
  obtain ⟨t, foundScore, made⟩ := Outcome.bind_eq_ok.mp more
  cases made
  exact ⟨Guard.path_admissible sound found, Guard.score_admissible soundScore foundScore⟩

theorem make_admissible {path score : Value} {s : Start} (sound : path.Sound)
    (soundScore : score.Sound) (made : make path score = .ok s) :
    s.path.Admissible ∧ ∀ t ∈ s.score, t.Admissible := by
  obtain ⟨p, found, made⟩ := Outcome.bind_eq_ok.mp made
  exact start_admissible (Value.sound_path (Path.coerce_admissible sound found)) soundScore made

/-- A bound that is accepted keeps the value that says whether it is taken in. -/
theorem bound_eq_ok {argument : String} {value inclusive : Value} {found : Option (Bound Value)}
    (passed : bound argument (.node (.bound value inclusive)) = .ok found) :
    ∃ b, found = some b ∧ b.inclusive = inclusive := by
  obtain ⟨loose, selected, more⟩ := Outcome.bind_eq_ok.mp passed
  obtain ⟨b, checked, made⟩ := Outcome.bind_eq_ok.mp more
  have same := Guard.expect_eq_ok selected
  cases same
  cases made
  refine ⟨b, rfl, ?_⟩
  unfold LooseBound.check at checked
  split at checked
  · cases checked
    rfl
  · cases checked
    rfl
  · cases checked

/-- A bound that was accepted before is accepted again as it is. -/
theorem bound_ofBound {argument : String} {found bound : Option (Bound Value)}
    (passed : Range.bound argument (.ofBound bound) = .ok found) : found = bound := by
  rcases bound with _ | ⟨limit, inclusive⟩
  · cases passed
    rfl
  · cases limit <;>
      · cases passed
        rfl

/-- A range that is built has its path and score, and the bounds that passed. -/
theorem build_eq_ok {form : RangeForm} {path lower upper score : Value} {op : Operator Value}
    (made : build form path lower upper score = .ok op) :
    ∃ p low high s, op = .range form p low high s ∧ Guard.path "path" path = .ok p ∧
      Guard.score score = .ok s ∧ bound "lower" lower = .ok low ∧ bound "upper" upper = .ok high ∧
        agree low high = true := by
  obtain ⟨p, found, more⟩ := Outcome.bind_eq_ok.mp made
  split at more
  · cases more
  · obtain ⟨low, foundLow, more⟩ := Outcome.bind_eq_ok.mp more
    obtain ⟨high, foundHigh, more⟩ := Outcome.bind_eq_ok.mp more
    cases agreed : agree low high with
    | false =>
        simp only [agreed] at more
        cases more
    | true =>
        simp only [agreed] at more
        obtain ⟨s, foundScore, made⟩ := Outcome.bind_eq_ok.mp more
        cases made
        exact ⟨p, low, high, s, rfl, found, foundScore, foundLow, foundHigh, agreed⟩

theorem sound_ofScore {score : Option Score} (admissible : ∀ s ∈ score, s.Admissible) :
    (Value.ofScore score).Sound := by
  cases score with
  | none => simp only [Value.ofScore, Value.ofOption, Value.Sound]
  | some s =>
      simpa only [Value.ofScore, Value.ofOption, Value.Sound, Node.Admissible] using
        admissible s rfl

/-- A range with one bound is admissible. -/
theorem first_admissible {start : Start} {side : Side} {value : Value} {op : Operator Value}
    (admissible : start.path.Admissible) (scored : ∀ s ∈ start.score, s.Admissible)
    (made : first start side value = .ok op) : op.Admissible := by
  cases side with
  | lower inclusive =>
      simp only [first] at made
      obtain ⟨p, low, high, s, rfl, found, foundScore, foundLow, foundHigh, agreed⟩ :=
        build_eq_ok made
      obtain ⟨b, rfl, flag⟩ := bound_eq_ok foundLow
      cases foundHigh
      simp only [Operator.Admissible]
      refine ⟨Guard.path_admissible (Value.sound_path admissible) found,
        ⟨⟨rfl, rfl⟩, ?_, by simp, agreed⟩,
        Guard.score_admissible (sound_ofScore scored) foundScore⟩
      intro c held
      cases held
      exact ⟨inclusive, flag⟩
  | upper inclusive =>
      simp only [first] at made
      obtain ⟨p, low, high, s, rfl, found, foundScore, foundLow, foundHigh, agreed⟩ :=
        build_eq_ok made
      obtain ⟨b, rfl, flag⟩ := bound_eq_ok foundHigh
      cases foundLow
      simp only [Operator.Admissible]
      refine ⟨Guard.path_admissible (Value.sound_path admissible) found,
        ⟨⟨rfl, rfl⟩, by simp, ?_, agreed⟩,
        Guard.score_admissible (sound_ofScore scored) foundScore⟩
      intro c held
      cases held
      exact ⟨inclusive, flag⟩

/-- A range that gets its other bound stays admissible. -/
theorem second?_admissible {form : RangeForm} {path : Path} {lower upper : Option (Bound Value)}
    {score : Option Score} {side : Side} {value : Value} {op : Operator Value}
    (admissible : (Operator.range form path lower upper score).Admissible)
    (made : second? form path lower upper score side value = some (.ok op)) : op.Admissible := by
  simp only [Operator.Admissible] at admissible
  obtain ⟨soundPath, admits, scored⟩ := admissible
  unfold second? at made
  split at made
  · rename_i inclusive
    obtain ⟨p, low, high, s, rfl, found, foundScore, foundLow, foundHigh, agreed⟩ :=
      build_eq_ok (Option.some.inj made)
    cases bound_ofBound foundLow
    obtain ⟨b, rfl, flag⟩ := bound_eq_ok foundHigh
    simp only [Operator.Admissible]
    refine ⟨Guard.path_admissible (Value.sound_path soundPath) found,
      ⟨⟨admits.bounds.1, rfl⟩, admits.lowerFlag, ?_, agreed⟩,
      Guard.score_admissible (sound_ofScore scored) foundScore⟩
    intro c held
    cases held
    exact ⟨inclusive, flag⟩
  · rename_i inclusive
    obtain ⟨p, low, high, s, rfl, found, foundScore, foundLow, foundHigh, agreed⟩ :=
      build_eq_ok (Option.some.inj made)
    cases bound_ofBound foundHigh
    obtain ⟨b, rfl, flag⟩ := bound_eq_ok foundLow
    simp only [Operator.Admissible]
    refine ⟨Guard.path_admissible (Value.sound_path soundPath) found,
      ⟨⟨rfl, admits.bounds.2⟩, ?_, admits.upperFlag, agreed⟩,
      Guard.score_admissible (sound_ofScore scored) foundScore⟩
    intro c held
    cases held
    exact ⟨inclusive, flag⟩
  · cases made

end Range

namespace Compound

/-- A new compound has no list of clauses, needs none of them, and has the score it was given. -/
theorem make_eq (score : Value) : make score =
    (Guard.score score).map (fun s => .compound none none none none (.int 0) s) := by
  have plain : make score = (Guard.score score).bind
      (fun s => .ok (.compound none none none none (.int 0) s)) := rfl
  rw [plain]
  cases Guard.score score <;> rfl

theorem make_admissible {score : Value} {op : Operator Value} (sound : score.Sound)
    (made : make score = .ok op) : op.Admissible := by
  rw [make_eq] at made
  obtain ⟨s, foundScore, rfl⟩ := Outcome.map_eq_ok.mp made
  simp only [Operator.Admissible, Operator.ClausesAdmissible]
  exact ⟨trivial, trivial, trivial, trivial, Int.le_refl 0,
    Guard.score_admissible sound foundScore⟩

/-- The clauses of one call are some, and all of them are admissible. -/
theorem clauses_admissible {argument : String} {given : List Value} {ops : List (Operator Value)}
    (sound : ∀ v ∈ given, v.Sound) (passed : clauses argument given = .ok ops) :
    ops ≠ [] ∧ ∀ op ∈ ops, op.Admissible := by
  have items : ∀ v ∈ candidates given, v.Sound := by
    unfold candidates
    split
    · rename_i only
      cases elements : only.elements? with
      | none => simpa [elements] using sound
      | some inner =>
          exact (sound only List.mem_cons_self).elements elements
    · exact sound
  simp only [clauses] at passed
  split at passed
  · cases passed
  · rename_i nonempty
    have found : Guard.each (Guard.operator argument) (candidates given) = .ok ops := passed
    refine ⟨?_, Guard.each_all found items (fun _ _ held one => Guard.operator_admissible held one)⟩
    rintro rfl
    have none := Guard.each_length found
    exact nonempty (List.isEmpty_iff.mpr (List.length_eq_zero_iff.mp none.symm))

theorem append_admissible {existing : Option (List (Operator Value))} {more : List (Operator Value)}
    (admissible : Operator.ClausesAdmissible existing) (nonempty : more ≠ [])
    (all : ∀ op ∈ more, op.Admissible) : Operator.ClausesAdmissible (append existing more) := by
  simp only [append, Operator.ClausesAdmissible, Operator.allAdmissible_iff]
  refine ⟨by simp [nonempty], ?_⟩
  intro op held
  rcases List.mem_append.mp held with before | added
  · cases existing with
    | none => cases before
    | some old =>
        simp only [Operator.ClausesAdmissible, Operator.allAdmissible_iff] at admissible
        exact admissible.2 op before
  · exact all op added

/-- A compound that gets more clauses stays admissible. -/
theorem add_admissible {role : Role} {given : List Value} {op grown : Operator Value}
    (sound : ∀ v ∈ given, v.Sound) (admissible : op.Admissible)
    (made : add role given op = .ok grown) : grown.Admissible := by
  unfold add at made
  split at made
  · obtain ⟨more, passed, made⟩ := Outcome.bind_eq_ok.mp made
    obtain ⟨nonempty, all⟩ := clauses_admissible sound passed
    simp only [Operator.Admissible] at admissible
    obtain ⟨must, mustNot, should, filter, rest⟩ := admissible
    cases role with
    | must =>
        cases made
        simp only [Operator.Admissible]
        exact ⟨append_admissible must nonempty all, mustNot, should, filter, rest⟩
    | mustNot =>
        cases made
        simp only [Operator.Admissible]
        exact ⟨must, append_admissible mustNot nonempty all, should, filter, rest⟩
    | should =>
        cases made
        simp only [Operator.Admissible]
        exact ⟨must, mustNot, append_admissible should nonempty all, filter, rest⟩
    | filter =>
        cases made
        simp only [Operator.Admissible]
        exact ⟨must, mustNot, should, append_admissible filter nonempty all, rest⟩
  · cases made
    exact admissible

theorem atLeast_admissible {minimum : Value} {op changed : Operator Value}
    (admissible : op.Admissible) (made : atLeast minimum op = .ok changed) :
    changed.Admissible := by
  unfold atLeast at made
  split at made
  · obtain ⟨least, natural, made⟩ := Outcome.bind_eq_ok.mp made
    cases made
    simp only [Operator.Admissible] at admissible ⊢
    obtain ⟨must, mustNot, should, filter, -, scored⟩ := admissible
    exact ⟨must, mustNot, should, filter, (Guard.naturalInteger_eq_ok natural).2, scored⟩
  · cases made
    exact admissible

end Compound

end SearchQuery
