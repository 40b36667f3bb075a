import SearchQuery.Proofs.Sound

/-!
# Builders keep definitions admissible

Every builder that is given sound values makes an admissible part, whatever
else it is given.  The strict builder of a part carries the argument; the
lenient one only makes its query and its path first.
-/

namespace SearchQuery

open Value (Sound)

namespace Query

theorem ofText_admissible {text : Value} {q : Query} (sound : text.Sound)
    (made : ofText text = .ok q) : q.Admissible := by
  obtain ⟨s, found, made⟩ := Outcome.bind_eq_ok.mp made
  cases made
  exact Guard.anyText_faithful sound found

theorem ofTexts_admissible {texts : Value} {q : Query} (sound : texts.Sound)
    (made : ofTexts texts = .ok q) : q.Admissible := by
  obtain ⟨items, given, more⟩ := Outcome.bind_eq_ok.mp made
  obtain ⟨words, found, made⟩ := Outcome.bind_eq_ok.mp more
  cases made
  exact Guard.each_all found (Guard.tuple_sound sound given)
    (fun _ _ held passed => Guard.anyText_faithful held passed)

/-- A query is admissible whatever it is made from. -/
theorem coerce_admissible {v : Value} {q : Query} (sound : v.Sound) (made : coerce v = .ok q) :
    q.Admissible := by
  unfold coerce at made
  split at made
  · cases made
    simpa only [Value.Sound, Node.Admissible] using sound
  · cases made
    intro scope given
    cases given
  · exact ofText_admissible sound made
  · cases made
  · split at made
    · rename_i items found
      exact ofTexts_admissible (sound.tuple found) made
    · cases made

end Query

namespace Path

theorem ofField_admissible {field : Value} {p : Path} (sound : field.Sound)
    (made : ofField field = .ok p) : p.Admissible := by
  obtain ⟨f, found, made⟩ := Outcome.bind_eq_ok.mp made
  cases made
  exact Guard.field_admissible sound found

theorem ofFields_admissible {fields : Value} {p : Path} (sound : fields.Sound)
    (made : ofFields fields = .ok p) : p.Admissible := by
  obtain ⟨items, given, more⟩ := Outcome.bind_eq_ok.mp made
  split at more
  · cases more
  · rename_i nonempty
    obtain ⟨found, passed, made⟩ := Outcome.bind_eq_ok.mp more
    cases made
    refine ⟨?_, Guard.each_all passed (Guard.tuple_sound sound given)
      (fun _ _ held one => Guard.field_admissible held one)⟩
    rintro rfl
    have none := Guard.each_length passed
    exact nonempty (List.isEmpty_iff.mpr (List.length_eq_zero_iff.mp none.symm))

theorem ofAnalyzer_admissible {field analyzer : Value} {p : Path} (sound : field.Sound)
    (soundAnalyzer : analyzer.Sound) (made : ofAnalyzer field analyzer = .ok p) :
    p.Admissible := by
  obtain ⟨f, found, more⟩ := Outcome.bind_eq_ok.mp made
  obtain ⟨a, foundAnalyzer, made⟩ := Outcome.bind_eq_ok.mp more
  cases made
  exact ⟨Guard.field_admissible sound found, Guard.text_proper soundAnalyzer foundAnalyzer⟩

theorem ofPattern_admissible {pattern : Value} {p : Path} (sound : pattern.Sound)
    (made : ofPattern pattern = .ok p) : p.Admissible := by
  obtain ⟨s, found, made⟩ := Outcome.bind_eq_ok.mp made
  cases made
  exact Guard.text_proper sound found

/-- A path is admissible whatever it is made from. -/
theorem coerce_admissible {v : Value} {p : Path} (sound : v.Sound) (made : coerce v = .ok p) :
    p.Admissible := by
  unfold coerce at made
  split at made
  · cases made
    simpa only [Value.Sound, Node.Admissible] using sound
  · exact ofField_admissible sound made
  · exact ofField_admissible sound made
  · exact ofField_admissible sound made
  · exact ofField_admissible sound made
  · cases made
  · split at made
    · rename_i items found
      exact ofFields_admissible (sound.tuple found) made
    · cases made

end Path

theorem Value.sound_path {p : Path} (admissible : p.Admissible) : (Value.node (.path p)).Sound := by
  simpa only [Value.Sound, Node.Admissible] using admissible

theorem Value.sound_query {q : Query} (admissible : q.Admissible) :
    (Value.node (.query q)).Sound := by
  simpa only [Value.Sound, Node.Admissible] using admissible

/-- Fuzzy settings that are accepted lie in their ranges. -/
theorem Fuzzy.build_admissible {maxEdits prefixLength maxExpansions : Value} {f : Fuzzy}
    (made : Fuzzy.build maxEdits prefixLength maxExpansions = .ok f) : f.Admissible := by
  obtain ⟨edits, foundEdits, more⟩ := Outcome.bind_eq_ok.mp made
  obtain ⟨kept, foundKept, more⟩ := Outcome.bind_eq_ok.mp more
  obtain ⟨expansions, foundExpansions, made⟩ := Outcome.bind_eq_ok.mp more
  cases made
  exact ⟨Guard.optional_all foundEdits (fun w inner => (Guard.integerBetween_eq_ok inner).2),
    Guard.optional_all foundKept (fun w inner => (Guard.naturalInteger_eq_ok inner).2),
    Guard.optional_all foundExpansions (fun w inner => (Guard.positiveInteger_eq_ok inner).2)⟩

namespace Geometry

section

variable {allowed : List String} {argument name : String} {v w : Value} {g : Geometry Value}
  {entries : List (Value × Value)}

/-- Entries with a type that cannot be hashed are refused by the host. -/
theorem build_unhashable (described : description argument v = .ok entries)
    (mutable : ((Value.lookup "type" entries).getD .null).hashable = false) :
    build allowed argument v = .error (.refused .wrongType) := by
  unfold build
  rw [described]
  simp only [Bind.bind, Except.bind, mutable]
  rfl

/-- Entries with an allowed type and with coordinates make a geometry. -/
theorem build_of_entries (described : description argument v = .ok entries)
    (typed : Value.lookup "type" entries = some (.text name)) (among : name ∈ allowed)
    (located : Value.lookup "coordinates" entries = some w) :
    build allowed argument v = .ok ⟨v, name, w.listify⟩ := by
  have hashable : (Value.text name).hashable = true := by
    simp [Value.hashable, Value.toTerm, Term.hashable]
  have contained : allowed.contains name = true := by simpa using among
  unfold build
  rw [described]
  simp only [Bind.bind, Except.bind, typed, Option.getD_some, hashable, contained, located]
  rfl

/-- Entries that make no geometry, with a type that cannot be written, are refused by the host. -/
theorem build_unwritten (described : description argument v = .ok entries)
    (hashed : ((Value.lookup "type" entries).getD .null).hashable = true)
    (long : ((Value.lookup "type" entries).getD .null).isWritable = false) :
    build allowed argument v = .error (.refused .badValue) := by
  unfold build
  rw [described]
  simp only [Bind.bind, Except.bind, hashed]
  cases named : (Value.lookup "type" entries).getD .null with
  | text name =>
      rw [named] at long
      cases long
  | _ =>
      rw [named] at long
      simp only [Fault.worded, long]
      rfl

/-- Entries with a type that is not allowed, or without coordinates, are refused with a report. -/
theorem build_refused (described : description argument v = .ok entries)
    (hashed : ((Value.lookup "type" entries).getD .null).hashable = true)
    (short : ((Value.lookup "type" entries).getD .null).isWritable = true)
    (other : ∀ name ∈ allowed, Value.lookup "type" entries = some (.text name) →
      Value.lookup "coordinates" entries = none) :
    ∃ reason, build allowed argument v = .error (.invalid argument v reason) := by
  unfold build
  rw [described]
  simp only [Bind.bind, Except.bind, hashed]
  cases named : (Value.lookup "type" entries).getD .null with
  | text name =>
      have typed : Value.lookup "type" entries = some (.text name) := by
        cases found : Value.lookup "type" entries with
        | none => rw [found] at named; cases named
        | some type => rw [found] at named; exact congrArg some named
      cases contained : allowed.contains name with
      | false =>
          refine ⟨.geometryType (Value.text name).shown allowed, ?_⟩
          simp only [contained]
          rfl
      | true =>
          refine ⟨.noCoordinates, ?_⟩
          simp only [contained, other name (by simpa using contained) typed]
          rfl
  | _ =>
      rw [named] at short
      simp only [Fault.worded, short]
      exact ⟨_, rfl⟩

/-- A value makes a geometry exactly when it is described by entries with an allowed type and with
coordinates; the geometry keeps the value, the type, and the coordinates with lists for tuples. -/
theorem build_eq_ok_iff :
    build allowed argument v = .ok g ↔ ∃ entries name w, description argument v = .ok entries ∧
      Value.lookup "type" entries = some (.text name) ∧ name ∈ allowed ∧
        Value.lookup "coordinates" entries = some w ∧ g = ⟨v, name, w.listify⟩ := by
  constructor
  · intro made
    obtain ⟨entries, described, -⟩ := Outcome.bind_eq_ok.mp made
    cases hashed : ((Value.lookup "type" entries).getD .null).hashable with
    | false =>
        rw [build_unhashable described hashed] at made
        cases made
    | true =>
        cases short : ((Value.lookup "type" entries).getD .null).isWritable with
        | false =>
            rw [build_unwritten described hashed short] at made
            cases made
        | true =>
            by_contra none
            obtain ⟨reason, refused⟩ : ∃ reason,
                build allowed argument v = .error (.invalid argument v reason) := by
              refine build_refused described hashed short (fun name among typed => ?_)
              cases located : Value.lookup "coordinates" entries with
              | none => rfl
              | some w =>
                  rw [build_of_entries described typed among located] at made
                  cases made
                  exact absurd ⟨entries, name, w, described, typed, among, located, rfl⟩ none
            rw [refused] at made
            cases made
  · rintro ⟨entries, name, w, described, typed, among, located, rfl⟩
    exact build_of_entries described typed among located

end

/-- A geometry keeps the value that it was made from, and has a type that is allowed. -/
theorem build_eq_ok {allowed : List String} {argument : String} {v : Value} {g : Geometry Value}
    (made : build allowed argument v = .ok g) : g.given = v ∧ g.type ∈ allowed := by
  obtain ⟨entries, name, w, -, -, among, -, rfl⟩ := build_eq_ok_iff.mp made
  exact ⟨rfl, among⟩

end Geometry

theorem Geometry.build_admissible {allowed : List String} {argument : String} {v : Value}
    {g : Geometry Value} (made : Geometry.build allowed argument v = .ok g) :
    g.Admissible argument allowed := by
  unfold Geometry.Admissible
  rw [(Geometry.build_eq_ok made).1]
  exact made

theorem GeoBox.build_admissible {bottomLeft topRight : Value} {b : GeoBox Value}
    (made : GeoBox.build bottomLeft topRight = .ok b) : b.Admissible := by
  obtain ⟨low, foundLow, more⟩ := Outcome.bind_eq_ok.mp made
  obtain ⟨high, foundHigh, made⟩ := Outcome.bind_eq_ok.mp more
  cases made
  exact ⟨Geometry.build_admissible foundLow, Geometry.build_admissible foundHigh⟩

theorem GeoCircle.build_admissible {center radius : Value} {c : GeoCircle Value}
    (made : GeoCircle.build center radius = .ok c) : c.Admissible := by
  obtain ⟨middle, foundCenter, more⟩ := Outcome.bind_eq_ok.mp made
  obtain ⟨r, foundRadius, made⟩ := Outcome.bind_eq_ok.mp more
  cases made
  exact ⟨Geometry.build_admissible foundCenter, (Guard.positive_eq_ok.mp foundRadius).2⟩

namespace ScoreFunction

theorem expect_admissible {argument : String} {v : Value} {f : ScoreFunction} (sound : v.Sound)
    (passed : expect argument v = .ok f) : f.Admissible := by
  have selected := Guard.expect_eq_ok passed
  split at selected
  · cases selected
    simpa only [Value.Sound, Node.Admissible] using sound
  · cases selected

theorem ofPath_admissible {path undefined : Value} {f : ScoreFunction} (sound : path.Sound)
    (made : ofPath path undefined = .ok f) : f.Admissible := by
  obtain ⟨p, found, more⟩ := Outcome.bind_eq_ok.mp made
  obtain ⟨u, -, made⟩ := Outcome.bind_eq_ok.mp more
  cases made
  simpa only [Admissible] using Guard.path_admissible sound found

theorem ofConstant_admissible {value : Value} {f : ScoreFunction}
    (made : ofConstant value = .ok f) : f.Admissible := by
  obtain ⟨x, -, made⟩ := Outcome.bind_eq_ok.mp made
  cases made
  simp only [Admissible]

/-- A combination that has a name is admissible: its operands are at least two. -/
theorem ofOperands_admissible {way : Combination} {children : Value} {f : ScoreFunction}
    (named : way ≠ .unnamed) (sound : children.Sound) (made : ofOperands way children = .ok f) :
    f.Admissible := by
  obtain ⟨fs, found, made⟩ := Outcome.bind_eq_ok.mp made
  cases made
  obtain ⟨items, given, more⟩ := Outcome.bind_eq_ok.mp found
  split at more
  · cases more
  · rename_i enough
    have passed : Guard.each (expect "children") items = .ok fs := more
    simp only [Admissible]
    refine ⟨named, ?_, allAdmissible_iff.mpr (Guard.each_all passed (Guard.tuple_sound sound given)
      (fun _ _ held one => expect_admissible held one))⟩
    rw [Guard.each_length passed]
    omega

theorem rate_eq_ok {argument : String} {v : Value} {x : Number} (passed : rate argument v = .ok x) :
    Number.lt (.int 0) x = true ∧ x.lt (.int 1) = true := by
  obtain ⟨y, -, kept⟩ := Outcome.bind_eq_ok.mp passed
  split at kept
  · rename_i inside
    cases kept
    exact Bool.and_eq_true_iff.mp inside
  · cases kept

theorem ofGauss_admissible {path origin scale decay offset : Value} {f : ScoreFunction}
    (sound : path.Sound) (made : ofGauss path origin scale decay offset = .ok f) :
    f.Admissible := by
  obtain ⟨p, found, more⟩ := Outcome.bind_eq_ok.mp made
  obtain ⟨o, -, more⟩ := Outcome.bind_eq_ok.mp more
  obtain ⟨s, foundScale, more⟩ := Outcome.bind_eq_ok.mp more
  obtain ⟨d, foundDecay, more⟩ := Outcome.bind_eq_ok.mp more
  obtain ⟨t, -, made⟩ := Outcome.bind_eq_ok.mp more
  cases made
  simp only [Admissible]
  exact ⟨Guard.path_admissible sound found, (Guard.positive_eq_ok.mp foundScale).2,
    Guard.optional_all foundDecay (fun x inner => rate_eq_ok inner)⟩

theorem ofOperand_admissible {way : Transform} {child : Value} {f : ScoreFunction}
    (named : way ≠ .unnamed) (sound : child.Sound) (made : ofOperand way child = .ok f) :
    f.Admissible := by
  obtain ⟨g, found, made⟩ := Outcome.bind_eq_ok.mp made
  cases made
  simp only [Admissible]
  exact ⟨named, expect_admissible sound found⟩

theorem makePath_admissible {path undefined : Value} {f : ScoreFunction} (sound : path.Sound)
    (made : makePath path undefined = .ok f) : f.Admissible := by
  obtain ⟨p, found, made⟩ := Outcome.bind_eq_ok.mp made
  exact ofPath_admissible (Value.sound_path (Path.coerce_admissible sound found)) made

theorem makeGauss_admissible {path origin scale decay offset : Value} {f : ScoreFunction}
    (sound : path.Sound) (made : makeGauss path origin scale decay offset = .ok f) :
    f.Admissible := by
  obtain ⟨p, found, made⟩ := Outcome.bind_eq_ok.mp made
  exact ofGauss_admissible (Value.sound_path (Path.coerce_admissible sound found)) made

end ScoreFunction

namespace Score

theorem ofBoost_admissible {value : Value} {s : Score} (made : ofBoost value = .ok s) :
    s.Admissible := by
  obtain ⟨x, found, made⟩ := Outcome.bind_eq_ok.mp made
  cases made
  exact (Guard.positive_eq_ok.mp found).2

theorem ofConstant_admissible {value : Value} {s : Score} (made : ofConstant value = .ok s) :
    s.Admissible := by
  obtain ⟨x, found, made⟩ := Outcome.bind_eq_ok.mp made
  cases made
  exact (Guard.positive_eq_ok.mp found).2

theorem ofFunction_admissible {function : Value} {s : Score} (sound : function.Sound)
    (made : ofFunction function = .ok s) : s.Admissible := by
  obtain ⟨f, found, made⟩ := Outcome.bind_eq_ok.mp made
  cases made
  exact ScoreFunction.expect_admissible sound found

theorem makeBoostPath_admissible {path undefined : Value} {s : Score} (sound : path.Sound)
    (made : makeBoostPath path undefined = .ok s) : s.Admissible := by
  obtain ⟨p, found, more⟩ := Outcome.bind_eq_ok.mp made
  obtain ⟨q, kept, more⟩ := Outcome.bind_eq_ok.mp more
  obtain ⟨u, -, made⟩ := Outcome.bind_eq_ok.mp more
  cases made
  exact Guard.path_admissible (Value.sound_path (Path.coerce_admissible sound found)) kept

end Score

namespace Span

theorem expect_admissible {argument : String} {v : Value} {s : Span} (sound : v.Sound)
    (passed : expect argument v = .ok s) : s.Admissible := by
  have selected := Guard.expect_eq_ok passed
  split at selected
  · cases selected
    simpa only [Value.Sound, Node.Admissible] using sound
  · cases selected

/-- Clauses that are accepted are some, and all of them are admissible. -/
theorem clauses_admissible {argument : String} {v : Value} {ss : List Span} (sound : v.Sound)
    (passed : clauses argument v = .ok ss) : ss ≠ [] ∧ AllAdmissible ss := by
  obtain ⟨items, given, more⟩ := Outcome.bind_eq_ok.mp passed
  split at more
  · cases more
  · rename_i nonempty
    have found : Guard.each (expect argument) items = .ok ss := more
    refine ⟨?_, allAdmissible_iff.mpr (Guard.each_all found (Guard.tuple_sound sound given)
      (fun _ _ held one => expect_admissible held one))⟩
    rintro rfl
    have none := Guard.each_length found
    exact nonempty (List.isEmpty_iff.mpr (List.length_eq_zero_iff.mp none.symm))

theorem makeTerm_admissible {query path : Value} {s : Span} (sound : query.Sound)
    (soundPath : path.Sound) (made : makeTerm query path = .ok s) : s.Admissible := by
  obtain ⟨q, found, more⟩ := Outcome.bind_eq_ok.mp made
  obtain ⟨p, foundPath, more⟩ := Outcome.bind_eq_ok.mp more
  obtain ⟨r, keptQuery, more⟩ := Outcome.bind_eq_ok.mp more
  obtain ⟨t, keptPath, made⟩ := Outcome.bind_eq_ok.mp more
  cases made
  simp only [Admissible]
  exact ⟨Guard.query_admissible (Value.sound_query (Query.coerce_admissible sound found)) keptQuery,
    Guard.path_admissible (Value.sound_path (Path.coerce_admissible soundPath foundPath)) keptPath⟩

theorem ofFirst_admissible {operator endPosition : Value} {s : Span} (sound : operator.Sound)
    (made : ofFirst operator endPosition = .ok s) : s.Admissible := by
  obtain ⟨inner, found, more⟩ := Outcome.bind_eq_ok.mp made
  obtain ⟨w, -, more⟩ := Outcome.bind_eq_ok.mp more
  split at more
  · cases more
  · rename_i enough
    cases more
    simp only [Admissible]
    exact ⟨expect_admissible sound found, by omega⟩

theorem ofNear_admissible {spans slop inOrder : Value} {s : Span} (sound : spans.Sound)
    (made : ofNear spans slop inOrder = .ok s) : s.Admissible := by
  obtain ⟨ss, found, more⟩ := Outcome.bind_eq_ok.mp made
  obtain ⟨w, natural, more⟩ := Outcome.bind_eq_ok.mp more
  obtain ⟨b, -, made⟩ := Outcome.bind_eq_ok.mp more
  cases made
  obtain ⟨some, all⟩ := clauses_admissible sound found
  simp only [Admissible]
  exact ⟨some, all, (Guard.naturalInteger_eq_ok natural).2⟩

theorem ofAlternatives_admissible {spans : Value} {s : Span} (sound : spans.Sound)
    (made : ofAlternatives spans = .ok s) : s.Admissible := by
  obtain ⟨ss, found, made⟩ := Outcome.bind_eq_ok.mp made
  cases made
  simp only [Admissible]
  exact clauses_admissible sound found

theorem ofSubtract_admissible {kept removed : Value} {s : Span} (sound : kept.Sound)
    (soundRemoved : removed.Sound) (made : ofSubtract kept removed = .ok s) : s.Admissible := by
  obtain ⟨k, found, more⟩ := Outcome.bind_eq_ok.mp made
  obtain ⟨r, foundRemoved, made⟩ := Outcome.bind_eq_ok.mp more
  cases made
  simp only [Admissible]
  exact ⟨expect_admissible sound found, expect_admissible soundRemoved foundRemoved⟩

theorem makeNear_admissible {spans slop inOrder : Value} {s : Span} (sound : spans.Sound)
    (made : makeNear spans slop inOrder = .ok s) : s.Admissible := by
  obtain ⟨items, found, made⟩ := Outcome.bind_eq_ok.mp made
  exact ofNear_admissible (sound.toItems found) made

end Span

namespace Facet

theorem expect_eq_ok {argument : String} {v : Value} {f : Facet} :
    expect argument v = .ok f ↔ v = .node (.facet f) := by
  constructor
  · intro passed
    have selected := Guard.expect_eq_ok passed
    split at selected
    · cases selected
      rfl
    · cases selected
  · rintro rfl
    rfl

theorem expect_admissible {argument : String} {v : Value} {f : Facet} (sound : v.Sound)
    (passed : expect argument v = .ok f) : f.Admissible := by
  have selected := Guard.expect_eq_ok passed
  split at selected
  · cases selected
    simpa only [Value.Sound, Node.Admissible] using sound
  · cases selected

theorem ofString_admissible {name path buckets : Value} {f : Facet} (sound : name.Sound)
    (soundPath : path.Sound) (made : ofString name path buckets = .ok f) : f.Admissible := by
  obtain ⟨n, found, more⟩ := Outcome.bind_eq_ok.mp made
  obtain ⟨p, foundPath, more⟩ := Outcome.bind_eq_ok.mp more
  obtain ⟨w, within, made⟩ := Outcome.bind_eq_ok.mp more
  cases made
  exact ⟨Guard.text_proper sound found, Guard.path_admissible soundPath foundPath,
    (Guard.integerBetween_eq_ok within).2⟩

/-- Boundaries that are accepted are at least two. -/
theorem two_le_boundaries {α : Type} {facet : String} {select : Value → Option α} {v : Value}
    {found : List α} (passed : boundaries facet select v = .ok found) : 2 ≤ found.length := by
  obtain ⟨items, -, more⟩ := Outcome.bind_eq_ok.mp passed
  split at more
  · cases more
  · rename_i enough
    rw [Guard.each_length more]
    omega

/-- A list of boundaries has no fault when every pair of neighbours compares and increases. -/
theorem firstDisorder_eq_none {α : Type} {comparable notBelow : α → α → Bool} {items : List α} :
    firstDisorder comparable notBelow items = none ↔
      items.IsChain (fun low high => comparable low high = true ∧ notBelow low high = false) := by
  induction items with
  | nil => simp [firstDisorder]
  | cons low rest ih =>
      cases rest with
      | nil => simp [firstDisorder]
      | cons high more =>
          rw [List.isChain_cons_cons, ← ih, firstDisorder]
          cases comparable low high <;> cases notBelow low high <;> simp

theorem outsideName_proper {v : Value} {outside : Option Words} (sound : v.Sound)
    (passed : outsideName v = .ok outside) : ∀ w ∈ outside, w.Proper :=
  Guard.optional_all passed (fun _ inner => Guard.text_proper sound inner)

theorem ofNumbers_admissible {name path bounds outside : Value} {f : Facet} (sound : name.Sound)
    (soundPath : path.Sound) (soundOutside : outside.Sound)
    (made : ofNumbers name path bounds outside = .ok f) : f.Admissible := by
  obtain ⟨n, found, more⟩ := Outcome.bind_eq_ok.mp made
  obtain ⟨p, foundPath, more⟩ := Outcome.bind_eq_ok.mp more
  obtain ⟨xs, foundBounds, more⟩ := Outcome.bind_eq_ok.mp more
  split at more
  · cases more
  · rename_i ordered
    obtain ⟨o, foundOutside, made⟩ := Outcome.bind_eq_ok.mp more
    cases made
    exact ⟨Guard.text_proper sound found, Guard.path_admissible soundPath foundPath,
      two_le_boundaries foundBounds,
      (firstDisorder_eq_none.mp ordered).imp (fun _ _ both => both.2),
      outsideName_proper soundOutside foundOutside⟩

theorem ofDates_admissible {name path bounds outside : Value} {f : Facet} (sound : name.Sound)
    (soundPath : path.Sound) (soundOutside : outside.Sound)
    (made : ofDates name path bounds outside = .ok f) : f.Admissible := by
  obtain ⟨n, found, more⟩ := Outcome.bind_eq_ok.mp made
  obtain ⟨p, foundPath, more⟩ := Outcome.bind_eq_ok.mp more
  obtain ⟨ts, foundBounds, more⟩ := Outcome.bind_eq_ok.mp more
  split at more
  · cases more
  · rename_i ordered
    obtain ⟨o, foundOutside, made⟩ := Outcome.bind_eq_ok.mp more
    cases made
    refine ⟨Guard.text_proper sound found, Guard.path_admissible soundPath foundPath,
      two_le_boundaries foundBounds, (firstDisorder_eq_none.mp ordered).imp ?_,
      outsideName_proper soundOutside foundOutside⟩
    rintro low high ⟨comparable, increasing⟩
    exact ⟨comparable, by simpa using increasing⟩

theorem makeString_admissible {name path buckets : Value} {f : Facet} (sound : name.Sound)
    (soundPath : path.Sound) (made : makeString name path buckets = .ok f) : f.Admissible := by
  obtain ⟨p, found, made⟩ := Outcome.bind_eq_ok.mp made
  exact ofString_admissible sound (Value.sound_path (Path.coerce_admissible soundPath found)) made

theorem makeNumbers_admissible {name path bounds outside : Value} {f : Facet} (sound : name.Sound)
    (soundPath : path.Sound) (soundOutside : outside.Sound)
    (made : makeNumbers name path bounds outside = .ok f) : f.Admissible := by
  obtain ⟨p, found, more⟩ := Outcome.bind_eq_ok.mp made
  obtain ⟨items, -, made⟩ := Outcome.bind_eq_ok.mp more
  exact ofNumbers_admissible sound
    (Value.sound_path (Path.coerce_admissible soundPath found)) soundOutside made

theorem makeDates_admissible {name path bounds outside : Value} {f : Facet} (sound : name.Sound)
    (soundPath : path.Sound) (soundOutside : outside.Sound)
    (made : makeDates name path bounds outside = .ok f) : f.Admissible := by
  obtain ⟨p, found, more⟩ := Outcome.bind_eq_ok.mp made
  obtain ⟨items, -, made⟩ := Outcome.bind_eq_ok.mp more
  exact ofDates_admissible sound
    (Value.sound_path (Path.coerce_admissible soundPath found)) soundOutside made

theorem distinctNames_cons (seen : List String) (v : Value) (rest : List Value) :
    distinctNames seen (v :: rest) = (expect "facets" v).bind (fun f =>
      if f.name.isCode then .error (.refused .wrongType)
      else if seen.contains f.name.text then
        .error (.invalid "facets" (.text f.name.text) (.duplicateFacet f.name.text))
      else (distinctNames (f.name.text :: seen) rest).map (fun others => f :: others)) := by
  rw [distinctNames]
  cases expect "facets" v with
  | error fault => rfl
  | ok f =>
      show (if f.name.isCode = true then _ else _) = if f.name.isCode = true then _ else _
      split
      · rfl
      · show (if seen.contains f.name.text = true then _ else _) =
          if seen.contains f.name.text = true then _ else _
        split
        · rfl
        · cases distinctNames (f.name.text :: seen) rest <;> rfl

/-- Going through facets carries the names seen so far.  What passes are facets of which none is
named by code, under names that differ from these and from each other. -/
theorem distinctNames_eq_ok {seen : List String} {items : List Value} {fs : List Facet} :
    distinctNames seen items = .ok fs ↔ items = fs.map (fun f => .node (.facet f)) ∧
      (∀ f ∈ fs, f.name.isCode = false) ∧ (fs.map (fun f => f.name.text)).Nodup ∧
        ∀ f ∈ fs, f.name.text ∉ seen := by
  induction items generalizing seen fs with
  | nil =>
      constructor
      · rintro ⟨⟩
        simp
      · rintro ⟨none, -⟩
        rw [List.map_eq_nil_iff.mp none.symm]
        rfl
  | cons v rest ih =>
      rw [distinctNames_cons]
      constructor
      · intro passed
        obtain ⟨f, found, more⟩ := Outcome.bind_eq_ok.mp passed
        obtain rfl := expect_eq_ok.mp found
        split at more
        · cases more
        · rename_i plain
          split at more
          · cases more
          · rename_i fresh
            obtain ⟨others, later, rfl⟩ := Outcome.map_eq_ok.mp more
            obtain ⟨rfl, plainRest, distinct, apart⟩ := ih.mp later
            refine ⟨rfl, List.forall_mem_cons.mpr ⟨by simpa using plain, plainRest⟩, ?_, ?_⟩
            · refine List.nodup_cons.mpr ⟨fun twice => ?_, distinct⟩
              obtain ⟨g, held, same⟩ := List.mem_map.mp twice
              exact apart g held (same ▸ List.mem_cons_self)
            · refine List.forall_mem_cons.mpr ⟨by simpa using fresh, fun g held before => ?_⟩
              exact apart g held (List.mem_cons_of_mem _ before)
      · rintro ⟨shape, plain, distinct, apart⟩
        cases fs with
        | nil => cases shape
        | cons f others =>
            obtain ⟨rfl, rfl⟩ := List.cons.inj shape
            obtain ⟨once, distinctRest⟩ := List.nodup_cons.mp distinct
            have later : distinctNames (f.name.text :: seen) (others.map (fun f => .node (.facet f))) =
                .ok others := by
              refine ih.mpr ⟨rfl, (List.forall_mem_cons.mp plain).2, distinctRest, ?_⟩
              intro g held twice
              rcases List.mem_cons.mp twice with same | before
              · exact once (List.mem_map.mpr ⟨g, held, same⟩)
              · exact (List.forall_mem_cons.mp apart).2 g held before
            have fresh : seen.contains f.name.text = false := by
              simpa using (List.forall_mem_cons.mp apart).1
            rw [expect_eq_ok.mpr rfl]
            show (if f.name.isCode = true then _ else _) = _
            rw [(List.forall_mem_cons.mp plain).1, fresh, later]
            rfl

end Facet

end SearchQuery
