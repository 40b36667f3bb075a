import SearchQuery.Proofs.Factories

/-!
# What building can fail with

Every factory, method and class of options checks what it is given and reports
what it refuses as an argument.  The checks do so whatever the value, unless the
report is to show a number of more digits than the host writes, and so do the
factories built from them, save for the few that go through a value, or compare
one, before anything has checked it.
-/

namespace SearchQuery

open Outcome (FailsAs)

/-- A fault that reports an argument, its value and the reason. -/
def Fault.IsReported {V : Type} : Fault V → Prop
  | .invalid .. => True
  | .outOfRange .. => True
  | _ => False

/-- A step that fails only by reporting an argument. -/
abbrev Reports {α : Type} (outcome : Checked α) : Prop :=
  FailsAs Fault.IsReported outcome

/-- A step that fails with a fault that reports nothing. -/
def Evades {α : Type} (outcome : Checked α) : Prop :=
  ¬ Reports outcome

/-- A step that gives a result. -/
def Passes {α : Type} (outcome : Checked α) : Prop :=
  ∃ a, outcome = .ok a

namespace Evades

variable {α β : Type}

@[simp]
theorem ok_iff {a : α} : Evades (.ok a : Checked α) ↔ False := by
  simp [Evades]

@[simp]
theorem pure_iff {a : α} : Evades (pure a : Checked α) ↔ False :=
  ok_iff

theorem eq_false {outcome : Checked α} (reports : Reports outcome) : Evades outcome ↔ False :=
  iff_false_intro (not_not_intro reports)

/-- Two steps evade a report as the first does, or as the second does after it. -/
@[simp]
theorem bind_iff {first : Checked α} {next : α → Checked β} :
    Evades (first >>= next) ↔ Evades first ∨ ∃ a, first = .ok a ∧ Evades (next a) := by
  unfold Evades Reports
  rw [FailsAs.bind_iff, not_and_or]
  simp only [not_forall, exists_prop]

/-- A step reports what it refuses unless what makes it evade that holds. -/
theorem reports_of {P : Prop} {outcome : Checked α} (evades : Evades outcome ↔ P) (not : ¬ P) :
    Reports outcome :=
  not_not.mp (mt evades.mp not)

@[simp]
theorem map_iff {first : Checked α} {f : α → β} : Evades (f <$> first) ↔ Evades first :=
  not_congr ⟨.of_map, .map f⟩

end Evades

namespace Number

def aboveZero (x : Number) : Bool :=
  !x.le (.int 0)

def fromZero (x : Number) : Bool :=
  !x.lt (.int 0)

def fromOne (x : Number) : Bool :=
  !x.lt (.int 1)

def within (low high x : Number) : Bool :=
  low.le x && x.le high

def properRate (x : Number) : Bool :=
  Number.lt (.int 0) x && x.lt (.int 1)

end Number

namespace Value

/-- A number out of a range that has too many digits to be written in the report. -/
def Beyond (range : Number → Bool) (v : Value) : Prop :=
  ∃ x, v = .number x ∧ range x = false ∧ x.isWritable = false

/-- An integer out of a range that has too many digits to be written in the report. -/
def WholeBeyond (range : Number → Bool) (v : Value) : Prop :=
  ∃ w : Whole, v = .number (.whole w) ∧ range (.whole w) = false ∧ digitsFit w.value = false

end Value

namespace Guard

variable {argument : String} {v : Value}

theorem notNull_reports : Reports (notNull argument v) := by
  unfold notNull
  split
  · exact .error trivial
  · exact .ok _

theorem number_reports : Reports (number argument v) := by
  unfold number
  split
  · exact .ok _
  · exact .error trivial

theorem integer_reports : Reports (integer argument v) := by
  unfold integer
  split
  · exact .ok _
  · exact .error trivial

theorem outside_evades {α : Type} {x : Number} {reason : String → Reason} :
    Evades (.error (outside argument v x reason) : Checked α) ↔ x.isWritable = false := by
  unfold Evades Reports outside Fault.worded
  rw [FailsAs.error_iff]
  cases x.isWritable <;> simp [Fault.IsReported]

/-- A guard of numbers in a range evades a report on numbers beyond it. -/
theorem range_evades {range : Number → Bool} (reason : String → Reason) :
    Evades (number argument v >>= fun x =>
      if range x then pure x else throw (outside argument v x reason)) ↔ v.Beyond range := by
  simp only [Evades.bind_iff, Evades.eq_false number_reports, false_or, number_eq_ok]
  refine exists_congr (fun x => and_congr_right (fun _ => ?_))
  cases range x with
  | true => simp
  | false => exact outside_evades.trans (and_iff_right rfl).symm

theorem positive_evades : Evades (positive argument v) ↔ v.Beyond Number.aboveZero := by
  refine (iff_of_eq (congrArg Evades (bind_congr (fun x => ?_)))).trans (range_evades .notPositive)
  unfold Number.aboveZero
  cases x.le (.int 0) <;> rfl

theorem notNegative_evades : Evades (notNegative argument v) ↔ v.Beyond Number.fromZero := by
  refine (iff_of_eq (congrArg Evades (bind_congr (fun x => ?_)))).trans (range_evades .negative)
  unfold Number.fromZero
  cases x.lt (.int 0) <;> rfl

theorem between_evades {low high : Number} :
    Evades (between low high argument v) ↔ v.Beyond (Number.within low high) :=
  range_evades _

/-- A guard of integers before one of numbers evades a report on integers beyond the range. -/
theorem whole_evades {range : Number → Bool} {guard : Checked Number}
    (evades : Evades guard ↔ v.Beyond range) :
    Evades (integer argument v >>= fun w => guard >>= fun _ => pure w) ↔ v.WholeBeyond range := by
  simp only [Evades.bind_iff, Evades.eq_false integer_reports, false_or, integer_eq_ok, evades,
    Evades.pure_iff, and_false, exists_false, or_false]
  refine exists_congr (fun w => and_congr_right ?_)
  rintro rfl
  exact ⟨fun ⟨x, same, beyond⟩ => by cases same; exact beyond, fun beyond => ⟨_, rfl, beyond⟩⟩

theorem positiveInteger_evades :
    Evades (positiveInteger argument v) ↔ v.WholeBeyond Number.aboveZero :=
  whole_evades positive_evades

theorem naturalInteger_evades :
    Evades (naturalInteger argument v) ↔ v.WholeBeyond Number.fromZero :=
  whole_evades notNegative_evades

theorem integerBetween_evades {low high : Int} :
    Evades (integerBetween low high argument v) ↔
      v.WholeBeyond (Number.within (.int low) (.int high)) :=
  whole_evades between_evades

theorem text_reports : Reports (text argument v) := by
  unfold text
  split
  · split
    · exact .error trivial
    · exact .ok _
  · exact .error trivial

theorem expect_reports {α : Type} {kinds : List String} {select : Value → Option α} :
    Reports (expect kinds select argument v) := by
  unfold expect
  split
  · exact .error trivial
  · split
    · exact .ok _
    · exact .error trivial

theorem optional_reports {α : Type} {guard : String → Value → Checked α}
    (reports : Reports (guard argument v)) : Reports (optional guard argument v) := by
  unfold optional
  split
  · exact .ok _
  · exact .bind reports (fun _ _ => .ok _)

/-- An optional argument evades a report as the guard does, which reports null if it takes any. -/
theorem optional_evades {α : Type} {guard : String → Value → Checked α}
    (null : Reports (guard argument .null)) :
    Evades (optional guard argument v) ↔ Evades (guard argument v) := by
  unfold optional
  split
  · exact iff_of_false (by simp) (not_not_intro null)
  · exact Evades.map_iff

theorem optional_integerBetween_evades {low high : Int} :
    Evades (optional (integerBetween low high) argument v) ↔
      v.WholeBeyond (Number.within (.int low) (.int high)) :=
  (optional_evades (.error trivial)).trans integerBetween_evades

theorem optional_naturalInteger_evades :
    Evades (optional naturalInteger argument v) ↔ v.WholeBeyond Number.fromZero :=
  (optional_evades (.error trivial)).trans naturalInteger_evades

theorem optional_positiveInteger_evades :
    Evades (optional positiveInteger argument v) ↔ v.WholeBeyond Number.aboveZero :=
  (optional_evades (.error trivial)).trans positiveInteger_evades

theorem field_reports : Reports (field argument v) := by
  unfold field
  split
  · exact .ok _
  · exact .ok _
  · exact .bind notNull_reports (fun _ _ => .bind text_reports (fun _ _ => .ok _))

@[simp]
theorem path_node {p : Path} : path argument (.node (.path p)) = .ok p := by
  simp [path, expect]

@[simp]
theorem query_node {q : Query} : query argument (.node (.query q)) = .ok q := by
  simp [query, expect]

theorem path_reports : Reports (path argument v) :=
  expect_reports

theorem score_reports : Reports (score v) :=
  optional_reports expect_reports

theorem fuzzy_reports : Reports (fuzzy v) :=
  optional_reports expect_reports

end Guard

open Guard

namespace Query

variable {v : Value}

theorem ofText_reports : Reports (ofText v) :=
  .bind expect_reports (fun _ _ => .ok _)

theorem ofTexts_reports : Reports (ofTexts v) :=
  .bind expect_reports (fun _ _ =>
    .bind (each_fails (fun _ => expect_reports) _) (fun _ _ => .ok _))

theorem coerce_reports : Reports (coerce v) := by
  unfold coerce
  split
  · exact .ok _
  · exact .ok _
  · exact ofText_reports
  · exact .error trivial
  · split
    · exact ofTexts_reports
    · exact .error trivial

end Query

namespace Path

variable {v w : Value}

theorem ofField_reports : Reports (ofField v) :=
  .bind field_reports (fun _ _ => .ok _)

theorem ofFields_reports : Reports (ofFields v) := by
  refine .bind expect_reports (fun items _ => ?_)
  dsimp only
  split
  · exact .error trivial
  · exact .bind (each_fails (fun _ => field_reports) _) (fun _ _ => .ok _)

theorem ofAnalyzer_reports : Reports (ofAnalyzer v w) :=
  .bind field_reports (fun _ _ => .bind text_reports (fun _ _ => .ok _))

theorem ofPattern_reports : Reports (ofPattern v) :=
  .bind text_reports (fun _ _ => .ok _)

/-- A path is made from anything or the argument is reported. -/
theorem coerce_reports : Reports (coerce v) := by
  unfold coerce
  split
  · exact .ok _
  · exact ofField_reports
  · exact ofField_reports
  · exact ofField_reports
  · exact ofField_reports
  · exact .error trivial
  · split
    · exact ofFields_reports
    · exact .error trivial

end Path

/-! ## Options and scores -/

section

variable {a b c d e : Value}

theorem Fuzzy.build_evades : Evades (Fuzzy.build a b c) ↔
    a.WholeBeyond (Number.within (.int 1) (.int 2)) ∨
      Passes (optional (integerBetween 1 2) "max_edits" a) ∧
        (b.WholeBeyond Number.fromZero ∨ Passes (optional naturalInteger "prefix_length" b) ∧
          c.WholeBeyond Number.aboveZero) := by
  simp [Fuzzy.build, Passes, optional_integerBetween_evades, optional_naturalInteger_evades,
    optional_positiveInteger_evades]

theorem Count.build_evades : Evades (Count.build a b) ↔
    (∃ type, a = .node (.choice (.count type))) ∧ b.WholeBeyond Number.aboveZero := by
  simp only [Count.build, Evades.bind_iff, Evades.eq_false expect_reports, false_or,
    countType_eq_ok, optional_positiveInteger_evades, Evades.pure_iff, and_false, exists_false,
    or_false, exists_and_right]

theorem Highlight.build_evades : Evades (Highlight.build a b c) ↔
    Passes (Guard.path "path" a) ∧ (b.WholeBeyond Number.aboveZero ∨
      Passes (optional positiveInteger "max_chars_to_examine" b) ∧
        c.WholeBeyond Number.aboveZero) := by
  simp [Highlight.build, Passes, Evades.eq_false path_reports, optional_positiveInteger_evades]

theorem Highlight.make_evades : Evades (Highlight.make a b c) ↔
    Passes (Path.coerce a) ∧ (b.WholeBeyond Number.aboveZero ∨
      Passes (optional positiveInteger "max_chars_to_examine" b) ∧
        c.WholeBeyond Number.aboveZero) := by
  simp [Highlight.make, Passes, Evades.eq_false Path.coerce_reports, build_evades]

theorem GeoPoint.build_evades : Evades (GeoPoint.build a b) ↔
    Passes (number "longitude" a) ∧ Passes (number "latitude" b) ∧
      (a.Beyond (Number.within (.int (-180)) (.int 180)) ∨
        Passes (between (.int (-180)) (.int 180) "longitude" a) ∧
          b.Beyond (Number.within (.int (-90)) (.int 90))) := by
  simp [GeoPoint.build, Passes, Evades.eq_false number_reports, between_evades]

namespace ScoreFunction

theorem makePath_reports : Reports (makePath a b) := by
  refine .bind Path.coerce_reports (fun _ _ => ?_)
  exact .bind expect_reports (fun _ _ => .bind number_reports (fun _ _ => .ok _))

theorem ofConstant_reports : Reports (ofConstant a) :=
  .bind number_reports (fun _ _ => .ok _)

theorem operands_reports {operator : String} : Reports (operands operator a) := by
  refine .bind expect_reports (fun items _ => ?_)
  dsimp only
  split
  · exact .error trivial
  · exact each_fails (fun _ => expect_reports) items

theorem ofOperands_reports {way : Combination} : Reports (ofOperands way a) :=
  .bind operands_reports (fun _ _ => .ok _)

theorem rate_evades {argument : String} :
    Evades (rate argument a) ↔ a.Beyond Number.properRate :=
  range_evades _

theorem ofGauss_evades : Evades (ofGauss a b c d e) ↔
    Passes (Guard.path "path" a) ∧ Passes (number "origin" b) ∧ (c.Beyond Number.aboveZero ∨
      Passes (positive "scale" c) ∧ d.Beyond Number.properRate) := by
  have decays : Evades (optional rate "decay" d) ↔ d.Beyond Number.properRate :=
    (optional_evades (.error trivial)).trans rate_evades
  simp [ofGauss, Passes, Evades.eq_false path_reports, Evades.eq_false number_reports,
    positive_evades, decays, Evades.eq_false (optional_reports number_reports)]

theorem makeGauss_evades : Evades (makeGauss a b c d e) ↔
    Passes (Path.coerce a) ∧ Passes (number "origin" b) ∧ (c.Beyond Number.aboveZero ∨
      Passes (positive "scale" c) ∧ d.Beyond Number.properRate) := by
  simp [makeGauss, Passes, Evades.eq_false Path.coerce_reports, ofGauss_evades]

theorem ofOperand_reports {way : Transform} : Reports (ofOperand way a) :=
  .bind expect_reports (fun _ _ => .ok _)

end ScoreFunction

namespace Score

theorem ofBoost_evades : Evades (ofBoost a) ↔ a.Beyond Number.aboveZero := by
  simp [ofBoost, positive_evades]

theorem makeBoostPath_reports : Reports (makeBoostPath a b) := by
  refine .bind Path.coerce_reports (fun _ _ => ?_)
  exact .bind expect_reports (fun _ _ => .bind number_reports (fun _ _ => .ok _))

theorem ofConstant_evades : Evades (ofConstant a) ↔ a.Beyond Number.aboveZero := by
  simp [ofConstant, positive_evades]

theorem ofFunction_reports : Reports (ofFunction a) :=
  .bind expect_reports (fun _ _ => .ok _)

end Score

/-! ## Spans and facets -/

namespace Span

theorem clauses_reports {argument : String} : Reports (clauses argument a) := by
  refine .bind expect_reports (fun items _ => ?_)
  dsimp only
  split
  · exact .error trivial
  · exact each_fails (fun _ => expect_reports) items

theorem makeTerm_reports : Reports (makeTerm a b) := by
  refine .bind Query.coerce_reports (fun _ _ => .bind Path.coerce_reports (fun _ _ => ?_))
  exact .bind expect_reports (fun _ _ => .bind expect_reports (fun _ _ => .ok _))

theorem ofFirst_evades : Evades (ofFirst a b) ↔
    Passes (expect "operator" a) ∧ b.WholeBeyond Number.fromOne := by
  have last : ∀ s, Evades (integer "end_position_lte" b >>= fun w =>
      if w.value < 1 then throw (outside "end_position_lte" b (.whole w) .lessThanOne)
      else pure (first s w)) ↔ b.WholeBeyond Number.fromOne := by
    intro s
    simp only [Evades.bind_iff, Evades.eq_false integer_reports, false_or, integer_eq_ok]
    refine exists_congr (fun w => and_congr_right (fun _ => ?_))
    unfold Number.fromOne
    rw [Number.lt_int_right]
    by_cases below : w.value < 1
    · simp only [below, if_true, decide_true, Bool.not_true, true_and]
      exact outside_evades
    · simp [below]
  have parts : Evades (ofFirst a b) ↔ Evades (expect "operator" a) ∨
      ∃ s, expect "operator" a = .ok s ∧ b.WholeBeyond Number.fromOne :=
    Evades.bind_iff.trans (or_congr_right (exists_congr (fun s => and_congr_right (fun _ => last s))))
  have reported : Reports (expect "operator" a) := expect_reports
  rw [parts, Evades.eq_false reported, false_or, exists_and_right]
  rfl

theorem ofNear_evades : Evades (ofNear a b c) ↔
    Passes (clauses "clauses" a) ∧ b.WholeBeyond Number.fromZero := by
  simp [ofNear, Passes, Evades.eq_false clauses_reports, naturalInteger_evades, Evades.eq_false expect_reports,
    Guard.flag]

theorem ofAlternatives_reports : Reports (ofAlternatives a) :=
  .bind clauses_reports (fun _ _ => .ok _)

theorem ofSubtract_reports : Reports (ofSubtract a b) :=
  .bind expect_reports (fun _ _ => .bind expect_reports (fun _ _ => .ok _))

end Span

namespace Facet

theorem makeString_evades : Evades (makeString a b c) ↔
    Passes (Path.coerce b) ∧ Passes (Guard.text "name" a) ∧
      c.WholeBeyond (Number.within (.int 1) (.int 1000)) := by
  simp [makeString, ofString, Passes, Evades.eq_false Path.coerce_reports,
    Evades.eq_false text_reports, integerBetween_evades]

theorem boundaries_reports {α : Type} {facet : String} {select : Value → Option α} :
    Reports (boundaries facet select a) := by
  refine .bind expect_reports (fun items _ => ?_)
  dsimp only
  split
  · exact .error trivial
  · refine each_fails (fun item => ?_) items
    split
    · exact .ok _
    · exact .error trivial

theorem outsideName_reports : Reports (outsideName a) :=
  optional_reports text_reports

theorem ofNumbers_reports : Reports (ofNumbers a b c d) := by
  refine .bind text_reports (fun _ _ => .bind expect_reports (fun _ _ => ?_))
  refine .bind boundaries_reports (fun xs _ => ?_)
  split
  · exact .error trivial
  · exact .bind outsideName_reports (fun _ _ => .ok _)

theorem ofDates_reports : Reports (ofDates a b c d) := by
  refine .bind text_reports (fun _ _ => .bind expect_reports (fun _ _ => ?_))
  refine .bind boundaries_reports (fun ts _ => ?_)
  split
  · exact .error trivial
  · exact .bind outsideName_reports (fun _ _ => .ok _)

end Facet

/-! ## Operators -/

namespace Operator

theorem makeText_reports : Reports (makeText a b c d) := by
  refine .bind Query.coerce_reports (fun _ _ => .bind Path.coerce_reports (fun _ _ => ?_))
  refine .bind expect_reports (fun _ _ => .bind expect_reports (fun _ _ => ?_))
  exact .bind fuzzy_reports (fun _ _ => .bind score_reports (fun _ _ => .ok _))

theorem makePhrase_evades : Evades (makePhrase a b c d) ↔
    Passes (Query.coerce a) ∧ Passes (Path.coerce b) ∧ c.WholeBeyond Number.fromZero := by
  simp [makePhrase, ofPhrase, Passes, Evades.eq_false Query.coerce_reports,
    Evades.eq_false Path.coerce_reports, naturalInteger_evades, Evades.eq_false score_reports]

theorem makeAutocomplete_reports : Reports (makeAutocomplete a b c d e) := by
  refine .bind Query.coerce_reports (fun _ _ => .bind Path.coerce_reports (fun _ _ => ?_))
  refine .bind expect_reports (fun _ _ => .bind expect_reports (fun _ _ => ?_))
  refine .bind expect_reports (fun _ _ => ?_)
  exact .bind fuzzy_reports (fun _ _ => .bind score_reports (fun _ _ => .ok _))

theorem makePattern_reports {form : PatternForm} : Reports (makePattern form a b c d) := by
  refine .bind Query.coerce_reports (fun _ _ => .bind Path.coerce_reports (fun _ _ => ?_))
  refine .bind expect_reports (fun _ _ => .bind expect_reports (fun _ _ => ?_))
  exact .bind expect_reports (fun _ _ => .bind score_reports (fun _ _ => .ok _))

theorem ofQueryString_reports : Reports (ofQueryString a b c) := by
  refine .bind field_reports (fun _ _ => .bind expect_reports (fun _ _ => ?_))
  exact .bind score_reports (fun _ _ => .ok _)

theorem ofEquals_reports : Reports (ofEquals a b c) := by
  refine .bind field_reports (fun _ _ => .bind expect_reports (fun _ _ => ?_))
  exact .bind score_reports (fun _ _ => .ok _)

theorem ofExistence_reports : Reports (ofExistence a) :=
  .bind field_reports (fun _ _ => .ok _)

theorem origin_reports : Reports (origin a) := by
  unfold origin
  split
  · exact .ok _
  · exact .ok _
  · exact .ok _
  · exact .error trivial

theorem makeNear_reports : Reports (makeNear a b c d) := by
  refine .bind Path.coerce_reports (fun _ _ => .bind expect_reports (fun _ _ => ?_))
  refine .bind origin_reports (fun _ _ => .bind number_reports (fun _ _ => ?_))
  exact .bind score_reports (fun _ _ => .ok _)

theorem area_reports : Reports (area .null a b) := by
  unfold area
  split
  · exact .error trivial
  · exact .bind expect_reports (fun _ _ => .ok _)
  · exact .bind expect_reports (fun _ _ => .ok _)
  all_goals exact .error trivial

theorem makeGeoWithinBox_reports : Reports (makeGeoWithinBox a b c) := by
  refine .bind Path.coerce_reports (fun _ _ => .bind expect_reports (fun _ _ => ?_))
  exact .bind area_reports (fun _ _ => .bind score_reports (fun _ _ => .ok _))

theorem makeGeoWithinCircle_reports : Reports (makeGeoWithinCircle a b c) := by
  refine .bind Path.coerce_reports (fun _ _ => .bind expect_reports (fun _ _ => ?_))
  exact .bind area_reports (fun _ _ => .bind score_reports (fun _ _ => .ok _))

theorem ofSpan_reports : Reports (ofSpan a) :=
  .bind expect_reports (fun _ _ => .ok _)

end Operator

namespace Range

theorem make_reports : Reports (make a b) := by
  refine .bind Path.coerce_reports (fun _ _ => .bind expect_reports (fun _ _ => ?_))
  exact .bind score_reports (fun _ _ => .ok _)

theorem bound_reports {argument : String} : Reports (bound argument a) := by
  unfold bound
  split
  · exact .ok _
  · refine .bind expect_reports (fun loose _ => .bind ?_ (fun _ _ => .ok _))
    unfold LooseBound.check
    split
    · exact .ok _
    · exact .ok _
    · exact .error trivial

theorem build_reports {form : RangeForm} : Reports (build form a b c d) := by
  refine .bind expect_reports (fun p _ => ?_)
  split
  · exact .error trivial
  · refine .bind bound_reports (fun low _ => .bind bound_reports (fun high _ => ?_))
    dsimp only
    split
    · exact .error trivial
    · exact .bind score_reports (fun _ _ => .ok _)

theorem first_reports {start : Start} {side : Side} : Reports (first start side a) := by
  unfold first
  split
  · exact build_reports
  · exact build_reports

theorem second?_reports {form : RangeForm} {p : Path} {lower upper : Option (Bound Value)}
    {score : Option Score} {side : Side} {outcome : Checked (Operator Value)}
    (accepted : second? form p lower upper score side a = some outcome) : Reports outcome := by
  unfold second? at accepted
  split at accepted
  · cases accepted
    exact build_reports
  · cases accepted
    exact build_reports
  · cases accepted

end Range

namespace Compound

variable {given : List Value}

theorem clauses_reports {argument : String} : Reports (clauses argument given) := by
  unfold clauses
  dsimp only
  split
  · exact .error trivial
  · exact each_fails (fun _ => expect_reports) _

theorem make_reports : Reports (make a) := by
  rw [make_eq]
  exact score_reports.map _

theorem add_reports {role : Role} {op : Operator Value} : Reports (add role given op) := by
  unfold add
  split
  · exact .bind clauses_reports (fun _ _ => .ok _)
  · exact .ok _

theorem atLeast_evades {must mustNot should filter : Option (List (Operator Value))}
    {minimum : Whole} {score : Option Score} :
    Evades (atLeast a (.compound must mustNot should filter minimum score)) ↔
      a.WholeBeyond Number.fromZero := by
  simp [atLeast, naturalInteger_evades]

end Compound

/-! ## What escapes the checks -/

/-- Going through a value that cannot be gone through reports nothing. -/
theorem Value.toItems_unreported (closed : a.elements? = none) :
    ∃ fault, a.toItems = .error fault ∧ ¬ fault.IsReported := by
  unfold toItems
  rw [closed]
  dsimp only
  split <;> exact ⟨_, rfl, id⟩

theorem Value.toItems_of_elements {items : List Value} (held : a.elements? = some items) :
    a.toItems = .ok items := by
  unfold toItems
  rw [held]

/-- A step that goes through a value first reports whatever it refuses exactly when the value can
be gone through. -/
theorem reports_toItems_bind {α : Type} {next : List Value → Checked α}
    (reports : ∀ items, Reports (next items)) :
    Reports (a.toItems >>= next) ↔ a.elements? ≠ none := by
  constructor
  · intro all closed
    obtain ⟨fault, stopped, unreported⟩ := Value.toItems_unreported closed
    refine unreported (all fault ?_)
    rw [stopped]
    rfl
  · intro some
    obtain ⟨items, held⟩ := Option.ne_none_iff_exists'.mp some
    rw [Value.toItems_of_elements held]
    exact reports items

namespace Facet

/-- A facet named by code that is reached before any other refusal. -/
def CodeReached (seen : List String) (items : List Value) : Prop :=
  ∃ before f after, items = before ++ .node (.facet f) :: after ∧
    (∃ fs, distinctNames seen before = .ok fs) ∧ f.name.isCode = true

/-- Code that is reached among several facets is the first of them, or is reached after it. -/
theorem codeReached_cons {seen : List String} {v : Value} {rest : List Value} :
    CodeReached seen (v :: rest) ↔ ∃ f, v = .node (.facet f) ∧ (f.name.isCode = true ∨
      f.name.isCode = false ∧ seen.contains f.name.text = false ∧
        CodeReached (f.name.text :: seen) rest) := by
  constructor
  · rintro ⟨before, code, after, split, ⟨fs, distinct⟩, isCode⟩
    cases before with
    | nil =>
        cases split
        exact ⟨code, rfl, .inl isCode⟩
    | cons first before =>
        cases split
        rw [distinctNames_cons] at distinct
        obtain ⟨f, passed, more⟩ := Outcome.bind_eq_ok.mp distinct
        refine ⟨f, expect_eq_ok.mp passed, .inr ?_⟩
        cases coded : f.name.isCode with
        | true =>
            rw [coded] at more
            cases more
        | false =>
            cases known : seen.contains f.name.text with
            | true =>
                rw [coded, known] at more
                cases more
            | false =>
                rw [coded, known] at more
                obtain ⟨others, distinct, -⟩ := Outcome.map_eq_ok.mp more
                exact ⟨rfl, rfl, before, code, after, rfl, ⟨others, distinct⟩, isCode⟩
  · rintro ⟨f, rfl, isCode | ⟨plain, fresh, before, code, after, rfl, ⟨fs, distinct⟩, isCode⟩⟩
    · exact ⟨[], f, rest, rfl, ⟨[], rfl⟩, isCode⟩
    · refine ⟨.node (.facet f) :: before, code, after, rfl, ⟨f :: fs, ?_⟩, isCode⟩
      rw [distinctNames_cons, expect_eq_ok.mpr rfl]
      show (if f.name.isCode = true then _ else _) = _
      rw [plain, fresh, distinct]
      rfl

/-- Names of facets are compared without a report exactly when code is reached among them. -/
theorem distinctNames_reports {seen : List String} {items : List Value} :
    Reports (distinctNames seen items) ↔ ¬ CodeReached seen items := by
  induction items generalizing seen with
  | nil =>
      constructor
      · rintro - ⟨before, code, after, split, -, -⟩
        cases before <;> cases split
      · intro
        exact .ok _
  | cons v rest ih =>
      rw [distinctNames_cons, codeReached_cons]
      cases passed : expect "facets" v with
      | error fault =>
          constructor
          · rintro - ⟨f, facet, -⟩
            rw [expect_eq_ok.mpr facet] at passed
            cases passed
          · intro
            have refused : Reports (expect "facets" v) := expect_reports
            exact .error (refused fault passed)
      | ok f =>
          obtain rfl := expect_eq_ok.mp passed
          have only : ∀ P : Facet → Prop,
              (∃ g, Value.node (.facet f) = .node (.facet g) ∧ P g) ↔ P f := by
            intro P
            constructor
            · rintro ⟨g, same, holds⟩
              cases same
              exact holds
            · intro holds
              exact ⟨f, rfl, holds⟩
          rw [only]
          show Reports (if f.name.isCode = true then _ else _) ↔ _
          cases f.name.isCode with
          | true =>
              constructor
              · intro all _
                exact all (.refused .wrongType) rfl
              · intro none
                exact absurd (.inl rfl) none
          | false =>
              show Reports (if seen.contains f.name.text = true then _ else _) ↔ _
              cases seen.contains f.name.text with
              | true =>
                  constructor
                  · rintro - (coded | ⟨-, fresh, -⟩)
                    · cases coded
                    · cases fresh
                  · intro
                    exact .error trivial
              | false =>
                  constructor
                  · rintro all (coded | ⟨-, -, reached⟩)
                    · cases coded
                    · refine ih.mp ?_ reached
                      intro fault stopped
                      refine all fault ?_
                      rw [stopped]
                      rfl
                  · intro none
                    exact (ih.mpr (fun reached => none (.inr ⟨rfl, rfl, reached⟩))).map _

end Facet

theorem Value.toItems_eq_ok {items : List Value} :
    a.toItems = .ok items ↔ a.elements? = some items := by
  unfold toItems
  cases a.elements? with
  | some found => simp
  | none =>
      dsimp only
      split <;> simp

theorem Value.toItems_evades : Evades a.toItems ↔ a.elements? = none := by
  cases held : a.elements? with
  | some items =>
      rw [toItems_of_elements held]
      simp
  | none =>
      obtain ⟨fault, stopped, unreported⟩ := toItems_unreported held
      rw [stopped]
      simpa [Evades] using unreported

theorem Span.makeNear_evades : Evades (Span.makeNear a b c) ↔ a.elements? = none ∨
    (∃ items, a.elements? = some items ∧ Passes (clauses "clauses" (.tuple items))) ∧
      b.WholeBeyond Number.fromZero := by
  simp only [Span.makeNear, Evades.bind_iff, ofNear_evades, Value.toItems_evades,
    Value.toItems_eq_ok, ← and_assoc, exists_and_right]

/-- A step over a path that then goes through a value reports whatever it refuses unless the path
is one and the value cannot be gone through. -/
theorem reports_path_bind {α : Type} {next : Path → List Value → Checked α}
    (reports : ∀ p items, Reports (next p items)) :
    Reports (Path.coerce a >>= fun p => b.toItems >>= next p) ↔
      ¬ ((∃ p, Path.coerce a = .ok p) ∧ b.elements? = none) := by
  cases found : Path.coerce a with
  | error fault =>
      refine iff_of_true (.error (Path.coerce_reports fault found)) ?_
      rintro ⟨⟨p, passed⟩, -⟩
      cases passed
  | ok p =>
      refine (reports_toItems_bind (reports p)).trans ?_
      constructor
      · rintro some ⟨-, closed⟩
        exact some closed
      · intro held closed
        exact held ⟨⟨p, rfl⟩, closed⟩

theorem Facet.makeNumbers_reports : Reports (Facet.makeNumbers a b c d) ↔
    ¬ ((∃ p, Path.coerce b = .ok p) ∧ c.elements? = none) :=
  reports_path_bind (fun _ _ => ofNumbers_reports)

theorem Facet.makeDates_reports : Reports (Facet.makeDates a b c d) ↔
    ¬ ((∃ p, Path.coerce b = .ok p) ∧ c.elements? = none) :=
  reports_path_bind (fun _ _ => ofDates_reports)

theorem Operator.ofFacets_tuple (op : Operator Value) (items : List Value) :
    Operator.ofFacets (.ofOperator op) (.tuple items) =
      if items.isEmpty then .error (.invalid "facets" (.tuple items) .noFacet)
      else (Facet.distinctNames [] items).map (fun fs => .facet op fs) := by
  show (if items.isEmpty = true then _ else _) = if items.isEmpty = true then _ else _
  split
  · rfl
  · cases Facet.distinctNames [] items <;> rfl

theorem Operator.ofFacets_reports {items : List Value} :
    Reports (Operator.ofFacets a (.tuple items)) ↔
      ¬ ((∃ op, a = .ofOperator op) ∧ Facet.CodeReached [] items) := by
  cases passed : Guard.operator "operator" a with
  | error fault =>
      have refused : Reports (Guard.operator "operator" a) := expect_reports
      refine iff_of_true ?_ ?_
      · unfold Operator.ofFacets
        rw [passed]
        exact .error (refused fault passed)
      · rintro ⟨⟨op, rfl⟩, -⟩
        cases passed
  | ok op =>
      obtain rfl : a = .ofOperator op := Guard.operator_eq_ok passed
      have named : (∃ o, Value.ofOperator op = .ofOperator o) := ⟨op, rfl⟩
      rw [Operator.ofFacets_tuple, and_iff_right named, ← Facet.distinctNames_reports]
      split
      · rename_i empty
        obtain rfl := List.isEmpty_iff.mp empty
        exact iff_of_true (.error trivial) (.ok _)
      · exact ⟨.of_map, .map _⟩

end

/-! ## Factories -/

namespace Factory

variable {given : List Value}

/-- Factories, methods and classes of options other than hand-written documents and what encodes
geometries. -/
def Listed : Factory → Prop
  | .raw _ => False
  | .geoWithin => False
  | .geoShape => False
  | .box => False
  | .circle => False
  | _ => True

/-- The number of arguments of a factory that takes a fixed number of them. -/
def arity : Factory → Nat
  | .analyzer => 2
  | .fuzzy => 3
  | .count => 2
  | .highlight => 3
  | .highlights => 3
  | .point => 2
  | .box => 2
  | .circle => 2
  | .pathValue => 2
  | .gauss => 5
  | .boostPath => 2
  | .spanTerm => 2
  | .spanFirst => 2
  | .spanNear => 3
  | .spanSubtract => 2
  | .stringFacet => 3
  | .numberFacet => 4
  | .dateFacet => 4
  | .text => 4
  | .phrase => 4
  | .autocomplete => 5
  | .wildcard => 4
  | .regex => 4
  | .queryString => 3
  | .equals => 3
  | .near => 4
  | .geoWithin => 3
  | .geoWithinBox => 3
  | .geoWithinCircle => 3
  | .geoShape => 4
  | .range => 2
  | _ => 1

/-- A factory is given as many arguments as it takes, and a method belongs to what it is called
on: the methods of clauses to a compound, and that of a bound to a range whose side is open. -/
def Takes : Factory → List Value → Prop
  | .relevance, given => given = []
  | .add, _ => True
  | .multiply, _ => True
  | .spanOr, _ => True
  | .facet, given => given ≠ []
  | .clauses _, given => ∃ must mustNot should filter minimum score rest,
      given = .ofOperator (.compound must mustNot should filter minimum score) :: rest
  | .atLeast, given => ∃ must mustNot should filter minimum score least,
      given = [.ofOperator (.compound must mustNot should filter minimum score), least]
  | .bound side, given => (∃ p score v, given = [.node (.rangeStart p score), v]) ∨
      ∃ form p lower upper score v outcome,
        given = [.ofOperator (.range form p lower upper score), v] ∧
          Range.second? form p lower upper score side v = some outcome
  | f, given => given.length = f.arity

/-- Arguments that evade a report.  Some are gone through or compared before anything has checked
them, and do not allow it: spans and boundaries that cannot be gone through, and a facet named by
code.  Others are numbers out of their range, behind arguments that are accepted, with more digits
than a report can hold. -/
def Escapes : Factory → List Value → Prop
  | .fuzzy, [edits, kept, expansions] =>
    edits.WholeBeyond (Number.within (.int 1) (.int 2)) ∨
      Passes (optional (integerBetween 1 2) "max_edits" edits) ∧
        (kept.WholeBeyond Number.fromZero ∨ Passes (optional naturalInteger "prefix_length" kept) ∧
          expansions.WholeBeyond Number.aboveZero)
  | .count, [type, threshold] =>
    (∃ t, type = .node (.choice (.count t))) ∧ threshold.WholeBeyond Number.aboveZero
  | .highlight, [place, chars, passages] =>
    Passes (Guard.path "path" place) ∧ (chars.WholeBeyond Number.aboveZero ∨
      Passes (optional positiveInteger "max_chars_to_examine" chars) ∧
        passages.WholeBeyond Number.aboveZero)
  | .highlights, [place, chars, passages] =>
    Passes (Path.coerce place) ∧ (chars.WholeBeyond Number.aboveZero ∨
      Passes (optional positiveInteger "max_chars_to_examine" chars) ∧
        passages.WholeBeyond Number.aboveZero)
  | .point, [longitude, latitude] =>
    Passes (number "longitude" longitude) ∧ Passes (number "latitude" latitude) ∧
      (longitude.Beyond (Number.within (.int (-180)) (.int 180)) ∨
        Passes (between (.int (-180)) (.int 180) "longitude" longitude) ∧
          latitude.Beyond (Number.within (.int (-90)) (.int 90)))
  | .gauss, [place, origin, scale, decay, _] =>
    Passes (Path.coerce place) ∧ Passes (number "origin" origin) ∧
      (scale.Beyond Number.aboveZero ∨
        Passes (positive "scale" scale) ∧ decay.Beyond Number.properRate)
  | .boost, [value] => value.Beyond Number.aboveZero
  | .constant, [value] => value.Beyond Number.aboveZero
  | .spanFirst, [operator, position] =>
    Passes (Span.expect "operator" operator) ∧ position.WholeBeyond Number.fromOne
  | .spanNear, [spans, slop, _] =>
    spans.elements? = none ∨
      (∃ items, spans.elements? = some items ∧ Passes (Span.clauses "clauses" (.tuple items))) ∧
        slop.WholeBeyond Number.fromZero
  | .stringFacet, [name, place, buckets] =>
    Passes (Path.coerce place) ∧ Passes (Guard.text "name" name) ∧
      buckets.WholeBeyond (Number.within (.int 1) (.int 1000))
  | .numberFacet, [_, place, bounds, _] =>
    Passes (Path.coerce place) ∧ bounds.elements? = none
  | .dateFacet, [_, place, bounds, _] =>
    Passes (Path.coerce place) ∧ bounds.elements? = none
  | .phrase, [texts, place, slop, _] =>
    Passes (Query.coerce texts) ∧ Passes (Path.coerce place) ∧ slop.WholeBeyond Number.fromZero
  | .facet, op :: facets => (∃ o, op = .ofOperator o) ∧ Facet.CodeReached [] facets
  | .atLeast, [_, minimum] => minimum.WholeBeyond Number.fromZero
  | _, _ => False

theorem one_reports {call : Value → Checked (Node Value)} (reports : ∀ a, Reports (call a))
    (takes : given.length = 1) : Reports (one call given) := by
  match given, takes with
  | [a], _ => exact reports a

theorem two_reports {call : Value → Value → Checked (Node Value)}
    (reports : ∀ a b, Reports (call a b)) (takes : given.length = 2) :
    Reports (two call given) := by
  match given, takes with
  | [a, b], _ => exact reports a b

theorem three_reports {call : Value → Value → Value → Checked (Node Value)}
    (reports : ∀ a b c, Reports (call a b c)) (takes : given.length = 3) :
    Reports (three call given) := by
  match given, takes with
  | [a, b, c], _ => exact reports a b c

theorem four_reports {call : Value → Value → Value → Value → Checked (Node Value)}
    (reports : ∀ a b c d, Reports (call a b c d)) (takes : given.length = 4) :
    Reports (four call given) := by
  match given, takes with
  | [a, b, c, d], _ => exact reports a b c d

theorem five_reports {call : Value → Value → Value → Value → Value → Checked (Node Value)}
    (reports : ∀ a b c d e, Reports (call a b c d e)) (takes : given.length = 5) :
    Reports (five call given) := by
  match given, takes with
  | [a, b, c, d, e], _ => exact reports a b c d e

/-- A listed factory reports what it refuses when its arguments do not escape its checks. -/
theorem run_reports {f : Factory} (listed : f.Listed) (takes : f.Takes given)
    (checked : ¬ f.Escapes given) : Reports (f.run given) := by
  cases f with
  | singleQuery => exact one_reports (fun _ => Query.ofText_reports.map _) takes
  | multiQuery => exact one_reports (fun _ => Query.ofTexts_reports.map _) takes
  | query => exact one_reports (fun _ => Query.coerce_reports.map _) takes
  | singlePath => exact one_reports (fun _ => Path.ofField_reports.map _) takes
  | multiPath => exact one_reports (fun _ => Path.ofFields_reports.map _) takes
  | analyzer => exact two_reports (fun _ _ => Path.ofAnalyzer_reports.map _) takes
  | wildcardPath => exact one_reports (fun _ => Path.ofPattern_reports.map _) takes
  | path => exact one_reports (fun _ => Path.coerce_reports.map _) takes
  | fuzzy =>
      match given, takes with
      | [a, b, c], _ => exact (Evades.reports_of Fuzzy.build_evades checked).map _
  | count =>
      match given, takes with
      | [a, b], _ => exact (Evades.reports_of Count.build_evades checked).map _
  | highlight =>
      match given, takes with
      | [a, b, c], _ => exact (Evades.reports_of Highlight.build_evades checked).map _
  | highlights =>
      match given, takes with
      | [a, b, c], _ => exact (Evades.reports_of Highlight.make_evades checked).map _
  | point =>
      match given, takes with
      | [a, b], _ => exact (Evades.reports_of GeoPoint.build_evades checked).map _
  | box => exact listed.elim
  | circle => exact listed.elim
  | pathValue => exact two_reports (fun _ _ => ScoreFunction.makePath_reports.map _) takes
  | relevance => exact .ok _
  | constantValue => exact one_reports (fun _ => ScoreFunction.ofConstant_reports.map _) takes
  | add => exact ScoreFunction.ofOperands_reports.map _
  | multiply => exact ScoreFunction.ofOperands_reports.map _
  | gauss =>
      match given, takes with
      | [a, b, c, d, e], _ => exact (Evades.reports_of ScoreFunction.makeGauss_evades checked).map _
  | log => exact one_reports (fun _ => ScoreFunction.ofOperand_reports.map _) takes
  | log1p => exact one_reports (fun _ => ScoreFunction.ofOperand_reports.map _) takes
  | boost =>
      match given, takes with
      | [a], _ => exact (Evades.reports_of Score.ofBoost_evades checked).map _
  | boostPath => exact two_reports (fun _ _ => Score.makeBoostPath_reports.map _) takes
  | constant =>
      match given, takes with
      | [a], _ => exact (Evades.reports_of Score.ofConstant_evades checked).map _
  | function => exact one_reports (fun _ => Score.ofFunction_reports.map _) takes
  | spanTerm => exact two_reports (fun _ _ => Span.makeTerm_reports.map _) takes
  | spanFirst =>
      match given, takes with
      | [a, b], _ => exact (Evades.reports_of Span.ofFirst_evades checked).map _
  | spanNear =>
      match given, takes with
      | [spans, slop, inOrder], _ => exact (Evades.reports_of Span.makeNear_evades checked).map _
  | spanOr => exact Span.ofAlternatives_reports.map _
  | spanSubtract => exact two_reports (fun _ _ => Span.ofSubtract_reports.map _) takes
  | stringFacet =>
      match given, takes with
      | [a, b, c], _ => exact (Evades.reports_of Facet.makeString_evades checked).map _
  | numberFacet =>
      match given, takes with
      | [name, place, bounds, outside], _ => exact (Facet.makeNumbers_reports.mpr checked).map _
  | dateFacet =>
      match given, takes with
      | [name, place, bounds, outside], _ => exact (Facet.makeDates_reports.mpr checked).map _
  | text => exact four_reports (fun _ _ _ _ => Operator.makeText_reports.map _) takes
  | phrase =>
      match given, takes with
      | [a, b, c, d], _ => exact (Evades.reports_of Operator.makePhrase_evades checked).map _
  | autocomplete =>
      exact five_reports (fun _ _ _ _ _ => Operator.makeAutocomplete_reports.map _) takes
  | wildcard => exact four_reports (fun _ _ _ _ => Operator.makePattern_reports.map _) takes
  | regex => exact four_reports (fun _ _ _ _ => Operator.makePattern_reports.map _) takes
  | queryString => exact three_reports (fun _ _ _ => Operator.ofQueryString_reports.map _) takes
  | equals => exact three_reports (fun _ _ _ => Operator.ofEquals_reports.map _) takes
  | existence => exact one_reports (fun _ => Operator.ofExistence_reports.map _) takes
  | near => exact four_reports (fun _ _ _ _ => Operator.makeNear_reports.map _) takes
  | geoWithin => exact listed.elim
  | geoWithinBox =>
      exact three_reports (fun _ _ _ => Operator.makeGeoWithinBox_reports.map _) takes
  | geoWithinCircle =>
      exact three_reports (fun _ _ _ => Operator.makeGeoWithinCircle_reports.map _) takes
  | geoShape => exact listed.elim
  | span => exact one_reports (fun _ => Operator.ofSpan_reports.map _) takes
  | facet =>
      match given, takes with
      | [], filled => exact absurd rfl filled
      | op :: facets, _ => exact (Operator.ofFacets_reports.mpr checked).map _
  | raw tag => exact listed.elim
  | range => exact two_reports (fun _ _ => Range.make_reports.map _) takes
  | bound side =>
      rcases takes with ⟨p, score, v, rfl⟩ | ⟨form, p, low, high, score, v, outcome, rfl, accepted⟩
      · exact Range.first_reports.map _
      · show Reports (bounded side v (.node (.operator (.range form p low high score))))
        simp only [bounded, accepted]
        exact (Range.second?_reports accepted).map _
  | compound => exact one_reports (fun _ => Compound.make_reports.map _) takes
  | clauses role =>
      obtain ⟨must, mustNot, should, filter, minimum, score, rest, rfl⟩ := takes
      exact Compound.add_reports.map _
  | atLeast =>
      obtain ⟨must, mustNot, should, filter, minimum, score, least, rfl⟩ := takes
      exact (Evades.reports_of Compound.atLeast_evades checked).map _

/-- What escapes the checks of a factory makes it fail with a fault that reports nothing. -/
theorem Escapes.unreported {f : Factory} (takes : f.Takes given) (escapes : f.Escapes given) :
    Evades (f.run given) := by
  unfold Escapes at escapes
  split at escapes
  · exact Evades.map_iff.mpr (Fuzzy.build_evades.mpr escapes)
  · exact Evades.map_iff.mpr (Count.build_evades.mpr escapes)
  · exact Evades.map_iff.mpr (Highlight.build_evades.mpr escapes)
  · exact Evades.map_iff.mpr (Highlight.make_evades.mpr escapes)
  · exact Evades.map_iff.mpr (GeoPoint.build_evades.mpr escapes)
  · exact Evades.map_iff.mpr (ScoreFunction.makeGauss_evades.mpr escapes)
  · exact Evades.map_iff.mpr (Score.ofBoost_evades.mpr escapes)
  · exact Evades.map_iff.mpr (Score.ofConstant_evades.mpr escapes)
  · exact Evades.map_iff.mpr (Span.ofFirst_evades.mpr escapes)
  · exact Evades.map_iff.mpr (Span.makeNear_evades.mpr escapes)
  · exact Evades.map_iff.mpr (Facet.makeString_evades.mpr escapes)
  · exact fun all => Facet.makeNumbers_reports.mp all.of_map escapes
  · exact fun all => Facet.makeDates_reports.mp all.of_map escapes
  · exact Evades.map_iff.mpr (Operator.makePhrase_evades.mpr escapes)
  · exact fun all => Operator.ofFacets_reports.mp all.of_map escapes
  · obtain ⟨must, mustNot, should, filter, minimum, score, least, same⟩ := takes
    cases same
    exact Evades.map_iff.mpr (Compound.atLeast_evades.mpr escapes)
  · exact escapes.elim

/-- Building fails only by reporting an argument, save where an argument is gone through or
compared before anything has checked it, and cannot be (spans or boundaries that cannot be gone
through, and a facet named by code), and where a number out of its range has too many digits to be
written in the report. -/
theorem building_reports (f : Factory) (given : List Value) (listed : f.Listed)
    (takes : f.Takes given) :
    (∀ fault, f.run given = .error fault → fault.IsReported) ↔ ¬ f.Escapes given :=
  ⟨fun all escapes => escapes.unreported takes all, run_reports listed takes⟩

/-- Spans near one another that are a list with a number in it are refused with a report. -/
theorem spanNear_list_reports :
    Listed .spanNear ∧ Takes .spanNear [.list [.int 5], .int 0, .bool false] ∧
      run .spanNear [.list [.int 5], .int 0, .bool false] =
        .error (.invalid "clauses" (.int 5) (.expectedKind ["SpanDefinition"] "int")) ∧
      ∀ fault, run .spanNear [.list [.int 5], .int 0, .bool false] = .error fault →
        fault.IsReported := by
  have takes : Takes .spanNear [.list [.int 5], .int 0, .bool false] := rfl
  have held : ¬ Escapes .spanNear [.list [.int 5], .int 0, .bool false] := nofun
  exact ⟨trivial, takes, rfl, (building_reports .spanNear _ trivial takes).mpr held⟩

/-- A number given for spans near one another is refused by the host, with no report. -/
theorem spanNear_number_unreported :
    Listed .spanNear ∧ Takes .spanNear [.int 5, .int 0, .bool false] ∧
      ∃ fault, run .spanNear [.int 5, .int 0, .bool false] = .error fault ∧
        ¬ fault.IsReported :=
  ⟨trivial, rfl, .refused .wrongType, rfl, id⟩

end Factory

end SearchQuery
