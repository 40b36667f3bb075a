import SearchQuery.Proofs.Accepted

/-!
# The domains of numeric settings

Every number in a definition is a setting with a domain: boosts, constant
scores, the scale of a decay and the radius of a circle are positive, the rate
of a decay lies strictly between zero and one, and a position within the
ranges of longitudes and latitudes.  A constructor that accepts its arguments
keeps every setting in its domain, with one exception: what is no number at
all passes where a positive number is wanted, because the guard only refuses
numbers that are known to be zero or less.
-/

namespace SearchQuery

/-- What a numeric setting may be.  A fallback is the value for documents
without the field. -/
inductive Domain where
  | any
  | fallback
  | positive
  | rate
  | longitude
  | latitude
deriving DecidableEq

/-- A number in a definition, with what it may be. -/
structure Setting where
  domain : Domain
  number : Number

/-- A number lies in a domain. -/
def Domain.has : Domain → Number → Bool
  | .any, _ => true
  | .fallback, _ => true
  | .positive, x => Number.lt (.int 0) x
  | .rate, x => Number.lt (.int 0) x && x.lt (.int 1)
  | .longitude, x => Number.le (.int (-180)) x && x.le (.int 180)
  | .latitude, x => Number.le (.int (-90)) x && x.le (.int 90)

namespace Setting

/-- A setting lies in its domain. -/
def Within (s : Setting) : Prop :=
  s.domain.has s.number = true

/-- A setting should be positive and is no number. -/
def Unordered (s : Setting) : Prop :=
  s.domain = .positive ∧ s.number.extended = .nan

/-- A setting passes the guard of its domain. -/
def Passes (s : Setting) : Prop :=
  s.Within ∨ s.Unordered

end Setting

def wholeSettings (w : Option Whole) : List Setting :=
  w.toList.map (fun w => ⟨.any, .whole w⟩)

def Fuzzy.settings (f : Fuzzy) : List Setting :=
  wholeSettings f.maxEdits ++ wholeSettings f.prefixLength ++ wholeSettings f.maxExpansions

namespace ScoreFunction

mutual

def settings : ScoreFunction → List Setting
  | .path _ undefined => [⟨.fallback, undefined⟩]
  | .relevance => []
  | .constant x => [⟨.any, x⟩]
  | .combined _ children => allSettings children
  | .gauss _ origin scale decay offset =>
    [⟨.any, origin⟩, ⟨.positive, scale⟩] ++ decay.toList.map (⟨.rate, ·⟩) ++
      offset.toList.map (⟨.any, ·⟩)
  | .transformed _ child => settings child

def allSettings : List ScoreFunction → List Setting
  | [] => []
  | child :: rest => settings child ++ allSettings rest

end

end ScoreFunction

namespace Score

def settings : Score → List Setting
  | .boost x => [⟨.positive, x⟩]
  | .boostPath _ undefined => [⟨.fallback, undefined⟩]
  | .constant x => [⟨.positive, x⟩]
  | .function expression => expression.settings

def entrySettings : Option Score → List Setting
  | none => []
  | some score => score.settings

end Score

namespace Span

mutual

def settings : Span → List Setting
  | .term .. => []
  | .first operator endPosition => settings operator ++ [⟨.any, .whole endPosition⟩]
  | .near clauses slop _ => allSettings clauses ++ [⟨.any, .whole slop⟩]
  | .either clauses => allSettings clauses
  | .subtract kept removed => settings kept ++ settings removed

def allSettings : List Span → List Setting
  | [] => []
  | clause :: rest => settings clause ++ allSettings rest

end

end Span

/-- The settings of a facet: its number of buckets or its numeric boundaries. -/
def Facet.settings : Facet → List Setting
  | .string _ _ buckets => [⟨.any, .whole buckets⟩]
  | .number _ _ boundaries _ => boundaries.map (⟨.any, ·⟩)
  | .date .. => []

def GeoPoint.settings (p : GeoPoint) : List Setting :=
  [⟨.longitude, p.longitude⟩, ⟨.latitude, p.latitude⟩]

/-- The settings of an area: the radius of a circle. -/
def Area.settings : Area Value → List Setting
  | .circle c => [⟨.positive, c.radius⟩]
  | _ => []

def Origin.settings : Origin → List Setting
  | .number x => [⟨.any, x⟩]
  | .date _ => []
  | .point p => p.settings

def Limit.settings : Limit → List Setting
  | .number x => [⟨.any, x⟩]
  | .date _ => []

def Bound.settings (bound : Option (Bound Value)) : List Setting :=
  bound.toList.flatMap (fun b => b.limit.settings)

namespace Operator

mutual

def settings : Operator Value → List Setting
  | .text _ _ fuzzy score => fuzzy.toList.flatMap Fuzzy.settings ++ Score.entrySettings score
  | .phrase _ _ slop score => ⟨.any, .whole slop⟩ :: Score.entrySettings score
  | .autocomplete _ _ _ fuzzy score =>
    fuzzy.toList.flatMap Fuzzy.settings ++ Score.entrySettings score
  | .pattern _ _ _ _ score => Score.entrySettings score
  | .queryString _ _ score => Score.entrySettings score
  | .equals _ _ score => Score.entrySettings score
  | .existence _ => []
  | .near _ origin pivot score => origin.settings ++ ⟨.any, pivot⟩ :: Score.entrySettings score
  | .geoWithin _ area score => area.settings ++ Score.entrySettings score
  | .geoShape _ _ _ score => Score.entrySettings score
  | .range _ _ lower upper score =>
    Bound.settings lower ++ Bound.settings upper ++ Score.entrySettings score
  | .compound must mustNot should filter minimum score =>
    clauseSettings must ++ clauseSettings mustNot ++ clauseSettings should ++
      clauseSettings filter ++ ⟨.any, .whole minimum⟩ :: Score.entrySettings score
  | .span s => s.settings
  | .facet operator facets => settings operator ++ facets.flatMap Facet.settings
  | .raw _ => []

def clauseSettings : Option (List (Operator Value)) → List Setting
  | none => []
  | some clauses => allSettings clauses

def allSettings : List (Operator Value) → List Setting
  | [] => []
  | clause :: rest => settings clause ++ allSettings rest

end

end Operator

/-- The settings of a part of a definition; a bound that stands alone has not
been checked, and has none. -/
@[simp] def Node.settings : Node Value → List Setting
  | .fuzzy f => f.settings
  | .count c => wholeSettings c.threshold
  | .highlight h => wholeSettings h.maxChars ++ wholeSettings h.maxPassages
  | .expression f => f.settings
  | .score s => s.settings
  | .span s => s.settings
  | .facet f => f.settings
  | .point p => p.settings
  | .circle c => [⟨.positive, c.radius⟩]
  | .rangeStart _ given => Score.entrySettings given
  | .operator op => op.settings
  | _ => []

namespace Number

theorem lt_nan_left {x : Number} (nan : x.extended = .nan) (y : Number) : x.lt y = false := by
  rw [lt, nan, Extended.lt_nan_left]

theorem lt_nan_right {x : Number} (nan : x.extended = .nan) (y : Number) : y.lt x = false := by
  rw [lt, nan, Extended.lt_nan_right]

/-- A number is the value of a double that is no number. -/
def IsNan (x : Number) : Prop :=
  x.extended = .nan

/-- A pair is not known to be out of order when it increases or does not compare. -/
theorem le_eq_false_iff {low high : Number} :
    high.le low = false ↔ low.lt high = true ∨ low.IsNan ∨ high.IsNan := by
  unfold le lt IsNan Extended.le
  cases one : low.extended with
  | finite p =>
      cases two : high.extended with
      | finite q =>
          simp only [Extended.lt, Extended.same, Bool.or_eq_false_iff, decide_eq_false_iff_not,
            decide_eq_true_eq, beq_eq_false_iff_ne, ne_eq, reduceCtorEq, or_false]
          constructor
          · rintro ⟨notBelow, different⟩
            rcases Rat.le_iff_lt_or_eq.mp (Rat.not_lt.mp notBelow) with above | same
            · exact above
            · exact absurd same.symm different
          · intro above
            exact ⟨Rat.not_lt.mpr (Rat.le_of_lt above), Rat.ne_of_gt above⟩
      | infinite negative => cases negative <;> simp [Extended.lt, Extended.same]
      | nan => simp [Extended.lt, Extended.same]
  | infinite negative =>
      cases two : high.extended with
      | finite q => cases negative <;> simp [Extended.lt, Extended.same]
      | infinite other => cases negative <;> cases other <;> simp [Extended.lt, Extended.same]
      | nan => simp [Extended.lt, Extended.same]
  | nan => cases two : high.extended <;> simp [Extended.lt, Extended.same]

/-- A number is not known to be zero or less exactly when it is positive or no number. -/
theorem notBelow_iff {x : Number} :
    x.NotBelow ↔ Number.lt (.int 0) x = true ∨ x.extended = .nan := by
  have zero : ¬ (Number.int 0).IsNan := nofun
  unfold NotBelow
  rw [le_eq_false_iff, or_iff_right zero]
  rfl

/-- No number is both positive and no number. -/
theorem not_lt_of_nan {x : Number} (nan : x.extended = .nan) : ¬ Number.lt (.int 0) x = true := by
  rw [lt_nan_right nan]
  exact Bool.false_ne_true

end Number

namespace Setting

variable {s : Setting} {x : Number}

theorem passes_any : (⟨.any, x⟩ : Setting).Passes :=
  .inl rfl

theorem passes_fallback : (⟨.fallback, x⟩ : Setting).Passes :=
  .inl rfl

theorem passes_positive : (⟨.positive, x⟩ : Setting).Passes ↔ x.NotBelow := by
  rw [Number.notBelow_iff]
  unfold Passes Within Unordered Domain.has
  simp only [true_and]

/-- What passes the guard of its domain lies in it, unless it is no number. -/
theorem Passes.within_iff (passes : s.Passes) : s.Within ↔ ¬ s.Unordered := by
  constructor
  · rintro within ⟨positive, nan⟩
    unfold Within at within
    rw [positive] at within
    exact Number.not_lt_of_nan nan within
  · intro ordered
    rcases passes with within | unordered
    · exact within
    · exact absurd unordered ordered

/-- All of several settings pass the guards of their domains. -/
def AllPass (settings : List Setting) : Prop :=
  ∀ s ∈ settings, s.Passes

variable {first second : List Setting}

@[simp]
theorem allPass_nil : AllPass [] := by
  intro s held
  cases held

@[simp]
theorem allPass_cons : AllPass (s :: first) ↔ s.Passes ∧ AllPass first :=
  List.forall_mem_cons

@[simp]
theorem allPass_append : AllPass (first ++ second) ↔ AllPass first ∧ AllPass second :=
  List.forall_mem_append

@[simp]
theorem allPass_any {xs : List Number} : AllPass (xs.map (⟨.any, ·⟩)) := by
  intro s held
  obtain ⟨x, -, rfl⟩ := List.mem_map.mp held
  exact passes_any

@[simp]
theorem allPass_wholeSettings {w : Option Whole} : AllPass (wholeSettings w) := by
  intro s held
  obtain ⟨n, -, rfl⟩ := List.mem_map.mp held
  exact passes_any

end Setting

theorem ScoreFunction.allSettings_eq (fs : List ScoreFunction) :
    allSettings fs = fs.flatMap settings := by
  induction fs with
  | nil => simp [allSettings]
  | cons f rest ih => simp [allSettings, ih]

theorem Score.entrySettings_eq (score : Option Score) :
    entrySettings score = score.toList.flatMap settings := by
  cases score <;> simp [entrySettings]

theorem Span.allSettings_eq (ss : List Span) : allSettings ss = ss.flatMap settings := by
  induction ss with
  | nil => simp [allSettings]
  | cons s rest ih => simp [allSettings, ih]

namespace Operator

theorem allSettings_eq (ops : List (Operator Value)) : allSettings ops = ops.flatMap settings := by
  induction ops with
  | nil => simp [allSettings]
  | cons op rest ih => simp [allSettings, ih]

theorem clauseSettings_eq (clauses : Option (List (Operator Value))) :
    clauseSettings clauses = clauses.toList.flatMap (fun ops => ops.flatMap settings) := by
  cases clauses <;> simp [clauseSettings, allSettings_eq]

end Operator

namespace Setting

theorem allPass_bound (bound : Option (Bound Value)) : AllPass (Bound.settings bound) := by
  rcases bound with _ | ⟨limit, inclusive⟩
  · exact allPass_nil
  · cases limit with
    | number x => simp [Bound.settings, Limit.settings, passes_any]
    | date t => simp [Bound.settings, Limit.settings]

theorem allPass_fuzzy (fuzzy : Option Fuzzy) : AllPass (fuzzy.toList.flatMap Fuzzy.settings) := by
  cases fuzzy <;> simp [Fuzzy.settings]

theorem allPass_point {x y : Number} :
    AllPass (⟨x, y⟩ : GeoPoint).settings ↔
      (Number.le (.int (-180)) x = true ∧ x.le (.int 180) = true) ∧
        Number.le (.int (-90)) y = true ∧ y.le (.int 90) = true := by
  simp [GeoPoint.settings, Passes, Within, Unordered, Domain.has]

theorem allPass_rate {rate : Option Number} :
    AllPass (rate.toList.map (⟨.rate, ·⟩)) ↔
      ∀ x ∈ rate, Number.lt (.int 0) x = true ∧ x.lt (.int 1) = true := by
  cases rate <;> simp [Passes, Within, Unordered, Domain.has]

end Setting

open Setting

section Step

variable {k : Constructor} {given : List Value} {n : Node Value}

theorem allPass_score {s : Option Score} (parts : ∀ v ∈ given, AllPass (v.gather Node.settings))
    (held : Value.ofScore s ∈ given) : AllPass (Score.entrySettings s) := by
  have scored := parts _ held
  rw [Value.gather_ofScore] at scored
  rw [Score.entrySettings_eq]
  exact scored

theorem allPass_origin {o : Origin} (parts : ∀ v ∈ given, AllPass (v.gather Node.settings))
    (held : Value.ofOrigin o ∈ given) : AllPass o.settings := by
  cases o with
  | number x => simp [Origin.settings, passes_any]
  | date t => simp [Origin.settings]
  | point p =>
      have located := parts (.node (.point p)) held
      rwa [Value.gather_node] at located

theorem allPass_clauses {clauses : Option (List (Operator Value))}
    (parts : ∀ v ∈ given, AllPass (v.gather Node.settings))
    (held : Value.ofClauses clauses ∈ given) :
    AllPass (Operator.clauseSettings clauses) := by
  have nested := parts _ held
  rw [Value.gather_ofClauses] at nested
  rw [Operator.clauseSettings_eq]
  exact nested

/-- A constructor keeps every setting within what the guard of its domain lets pass. -/
theorem Constructor.Builds.allPass (built : k.Builds given n)
    (parts : ∀ v ∈ given, AllPass (v.gather Node.settings)) : AllPass n.settings := by
  cases built with
  | fuzzy => simp [Fuzzy.settings]
  | count => simp
  | highlight => simp
  | point east west south north => exact allPass_point.mpr ⟨⟨east, west⟩, south, north⟩
  | circle center radius => simpa using passes_positive.mpr radius
  | pathFunction => simp [ScoreFunction.settings, passes_fallback]
  | relevance => simp [ScoreFunction.settings]
  | constantFunction => simp [ScoreFunction.settings, passes_any]
  | combined enough => simpa [ScoreFunction.settings, ScoreFunction.allSettings_eq] using parts
  | gauss positive rate =>
      simp only [Node.settings, ScoreFunction.settings, allPass_append, allPass_cons]
      exact ⟨⟨⟨passes_any, passes_positive.mpr positive, allPass_nil⟩, allPass_rate.mpr rate⟩,
        allPass_any⟩
  | transformed => simpa [ScoreFunction.settings] using parts
  | boost positive => simpa [Score.settings, passes_positive] using positive
  | boostPath => simp [Score.settings, passes_fallback]
  | constant positive => simpa [Score.settings, passes_positive] using positive
  | function => simpa [Score.settings] using parts
  | spanTerm => simp [Span.settings]
  | spanFirst =>
      simpa [Span.settings, passes_any] using parts _ List.mem_cons_self
  | spanNear =>
      simpa [Span.settings, Span.allSettings_eq, passes_any] using parts _ List.mem_cons_self
  | spanOr => simpa [Span.settings, Span.allSettings_eq] using parts
  | spanSubtract => simpa [Span.settings] using parts
  | stringFacet => simp [Facet.settings, passes_any]
  | numberFacet => simp [Facet.settings]
  | dateFacet => simp [Facet.settings]
  | text =>
      simpa [Operator.settings, allPass_fuzzy] using allPass_score parts (by simp)
  | phrase =>
      simpa [Operator.settings, passes_any] using allPass_score parts (by simp)
  | autocomplete =>
      simpa [Operator.settings, allPass_fuzzy] using allPass_score parts (by simp)
  | pattern => simpa [Operator.settings] using allPass_score parts (by simp)
  | queryString => simpa [Operator.settings] using allPass_score parts (by simp)
  | equals => simpa [Operator.settings] using allPass_score parts (by simp)
  | existence => simp [Operator.settings]
  | near =>
      simp only [Node.settings, Operator.settings, allPass_append, allPass_cons]
      exact ⟨allPass_origin parts (by simp), passes_any, allPass_score parts (by simp)⟩
  | geoWithinGeometry =>
      simpa [Operator.settings, Area.settings] using allPass_score parts (by simp)
  | geoWithinBox => simpa [Operator.settings, Area.settings] using allPass_score parts (by simp)
  | @geoWithinCircle p c s =>
      have circled : AllPass [⟨.positive, c.radius⟩] := by
        simpa using parts (.node (.circle c)) (by simp)
      simp only [Node.settings, Operator.settings, Area.settings, allPass_append]
      exact ⟨circled, allPass_score parts (by simp)⟩
  | geoShape => simpa [Operator.settings] using allPass_score parts (by simp)
  | raw => simp [Operator.settings]
  | compound =>
      simp only [Node.settings, Operator.settings, allPass_append, allPass_cons]
      exact ⟨⟨⟨⟨allPass_clauses parts (by simp), allPass_clauses parts (by simp)⟩,
        allPass_clauses parts (by simp)⟩, allPass_clauses parts (by simp)⟩, passes_any,
          allPass_score parts (by simp)⟩
  | span => simpa [Operator.settings] using parts
  | facet => simpa [Operator.settings] using parts
  | range =>
      simp only [Node.settings, Operator.settings, allPass_append]
      exact ⟨⟨allPass_bound _, allPass_bound _⟩, allPass_score parts (by simp)⟩
  | rangeStart => exact allPass_score parts (by simp)
  | _ => exact allPass_nil

end Step

/-- Every setting of an accepted node passes the guard of its domain. -/
theorem Accepted.allPass {n : Node Value} (accepted : Accepted n) : AllPass n.settings := by
  have other : ∀ n : Node Value, ¬ n.Part → AllPass n.settings := by
    intro n apart
    cases n
    all_goals first | exact allPass_nil | exact absurd trivial apart
  exact accepted.gathered other (fun _ _ _ built parts => built.allPass parts)

namespace Constructor

/-- Arguments of the right kinds for a constructor whose settings have a
range, with the settings among them. -/
inductive Fits : Constructor → List Value → List Setting → Prop where
  | boost (x : Number) : Fits .boost [.number x] [⟨.positive, x⟩]
  | constant (x : Number) : Fits .constant [.number x] [⟨.positive, x⟩]
  | point (x y : Number) : Fits .point [.number x, .number y] [⟨.longitude, x⟩, ⟨.latitude, y⟩]
  | circle {v : Value} {g : Geometry Value} (center : Geometry.point "center" v = .ok g)
      (r : Number) : Fits .circle [v, .number r] [⟨.positive, r⟩]
  | gauss (p : Path) (origin scale : Number) (decay offset : Option Number) :
      Fits .gauss [.ofPath p, .number origin, .number scale, .ofOption .number decay,
        .ofOption .number offset] (ScoreFunction.settings (.gauss p origin scale decay offset))

/-- The arguments of a constructor that should be numbers. -/
def numeric : Constructor → List Value → List Value
  | .fuzzy, given => given
  | .count, [_, threshold] => [threshold]
  | .highlight, [_, chars, passages] => [chars, passages]
  | .point, given => given
  | .circle, [_, radius] => [radius]
  | .pathFunction, [_, undefined] => [undefined]
  | .constantFunction, given => given
  | .gauss, _ :: given => given
  | .boost, given => given
  | .boostPath, [_, undefined] => [undefined]
  | .constant, given => given
  | .spanFirst, [_, endPosition] => [endPosition]
  | .spanNear, [_, slop, _] => [slop]
  | .stringFacet, [_, _, buckets] => [buckets]
  | .numberFacet, [_, _, .tuple boundaries, _] => boundaries
  | .phrase, [_, _, slop, _] => [slop]
  | .near, [_, origin, pivot, _] => [origin, pivot]
  | .compound, [_, _, _, _, minimum, _] => [minimum]
  | .bound, [value, _] => [value]
  | .range _, [_, lower, upper, _] => [lower, upper].filterMap limit?
  | _, _ => []
where
  /-- The value of a bound. -/
  limit? : Value → Option Value
    | .node (.bound value _) => some value
    | _ => none

variable {k : Constructor} {given : List Value} {n : Node Value} {settings : List Setting}

theorem flag_ne_ofOption {α : Type} {wrap : α → Value} {b : Bool} (other : ∀ a, wrap a ≠ .bool b)
    (found : Option α) : .bool b ≠ Value.ofOption wrap found := by
  cases found with
  | none => exact Value.noConfusion
  | some a => exact (other a).symm

theorem flag_ne_ofOrigin (b : Bool) (o : Origin) : .bool b ≠ Value.ofOrigin o := by
  cases o <;> exact Value.noConfusion

theorem flag_ne_limit (b : Bool) (bound : Option (Bound Value)) :
    ∀ v ∈ numeric.limit? (.ofBound bound), .bool b ≠ v := by
  intro v held
  rcases bound with _ | ⟨limit, inclusive⟩
  · cases held
  · cases limit with
    | number x =>
        cases held
        exact Value.noConfusion
    | date t =>
        cases held
        exact Value.noConfusion

/-- No truth value passes for a number. -/
theorem Builds.no_flag (built : k.Builds given n) (checked : k ≠ .bound) (b : Bool) :
    .bool b ∉ k.numeric given := by
  have whole : ∀ w : Option Whole, .bool b ≠ Value.ofOption .whole w :=
    flag_ne_ofOption (fun _ => Value.noConfusion)
  have number : ∀ x : Option Number, .bool b ≠ Value.ofOption .number x :=
    flag_ne_ofOption (fun _ => Value.noConfusion)
  cases built with
  | fuzzy => simp [numeric, whole]
  | count => simp [numeric, whole]
  | highlight => simp [numeric, whole]
  | gauss => simp [numeric, number]
  | near => simp [numeric, flag_ne_ofOrigin]
  | @range form p lower upper s =>
      intro held
      obtain ⟨v, among, found⟩ := List.mem_filterMap.mp held
      rcases List.mem_cons.mp among with rfl | later
      · exact flag_ne_limit b lower _ found rfl
      · rcases List.mem_singleton.mp later with rfl
        exact flag_ne_limit b upper _ found rfl
  | bound => exact absurd rfl checked
  | _ => simp [numeric]

/-- A step is refused because a number is out of its range. -/
def RefusesRange {α : Type} (outcome : Checked α) : Prop :=
  ∃ argument v reason, outcome = .error (.outOfRange argument v reason)

/-- A setting is the first of several that strays from its domain, as what is no number does not. -/
def FirstAstray (settings : List Setting) (s : Setting) : Prop :=
  ∃ before after, settings = before ++ s :: after ∧ AllPass before ∧ ¬ s.Passes

theorem FirstAstray.append {s : Setting} (first : FirstAstray settings s) (more : List Setting) :
    FirstAstray (settings ++ more) s := by
  obtain ⟨before, after, rfl, pass, stray⟩ := first
  exact ⟨before, after ++ more, by simp, pass, stray⟩

theorem FirstAstray.prepend {s : Setting} (first : FirstAstray settings s)
    {earlier : List Setting} (pass : AllPass earlier) : FirstAstray (earlier ++ settings) s := by
  obtain ⟨before, after, rfl, also, stray⟩ := first
  exact ⟨earlier ++ before, after, by simp, allPass_append.mpr ⟨pass, also⟩, stray⟩

theorem FirstAstray.unique {s t : Setting} (first : FirstAstray settings s)
    (other : FirstAstray settings t) : s = t := by
  obtain ⟨before, after, split, pass, stray⟩ := first
  obtain ⟨earlier, later, again, also, astray⟩ := other
  exact Outcome.first_unique split pass stray again also astray

/-- A step that settings decide: it gives a value if all of them pass, and is otherwise refused
because of the first that strays, with a report of it if it can be written. -/
def Decides {α : Type} (settings : List Setting) (outcome : Checked α) (a : α) : Prop :=
  (AllPass settings ∧ outcome = .ok a) ∨
    ∃ s, FirstAstray settings s ∧ ∃ argument v reason,
      outcome = .error (.worded s.number.isWritable (.outOfRange argument v reason))

namespace Decides

variable {α β : Type} {ours theirs : List Setting} {first : Checked α} {next : α → Checked β}
  {a : α} {b : β}

theorem done (pass : AllPass ours) : Decides ours (.ok a : Checked α) a :=
  .inl ⟨pass, rfl⟩

/-- Two steps are decided by the settings of both. -/
theorem bind (decides : Decides ours first a) (rest : Decides theirs (next a) b) :
    Decides (ours ++ theirs) (first >>= next) b := by
  rcases decides with ⟨pass, made⟩ | ⟨s, astray, argument, v, reason, stopped⟩
  · rw [made]
    rcases rest with ⟨also, more⟩ | ⟨s, astray, stopped⟩
    · exact .inl ⟨allPass_append.mpr ⟨pass, also⟩, more⟩
    · exact .inr ⟨s, astray.prepend pass, stopped⟩
  · exact .inr ⟨s, astray.append theirs, argument, v, reason, by rw [stopped]; rfl⟩

theorem map (decides : Decides ours first a) (f : α → β) :
    Decides ours (first.map f) (f a) := by
  rcases decides with ⟨pass, made⟩ | ⟨s, astray, argument, v, reason, stopped⟩
  · exact .inl ⟨pass, by rw [made]; rfl⟩
  · exact .inr ⟨s, astray, argument, v, reason, by rw [stopped]; rfl⟩

theorem not_allPass {s : Setting} (astray : FirstAstray ours s) : ¬ AllPass ours := by
  obtain ⟨before, after, rfl, -, stray⟩ := astray
  exact fun pass => stray (pass s (List.mem_append_right _ List.mem_cons_self))

theorem eq_ok_iff (decides : Decides ours first a) {other : α} :
    first = .ok other ↔ AllPass ours ∧ other = a := by
  rcases decides with ⟨pass, made⟩ | ⟨s, astray, argument, v, reason, stopped⟩
  · rw [made, Except.ok.injEq, and_iff_right pass, eq_comm]
  · rw [stopped]
    exact iff_of_false nofun (fun both => not_allPass astray both.1)

/-- A step reports the first setting that strays exactly if it can be written. -/
theorem refuses_iff (decides : Decides ours first a) :
    RefusesRange first ↔ ∃ s, FirstAstray ours s ∧ s.number.isWritable = true := by
  rcases decides with ⟨pass, made⟩ | ⟨s, astray, argument, v, reason, stopped⟩
  · rw [made]
    exact iff_of_false nofun (fun ⟨s, astray, _⟩ => not_allPass astray pass)
  · rw [stopped]
    cases short : s.number.isWritable with
    | true => exact iff_of_true ⟨argument, v, reason, rfl⟩ ⟨s, astray, short⟩
    | false =>
        refine iff_of_false nofun ?_
        rintro ⟨t, also, long⟩
        rw [← astray.unique also, short] at long
        cases long

/-- A step fails for the host exactly if the first setting that strays cannot be written. -/
theorem unwritten_iff (decides : Decides ours first a) :
    first = .error (.refused .badValue) ↔
      ∃ s, FirstAstray ours s ∧ s.number.isWritable = false := by
  rcases decides with ⟨pass, made⟩ | ⟨s, astray, argument, v, reason, stopped⟩
  · rw [made]
    exact iff_of_false nofun (fun ⟨s, astray, _⟩ => not_allPass astray pass)
  · rw [stopped]
    cases short : s.number.isWritable with
    | false => exact iff_of_true rfl ⟨s, astray, short⟩
    | true =>
        refine iff_of_false nofun ?_
        rintro ⟨t, also, long⟩
        rw [← astray.unique also, short] at long
        cases long

/-- A check of one setting. -/
theorem of_check {d : Domain} {x : Number} {condition : Bool} {argument : String} {v : Value}
    {reason : String → Reason} (same : condition = true ↔ (⟨d, x⟩ : Setting).Passes) :
    Decides [⟨d, x⟩]
      (if condition then .ok a else .error (Guard.outside argument v x reason)) a := by
  cases passes : condition with
  | false =>
      refine .inr ⟨⟨d, x⟩, ⟨[], [], rfl, allPass_nil, fun pass => ?_⟩, argument, v, _, rfl⟩
      rw [passes] at same
      exact Bool.noConfusion (same.mpr pass)
  | true => exact .inl ⟨by simpa using same.mp passes, rfl⟩

end Decides

/-- The guard of positive numbers passes what passes, and refuses everything else. -/
theorem positive_decides (argument : String) (x : Number) :
    Decides [⟨.positive, x⟩] (Guard.positive argument (.number x)) x := by
  have shape : Guard.positive argument (.number x) = if !x.le (.int 0) then .ok x else
      .error (Guard.outside argument (.number x) x .notPositive) := by
    have plain : Guard.positive argument (.number x) = if x.le (.int 0) then
        .error (Guard.outside argument (.number x) x .notPositive) else .ok x := rfl
    rw [plain]
    cases x.le (.int 0) <;> rfl
  rw [shape]
  refine Decides.of_check ?_
  rw [passes_positive, Bool.not_eq_true']
  rfl

/-- The guard of bounded numbers passes those within the bounds, and refuses every other. -/
theorem between_decides {d : Domain} {low high : Number} (argument : String) (x : Number)
    (same : (low.le x && x.le high) = true ↔ (⟨d, x⟩ : Setting).Passes) :
    Decides [⟨d, x⟩] (Guard.between low high argument (.number x)) x :=
  Decides.of_check same

/-- The guard of rates passes no rate and those between zero and one, and refuses every other. -/
theorem rate_decides (argument : String) (rate : Option Number) :
    Decides (rate.toList.map (⟨.rate, ·⟩))
      (Guard.optional ScoreFunction.rate argument (.ofOption .number rate)) rate := by
  cases rate with
  | none => exact .inl ⟨allPass_nil, rfl⟩
  | some x =>
      have shape : Guard.optional ScoreFunction.rate argument (.ofOption .number (some x)) =
          (if Number.lt (.int 0) x && x.lt (.int 1) then (.ok x : Checked Number) else
            .error (Guard.outside argument (.number x) x .notStrictlyInside)).map some := rfl
      have passes : (Number.lt (.int 0) x && x.lt (.int 1)) = true ↔
          (⟨.rate, x⟩ : Setting).Passes := by
        simp [Passes, Within, Unordered, Domain.has]
      rw [shape]
      exact (Decides.of_check passes).map some

/-- A constructor that is given arguments of the right kinds makes a node with
the settings that it is given if all of them pass, and is refused because of the
first that strays otherwise. -/
theorem Fits.run_decides (fits : k.Fits given settings) :
    ∃ n, n.settings = settings ∧ Decides settings (k.run given) n := by
  cases fits with
  | boost x =>
      refine ⟨.score (.boost x), by simp [Score.settings], ?_⟩
      have built : Decides [⟨.positive, x⟩] (Score.ofBoost (.number x)) (.boost x) :=
        (positive_decides "value" x).bind (.done allPass_nil)
      exact built.map Node.score
  | constant x =>
      refine ⟨.score (.constant x), by simp [Score.settings], ?_⟩
      have built : Decides [⟨.positive, x⟩] (Score.ofConstant (.number x)) (.constant x) :=
        (positive_decides "value" x).bind (.done allPass_nil)
      exact built.map Node.score
  | @circle v g center r =>
      have found : Decides [] (Geometry.point "center" v) g := .inl ⟨allPass_nil, center⟩
      have built : Decides [⟨.positive, r⟩] (GeoCircle.build v (.number r)) ⟨g, r⟩ :=
        found.bind ((positive_decides "radius" r).bind (.done allPass_nil))
      exact ⟨.circle ⟨g, r⟩, by simp, built.map Node.circle⟩
  | point x y =>
      have long : (Number.le (.int (-180)) x && x.le (.int 180)) = true ↔
          (⟨.longitude, x⟩ : Setting).Passes := by
        simp [Passes, Within, Unordered, Domain.has]
      have lat : (Number.le (.int (-90)) y && y.le (.int 90)) = true ↔
          (⟨.latitude, y⟩ : Setting).Passes := by
        simp [Passes, Within, Unordered, Domain.has]
      have south : Decides [⟨.latitude, y⟩] (_ >>= fun y => .ok (⟨x, y⟩ : GeoPoint)) ⟨x, y⟩ :=
        (between_decides "latitude" y lat).bind (.done allPass_nil)
      have built : Decides [⟨.longitude, x⟩, ⟨.latitude, y⟩]
          (GeoPoint.build (.number x) (.number y)) ⟨x, y⟩ :=
        (between_decides "longitude" x long).bind south
      exact ⟨.point ⟨x, y⟩, by simp [GeoPoint.settings], built.map Node.point⟩
  | gauss p origin scale decay offset =>
      have path : Decides [] (Guard.path "path" (.ofPath p)) p := .inl ⟨allPass_nil, rfl⟩
      have start : Decides [⟨.any, origin⟩] (Guard.number "origin" (.number origin)) origin :=
        .inl ⟨by simp [passes_any], rfl⟩
      have last : Decides (offset.toList.map (⟨.any, ·⟩))
          (Guard.optional Guard.number "offset" (.ofOption .number offset)) offset :=
        .inl ⟨allPass_any, by cases offset <;> rfl⟩
      have built : Decides ([] ++ ([⟨.any, origin⟩] ++ ([⟨.positive, scale⟩] ++
          (decay.toList.map (⟨.rate, ·⟩) ++ (offset.toList.map (⟨.any, ·⟩) ++ [])))))
          (ScoreFunction.ofGauss (.ofPath p) (.number origin) (.number scale)
            (.ofOption .number decay) (.ofOption .number offset))
          (.gauss p origin scale decay offset) :=
        path.bind (start.bind ((positive_decides "scale" scale).bind
          ((rate_decides "decay" decay).bind (last.bind (.done allPass_nil)))))
      refine ⟨.expression (.gauss p origin scale decay offset), by simp, ?_⟩
      have same : ScoreFunction.settings (.gauss p origin scale decay offset) = [] ++
          ([⟨.any, origin⟩] ++ ([⟨.positive, scale⟩] ++ (decay.toList.map (⟨.rate, ·⟩) ++
            (offset.toList.map (⟨.any, ·⟩) ++ [])))) := by
        simp [ScoreFunction.settings]
      rw [same]
      exact built.map Node.expression

/-- Every setting of an accepted node lies in its domain unless it should be
positive and is no number.  A constructor that is given arguments of the right
kinds reports a number that is out of its range exactly when one of its
settings strays from its domain in any other way and the first such can be
written; it makes a node with these settings exactly when none does, and fails
for the host on a number of too many digits otherwise.  And where a number is
expected no truth value is ever accepted, except by a bound, which checks
nothing before it is used. -/
theorem numeric_domains (k : Constructor) (given : List Value) (n : Node Value) :
    (Accepted n → ∀ s ∈ n.settings, s.Within ↔ ¬ s.Unordered) ∧
    (∀ settings, k.Fits given settings →
      (RefusesRange (k.run given) ↔
        ∃ s, FirstAstray settings s ∧ s.number.isWritable = true) ∧
      (k.run given = .error (.refused .badValue) ↔
        ∃ s, FirstAstray settings s ∧ s.number.isWritable = false) ∧
        ((∃ made, k.run given = .ok made ∧ made.settings = settings) ↔
          ∀ s ∈ settings, s.Within ∨ s.Unordered)) ∧
    (k ≠ .bound → k.run given = .ok n → ∀ b, .bool b ∉ k.numeric given) := by
  refine ⟨?_, ?_, ?_⟩
  · intro accepted s held
    exact (accepted.allPass s held).within_iff
  · intro settings fits
    obtain ⟨n, own, decides⟩ := fits.run_decides
    refine ⟨decides.refuses_iff, decides.unwritten_iff, ?_⟩
    constructor
    · rintro ⟨made, passed, -⟩
      exact (decides.eq_ok_iff.mp passed).1
    · intro passes
      exact ⟨n, decides.eq_ok_iff.mpr ⟨passes, rfl⟩, own⟩
  · intro checked made b
    exact (run_builds made).no_flag checked b

theorem accepted_boost {x : Number} (positive : x.le (.int 0) = false) :
    Accepted (.score (.boost x)) := by
  refine .made .boost [.number x] ?_ ?_
  · intro v held m part
    rw [List.mem_singleton.mp held] at part
    cases part
  · have shape : run .boost [.number x] =
        ((Guard.positive "value" (.number x)) >>= fun x => .ok (.boost x)).map .score := rfl
    rw [shape, Guard.positive_eq_ok.mpr ⟨rfl, positive⟩]
    rfl

/-- A boost of two lies in its domain, and one of minus two is reported. -/
theorem boost_two_within :
    Accepted (.score (.boost (.int 2))) ∧ (⟨.positive, .int 2⟩ : Setting).Within ∧
      Fits .boost [.number (.int (-2))] [⟨.positive, .int (-2)⟩] ∧
      RefusesRange (run .boost [.number (.int (-2))]) ∧
      run .boost [.number (.int 2)] = .ok (.score (.boost (.int 2))) ∧
      ∀ b, .bool b ∉ numeric .boost [.number (.int 2)] := by
  have accepted : Accepted (.score (.boost (.int 2))) := accepted_boost (by decide)
  have made : run .boost [.number (.int 2)] = .ok (.score (.boost (.int 2))) := rfl
  have fits : Fits .boost [.number (.int (-2))] [⟨.positive, .int (-2)⟩] := .boost _
  obtain ⟨within, -, noFlag⟩ :=
    numeric_domains .boost [.number (.int 2)] (.score (.boost (.int 2)))
  obtain ⟨-, refuses, -⟩ :=
    numeric_domains .boost [.number (.int (-2))] (.score (.boost (.int (-2))))
  refine ⟨accepted, ?_, fits, ?_, made, noFlag nofun made⟩
  · apply (within accepted _ ?_).mpr
    · rintro ⟨-, nan⟩
      cases nan
    · simp [Score.settings]
  · refine (refuses _ fits).1.mpr ⟨_, ⟨[], [], rfl, allPass_nil, ?_⟩, by decide⟩
    rintro (within | ⟨-, nan⟩)
    · unfold Within at within
      revert within
      decide
    · cases nan

/-- What is no number is accepted as a boost, and as every other number that should be positive. -/
theorem boost_nan_not_within :
    run .boost [.number (.double (.nan 0))] = .ok (.score (.boost (.double (.nan 0)))) ∧
      Accepted (.score (.boost (.double (.nan 0)))) ∧
      ¬ (⟨.positive, .double (.nan 0)⟩ : Setting).Within ∧
      ¬ RefusesRange (run .boost [.number (.double (.nan 0))]) := by
  have made : run .boost [.number (.double (.nan 0))] = .ok (.score (.boost (.double (.nan 0)))) :=
    rfl
  refine ⟨made, accepted_boost rfl, ?_, ?_⟩
  · unfold Within
    decide
  · rintro ⟨argument, v, reason, stopped⟩
    rw [made] at stopped
    cases stopped

end Constructor

end SearchQuery
