import SearchQuery.ExtendedJson.Decode
import SearchQuery.Proofs.OperatorBuilders

/-!
# Values that programs make

A program makes its definitions by calling factories, and goes on from them by
calling their methods.  What it calls them with is data of its own, or what
other calls have made, or containers of such.  Every value made in this way is
sound, so its definitions are admissible.
-/

namespace SearchQuery

/-- What makes a part of a definition: a factory, a kind of plain parts, or a
method, which is given first what it is called on. -/
inductive Factory where
  | singleQuery | multiQuery | query
  | singlePath | multiPath | analyzer | wildcardPath | path
  | fuzzy | count | highlight | highlights
  | point | box | circle
  | pathValue | relevance | constantValue | add | multiply | gauss | log | log1p
  | boost | boostPath | constant | function
  | spanTerm | spanFirst | spanNear | spanOr | spanSubtract
  | stringFacet | numberFacet | dateFacet
  | text | phrase | autocomplete | wildcard | regex | queryString | equals | existence | near
  | geoWithin | geoWithinBox | geoWithinCircle | geoShape
  | span | facet | raw (tag : Nat)
  | range | bound (side : Range.Side)
  | compound | clauses (role : Compound.Role) | atLeast

def Factory.one (call : Value → Checked (Node Value)) : List Value → Checked (Node Value)
  | [a] => call a
  | _ => .error (.refused .wrongType)

def Factory.two (call : Value → Value → Checked (Node Value)) : List Value → Checked (Node Value)
  | [a, b] => call a b
  | _ => .error (.refused .wrongType)

def Factory.three (call : Value → Value → Value → Checked (Node Value)) :
    List Value → Checked (Node Value)
  | [a, b, c] => call a b c
  | _ => .error (.refused .wrongType)

def Factory.four (call : Value → Value → Value → Value → Checked (Node Value)) :
    List Value → Checked (Node Value)
  | [a, b, c, d] => call a b c d
  | _ => .error (.refused .wrongType)

def Factory.five (call : Value → Value → Value → Value → Value → Checked (Node Value)) :
    List Value → Checked (Node Value)
  | [a, b, c, d, e] => call a b c d e
  | _ => .error (.refused .wrongType)

/-- A call that takes an operator and any number of further arguments. -/
def Factory.first (call : Value → List Value → Checked (Node Value)) :
    List Value → Checked (Node Value)
  | [] => .error (.refused .wrongType)
  | a :: rest => call a rest

def Factory.bounded (side : Range.Side) (v : Value) : Value → Checked (Node Value)
  | .node (.rangeStart p s) => (Range.first ⟨p, s⟩ side v).map .operator
  | .node (.operator (.range form p lower upper s)) =>
    match Range.second? form p lower upper s side v with
    | some outcome => outcome.map .operator
    | none => .error (.refused .wrongType)
  | _ => .error (.refused .wrongType)

def Factory.changed (change : Operator Value → Checked (Operator Value)) :
    Value → Checked (Node Value)
  | .node (.operator op) => (change op).map .operator
  | _ => .error (.refused .wrongType)

namespace Factory

def run : Factory → List Value → Checked (Node Value)
  | .singleQuery => one (fun q => (Query.ofText q).map .query)
  | .multiQuery => one (fun qs => (Query.ofTexts qs).map .query)
  | .query => one (fun v => (Query.coerce v).map .query)
  | .singlePath => one (fun f => (Path.ofField f).map .path)
  | .multiPath => one (fun fs => (Path.ofFields fs).map .path)
  | .analyzer => two (fun f name => (Path.ofAnalyzer f name).map .path)
  | .wildcardPath => one (fun pattern => (Path.ofPattern pattern).map .path)
  | .path => one (fun v => (Path.coerce v).map .path)
  | .fuzzy => three (fun edits kept expansions => (Fuzzy.build edits kept expansions).map .fuzzy)
  | .count => two (fun type threshold => (Count.build type threshold).map .count)
  | .highlight => three (fun p chars passages => (Highlight.build p chars passages).map .highlight)
  | .highlights => three (fun p chars passages => (Highlight.make p chars passages).map .highlight)
  | .point => two (fun longitude latitude => (GeoPoint.build longitude latitude).map .point)
  | .box => two (fun bottomLeft topRight => (GeoBox.build bottomLeft topRight).map .box)
  | .circle => two (fun center radius => (GeoCircle.build center radius).map .circle)
  | .pathValue => two (fun p undefined => (ScoreFunction.makePath p undefined).map .expression)
  | .relevance => fun _ => .ok (.expression .relevance)
  | .constantValue => one (fun x => (ScoreFunction.ofConstant x).map .expression)
  | .add => fun children => (ScoreFunction.ofOperands .sum (.tuple children)).map .expression
  | .multiply =>
    fun children => (ScoreFunction.ofOperands .product (.tuple children)).map .expression
  | .gauss => five (fun p origin scale decay offset =>
    (ScoreFunction.makeGauss p origin scale decay offset).map .expression)
  | .log => one (fun child => (ScoreFunction.ofOperand .log child).map .expression)
  | .log1p => one (fun child => (ScoreFunction.ofOperand .log1p child).map .expression)
  | .boost => one (fun x => (Score.ofBoost x).map .score)
  | .boostPath => two (fun p undefined => (Score.makeBoostPath p undefined).map .score)
  | .constant => one (fun x => (Score.ofConstant x).map .score)
  | .function => one (fun f => (Score.ofFunction f).map .score)
  | .spanTerm => two (fun q p => (Span.makeTerm q p).map .span)
  | .spanFirst => two (fun s endPosition => (Span.ofFirst s endPosition).map .span)
  | .spanNear => three (fun spans slop inOrder => (Span.makeNear spans slop inOrder).map .span)
  | .spanOr => fun spans => (Span.ofAlternatives (.tuple spans)).map .span
  | .spanSubtract => two (fun kept removed => (Span.ofSubtract kept removed).map .span)
  | .stringFacet => three (fun name p buckets => (Facet.makeString name p buckets).map .facet)
  | .numberFacet =>
    four (fun name p bounds outside => (Facet.makeNumbers name p bounds outside).map .facet)
  | .dateFacet =>
    four (fun name p bounds outside => (Facet.makeDates name p bounds outside).map .facet)
  | .text => four (fun q p f s => (Operator.makeText q p f s).map .operator)
  | .phrase => four (fun q p slop s => (Operator.makePhrase q p slop s).map .operator)
  | .autocomplete =>
    five (fun q p order f s => (Operator.makeAutocomplete q p order f s).map .operator)
  | .wildcard =>
    four (fun q p analyzed s => (Operator.makePattern .wildcard q p analyzed s).map .operator)
  | .regex =>
    four (fun q p analyzed s => (Operator.makePattern .regex q p analyzed s).map .operator)
  | .queryString => three (fun f q s => (Operator.ofQueryString f q s).map .operator)
  | .equals => three (fun f v s => (Operator.ofEquals f v s).map .operator)
  | .existence => one (fun f => (Operator.ofExistence f).map .operator)
  | .near => four (fun p origin pivot s => (Operator.makeNear p origin pivot s).map .operator)
  | .geoWithin => three (fun p g s => (Operator.makeGeoWithin p g s).map .operator)
  | .geoWithinBox => three (fun p b s => (Operator.makeGeoWithinBox p b s).map .operator)
  | .geoWithinCircle => three (fun p c s => (Operator.makeGeoWithinCircle p c s).map .operator)
  | .geoShape =>
    four (fun p g relation s => (Operator.makeGeoShape p g relation s).map .operator)
  | .span => one (fun s => (Operator.ofSpan s).map .operator)
  | .facet => first (fun op facets => (Operator.ofFacets op (.tuple facets)).map .operator)
  | .raw tag => one (fun document => (Operator.makeRaw tag document).map .operator)
  | .range =>
    two (fun p s => (Range.make p s).map (fun start => .rangeStart start.path start.score))
  | .bound side => two (fun range v => bounded side v range)
  | .compound => one (fun s => (Compound.make s).map .operator)
  | .clauses role => first (fun op given => changed (Compound.add role given) op)
  | .atLeast => two (fun op minimum => changed (Compound.atLeast minimum) op)

end Factory

/-- A node that holds no other value and is no part of a definition. -/
def Node.Plain : Node Value → Prop
  | .choice _ => True
  | .classNamed .. => True
  | .operation _ => True
  | .model _ => True
  | .memberInfo _ => True
  | .generic .. => True
  | .field _ => True
  | .members .. => True
  | .looseMembers .. => True
  | .schema .. => True
  | .fault .. => True
  | .outlined t => Value.ofTerm t = .node (.outlined t)
  | .module _ => True
  | .other .. => True
  | _ => False

namespace Value

/-- A value that holds no other value and is no part of a definition. -/
def Plain : Value → Prop
  | .list _ => False
  | .tuple _ => False
  | .set _ => False
  | .dict _ => False
  | .stream .. => False
  | .shape .. => False
  | .node n => n.Plain
  | _ => True

end Value

/-- The values that a program can make: data, what holds values that it made,
and what factories give for values that it made. -/
inductive Made : Value → Prop where
  | plain {v : Value} (plain : v.Plain) : Made v
  | list {items : List Value} (parts : ∀ v ∈ items, Made v) : Made (.list items)
  | tuple {items : List Value} (parts : ∀ v ∈ items, Made v) : Made (.tuple items)
  | set {items : List Value} (parts : ∀ v ∈ items, Made v) : Made (.set items)
  | stream (tag : Nat) {items : List Value} (parts : ∀ v ∈ items, Made v) :
      Made (.stream tag items)
  | dict {entries : List (Value × Value)} (keys : ∀ entry ∈ entries, Made entry.1)
      (parts : ∀ entry ∈ entries, Made entry.2) : Made (.dict entries)
  | shape (tag : Nat) {outline : Value} (part : Made outline) : Made (.shape tag outline)
  | reference {owner parts : Value} (left : Made owner) (right : Made parts) :
      Made (.node (.looseField owner parts))
  | bound {value inclusive : Value} (left : Made value) (right : Made inclusive) :
      Made (.node (.bound value inclusive))
  | bundle {entries : List (String × Value)} (parts : ∀ entry ∈ entries, Made entry.2) :
      Made (.node (.bundle entries))
  | code (text : String) {scope : Value} (part : Made scope) : Made (.node (.code text scope))
  | pointer (collection : Words) {id : Value} (database : Option Words)
      {others : List (Value × Value)} (part : Made id) (keys : ∀ entry ∈ others, Made entry.1)
      (parts : ∀ entry ∈ others, Made entry.2) :
      Made (.node (.pointer collection id database others))
  | built (f : Factory) (given : List Value) {n : Node Value} (parts : ∀ v ∈ given, Made v)
      (passed : f.run given = .ok n) : Made (.node n)

theorem Operator.makeRaw_admissible {tag : Nat} {document : Value} {op : Operator Value}
    (made : makeRaw tag document = .ok op) : op.Admissible := by
  have raw : ∀ {v : Value}, ofRaw v = .ok op → op.Admissible := by
    intro v made
    obtain ⟨entries, -, made⟩ := Outcome.bind_eq_ok.mp made
    cases made
    simp only [Admissible]
  unfold makeRaw rawBy at made
  split at made
  · obtain ⟨v, -, made⟩ := Outcome.bind_eq_ok.mp made
    exact raw made
  · exact raw made

namespace Factory

variable {given : List Value} {n : Node Value}

theorem one_eq_ok {call : Value → Checked (Node Value)} (made : one call given = .ok n) :
    ∃ a, given = [a] ∧ call a = .ok n := by
  unfold one at made
  split at made
  · exact ⟨_, rfl, made⟩
  · cases made

theorem two_eq_ok {call : Value → Value → Checked (Node Value)} (made : two call given = .ok n) :
    ∃ a b, given = [a, b] ∧ call a b = .ok n := by
  unfold two at made
  split at made
  · exact ⟨_, _, rfl, made⟩
  · cases made

theorem three_eq_ok {call : Value → Value → Value → Checked (Node Value)}
    (made : three call given = .ok n) : ∃ a b c, given = [a, b, c] ∧ call a b c = .ok n := by
  unfold three at made
  split at made
  · exact ⟨_, _, _, rfl, made⟩
  · cases made

theorem four_eq_ok {call : Value → Value → Value → Value → Checked (Node Value)}
    (made : four call given = .ok n) :
    ∃ a b c d, given = [a, b, c, d] ∧ call a b c d = .ok n := by
  unfold four at made
  split at made
  · exact ⟨_, _, _, _, rfl, made⟩
  · cases made

theorem five_eq_ok {call : Value → Value → Value → Value → Value → Checked (Node Value)}
    (made : five call given = .ok n) :
    ∃ a b c d e, given = [a, b, c, d, e] ∧ call a b c d e = .ok n := by
  unfold five at made
  split at made
  · exact ⟨_, _, _, _, _, rfl, made⟩
  · cases made

theorem first_eq_ok {call : Value → List Value → Checked (Node Value)}
    (made : first call given = .ok n) : ∃ a rest, given = a :: rest ∧ call a rest = .ok n := by
  unfold first at made
  split at made
  · cases made
  · exact ⟨_, _, rfl, made⟩

theorem bounded_admissible {side : Range.Side} {v range : Value} (sound : range.Sound)
    (made : bounded side v range = .ok n) : n.Part ∧ n.Admissible := by
  unfold bounded at made
  split at made
  · obtain ⟨op, found, rfl⟩ := Outcome.map_eq_ok.mp made
    simp only [Value.Sound, Node.Admissible] at sound
    exact ⟨trivial, Range.first_admissible sound.1 sound.2 found⟩
  · split at made
    · rename_i outcome second
      obtain ⟨op, found, rfl⟩ := Outcome.map_eq_ok.mp made
      simp only [Value.Sound, Node.Admissible] at sound
      exact ⟨trivial, Range.second?_admissible sound (found ▸ second)⟩
    · cases made
  · cases made

theorem changed_admissible {change : Operator Value → Checked (Operator Value)} {v : Value}
    (sound : v.Sound) (kept : ∀ op grown, op.Admissible → change op = .ok grown → grown.Admissible)
    (made : changed change v = .ok n) : n.Part ∧ n.Admissible := by
  unfold changed at made
  split at made
  · obtain ⟨op, found, rfl⟩ := Outcome.map_eq_ok.mp made
    simp only [Value.Sound, Node.Admissible] at sound
    exact ⟨trivial, kept _ _ sound found⟩
  · cases made

/-! A call settles its parts only by building what it wraps: where the builder
keeps sound values admissible, so does the call. -/

section

variable {α : Type} {wrap : α → Node Value}

theorem one_admissible {build : Value → Checked α} (sound : Value.AllSound given)
    (made : one (fun a => (build a).map wrap) given = .ok n)
    (kept : ∀ {a part}, a.Sound → build a = .ok part → (wrap part).Part ∧ (wrap part).Admissible) :
    n.Part ∧ n.Admissible := by
  obtain ⟨a, rfl, made⟩ := one_eq_ok made
  obtain ⟨soundA, -⟩ := sound
  obtain ⟨part, found, rfl⟩ := Outcome.map_eq_ok.mp made
  exact kept soundA found

theorem two_admissible {build : Value → Value → Checked α} (sound : Value.AllSound given)
    (made : two (fun a b => (build a b).map wrap) given = .ok n)
    (kept : ∀ {a b part}, a.Sound → b.Sound → build a b = .ok part →
      (wrap part).Part ∧ (wrap part).Admissible) :
    n.Part ∧ n.Admissible := by
  obtain ⟨a, b, rfl, made⟩ := two_eq_ok made
  obtain ⟨soundA, soundB, -⟩ := sound
  obtain ⟨part, found, rfl⟩ := Outcome.map_eq_ok.mp made
  exact kept soundA soundB found

theorem three_admissible {build : Value → Value → Value → Checked α}
    (sound : Value.AllSound given)
    (made : three (fun a b c => (build a b c).map wrap) given = .ok n)
    (kept : ∀ {a b c part}, a.Sound → b.Sound → c.Sound → build a b c = .ok part →
      (wrap part).Part ∧ (wrap part).Admissible) :
    n.Part ∧ n.Admissible := by
  obtain ⟨a, b, c, rfl, made⟩ := three_eq_ok made
  obtain ⟨soundA, soundB, soundC, -⟩ := sound
  obtain ⟨part, found, rfl⟩ := Outcome.map_eq_ok.mp made
  exact kept soundA soundB soundC found

theorem four_admissible {build : Value → Value → Value → Value → Checked α}
    (sound : Value.AllSound given)
    (made : four (fun a b c d => (build a b c d).map wrap) given = .ok n)
    (kept : ∀ {a b c d part}, a.Sound → b.Sound → c.Sound → d.Sound → build a b c d = .ok part →
      (wrap part).Part ∧ (wrap part).Admissible) :
    n.Part ∧ n.Admissible := by
  obtain ⟨a, b, c, d, rfl, made⟩ := four_eq_ok made
  obtain ⟨soundA, soundB, soundC, soundD, -⟩ := sound
  obtain ⟨part, found, rfl⟩ := Outcome.map_eq_ok.mp made
  exact kept soundA soundB soundC soundD found

theorem five_admissible {build : Value → Value → Value → Value → Value → Checked α}
    (sound : Value.AllSound given)
    (made : five (fun a b c d e => (build a b c d e).map wrap) given = .ok n)
    (kept : ∀ {a b c d e part}, a.Sound → b.Sound → c.Sound → d.Sound → e.Sound →
      build a b c d e = .ok part → (wrap part).Part ∧ (wrap part).Admissible) :
    n.Part ∧ n.Admissible := by
  obtain ⟨a, b, c, d, e, rfl, made⟩ := five_eq_ok made
  obtain ⟨soundA, soundB, soundC, soundD, soundE, -⟩ := sound
  obtain ⟨part, found, rfl⟩ := Outcome.map_eq_ok.mp made
  exact kept soundA soundB soundC soundD soundE found

end

/-- What a factory gives for sound values is an admissible part of a definition. -/
theorem run_admissible {f : Factory} (sound : Value.AllSound given) (made : f.run given = .ok n) :
    n.Part ∧ n.Admissible := by
  cases f with
  | singleQuery =>
      exact one_admissible sound made
        (fun soundA found => ⟨trivial, Query.ofText_admissible soundA found⟩)
  | multiQuery =>
      exact one_admissible sound made
        (fun soundA found => ⟨trivial, Query.ofTexts_admissible soundA found⟩)
  | query =>
      exact one_admissible sound made
        (fun soundA found => ⟨trivial, Query.coerce_admissible soundA found⟩)
  | singlePath =>
      exact one_admissible sound made
        (fun soundA found => ⟨trivial, Path.ofField_admissible soundA found⟩)
  | multiPath =>
      exact one_admissible sound made
        (fun soundA found => ⟨trivial, Path.ofFields_admissible soundA found⟩)
  | analyzer =>
      exact two_admissible sound made
        (fun soundA soundB found => ⟨trivial, Path.ofAnalyzer_admissible soundA soundB found⟩)
  | wildcardPath =>
      exact one_admissible sound made
        (fun soundA found => ⟨trivial, Path.ofPattern_admissible soundA found⟩)
  | path =>
      exact one_admissible sound made
        (fun soundA found => ⟨trivial, Path.coerce_admissible soundA found⟩)
  | fuzzy =>
      exact three_admissible sound made (fun _ _ _ found => ⟨trivial, Fuzzy.build_admissible found⟩)
  | count =>
      exact two_admissible sound made (fun _ _ _ => ⟨trivial, trivial⟩)
  | highlight =>
      exact three_admissible sound made (fun _ _ _ _ => ⟨trivial, trivial⟩)
  | highlights =>
      exact three_admissible sound made (fun _ _ _ _ => ⟨trivial, trivial⟩)
  | point =>
      exact two_admissible sound made (fun _ _ _ => ⟨trivial, trivial⟩)
  | box =>
      exact two_admissible sound made (fun _ _ found => ⟨trivial, GeoBox.build_admissible found⟩)
  | circle =>
      exact two_admissible sound made (fun _ _ found => ⟨trivial, GeoCircle.build_admissible found⟩)
  | pathValue =>
      exact two_admissible sound made
        (fun soundA _ found => ⟨trivial, ScoreFunction.makePath_admissible soundA found⟩)
  | relevance =>
      cases made
      exact ⟨trivial, by simp only [Node.Admissible, ScoreFunction.Admissible]⟩
  | constantValue =>
      exact one_admissible sound made
        (fun _ found => ⟨trivial, ScoreFunction.ofConstant_admissible found⟩)
  | add =>
      obtain ⟨part, found, rfl⟩ := Outcome.map_eq_ok.mp made
      exact ⟨trivial, ScoreFunction.ofOperands_admissible (by decide) (Value.sound_tuple sound) found⟩
  | multiply =>
      obtain ⟨part, found, rfl⟩ := Outcome.map_eq_ok.mp made
      exact ⟨trivial, ScoreFunction.ofOperands_admissible (by decide) (Value.sound_tuple sound) found⟩
  | gauss =>
      exact five_admissible sound made
        (fun soundA _ _ _ _ found => ⟨trivial, ScoreFunction.makeGauss_admissible soundA found⟩)
  | log =>
      exact one_admissible sound made
        (fun soundA found => ⟨trivial, ScoreFunction.ofOperand_admissible (by decide) soundA found⟩)
  | log1p =>
      exact one_admissible sound made
        (fun soundA found => ⟨trivial, ScoreFunction.ofOperand_admissible (by decide) soundA found⟩)
  | boost =>
      exact one_admissible sound made (fun _ found => ⟨trivial, Score.ofBoost_admissible found⟩)
  | boostPath =>
      exact two_admissible sound made
        (fun soundA _ found => ⟨trivial, Score.makeBoostPath_admissible soundA found⟩)
  | constant =>
      exact one_admissible sound made (fun _ found => ⟨trivial, Score.ofConstant_admissible found⟩)
  | function =>
      exact one_admissible sound made
        (fun soundA found => ⟨trivial, Score.ofFunction_admissible soundA found⟩)
  | spanTerm =>
      exact two_admissible sound made
        (fun soundA soundB found => ⟨trivial, Span.makeTerm_admissible soundA soundB found⟩)
  | spanFirst =>
      exact two_admissible sound made
        (fun soundA _ found => ⟨trivial, Span.ofFirst_admissible soundA found⟩)
  | spanNear =>
      exact three_admissible sound made
        (fun soundA _ _ found => ⟨trivial, Span.makeNear_admissible soundA found⟩)
  | spanOr =>
      obtain ⟨part, found, rfl⟩ := Outcome.map_eq_ok.mp made
      exact ⟨trivial, Span.ofAlternatives_admissible (Value.sound_tuple sound) found⟩
  | spanSubtract =>
      exact two_admissible sound made
        (fun soundA soundB found => ⟨trivial, Span.ofSubtract_admissible soundA soundB found⟩)
  | stringFacet =>
      exact three_admissible sound made
        (fun soundA soundB _ found => ⟨trivial, Facet.makeString_admissible soundA soundB found⟩)
  | numberFacet =>
      exact four_admissible sound made (fun soundA soundB _ soundD found =>
        ⟨trivial, Facet.makeNumbers_admissible soundA soundB soundD found⟩)
  | dateFacet =>
      exact four_admissible sound made (fun soundA soundB _ soundD found =>
        ⟨trivial, Facet.makeDates_admissible soundA soundB soundD found⟩)
  | text =>
      exact four_admissible sound made (fun soundA soundB soundC soundD found =>
        ⟨trivial, Operator.makeText_admissible soundA soundB soundC soundD found⟩)
  | phrase =>
      exact four_admissible sound made (fun soundA soundB _ soundD found =>
        ⟨trivial, Operator.makePhrase_admissible soundA soundB soundD found⟩)
  | autocomplete =>
      exact five_admissible sound made (fun soundA soundB _ soundD soundE found =>
        ⟨trivial, Operator.makeAutocomplete_admissible soundA soundB soundD soundE found⟩)
  | wildcard =>
      exact four_admissible sound made (fun soundA soundB _ soundD found =>
        ⟨trivial, Operator.makePattern_admissible (by decide) soundA soundB soundD found⟩)
  | regex =>
      exact four_admissible sound made (fun soundA soundB _ soundD found =>
        ⟨trivial, Operator.makePattern_admissible (by decide) soundA soundB soundD found⟩)
  | queryString =>
      exact three_admissible sound made (fun soundA soundB soundC found =>
        ⟨trivial, Operator.ofQueryString_admissible soundA soundB soundC found⟩)
  | equals =>
      exact three_admissible sound made
        (fun soundA _ soundC found => ⟨trivial, Operator.ofEquals_admissible soundA soundC found⟩)
  | existence =>
      exact one_admissible sound made
        (fun soundA found => ⟨trivial, Operator.ofExistence_admissible soundA found⟩)
  | near =>
      exact four_admissible sound made
        (fun soundA _ _ soundD found => ⟨trivial, Operator.makeNear_admissible soundA soundD found⟩)
  | geoWithin =>
      exact three_admissible sound made (fun soundA _ soundC found =>
        ⟨trivial, Operator.makeGeoWithin_admissible soundA soundC found⟩)
  | geoWithinBox =>
      exact three_admissible sound made (fun soundA soundB soundC found =>
        ⟨trivial, Operator.makeGeoWithinBox_admissible soundA soundB soundC found⟩)
  | geoWithinCircle =>
      exact three_admissible sound made (fun soundA soundB soundC found =>
        ⟨trivial, Operator.makeGeoWithinCircle_admissible soundA soundB soundC found⟩)
  | geoShape =>
      exact four_admissible sound made (fun soundA _ _ soundD found =>
        ⟨trivial, Operator.makeGeoShape_admissible soundA soundD found⟩)
  | span =>
      exact one_admissible sound made
        (fun soundA found => ⟨trivial, Operator.ofSpan_admissible soundA found⟩)
  | facet =>
      obtain ⟨a, rest, rfl, made⟩ := first_eq_ok made
      obtain ⟨soundA, soundRest⟩ := sound
      obtain ⟨part, found, rfl⟩ := Outcome.map_eq_ok.mp made
      exact ⟨trivial, Operator.ofFacets_admissible soundA (Value.sound_tuple soundRest) found⟩
  | raw tag =>
      exact one_admissible sound made (fun _ found => ⟨trivial, Operator.makeRaw_admissible found⟩)
  | range =>
      exact two_admissible sound made
        (fun soundA soundB found => ⟨trivial, Range.make_admissible soundA soundB found⟩)
  | bound side =>
      obtain ⟨a, b, rfl, made⟩ := two_eq_ok made
      obtain ⟨soundA, -⟩ := sound
      exact bounded_admissible soundA made
  | compound =>
      exact one_admissible sound made
        (fun soundA found => ⟨trivial, Compound.make_admissible soundA found⟩)
  | clauses role =>
      obtain ⟨a, rest, rfl, made⟩ := first_eq_ok made
      obtain ⟨soundA, soundRest⟩ := sound
      exact changed_admissible soundA
        (fun _ _ admissible => Compound.add_admissible (Value.allSound_iff.mp soundRest) admissible)
        made
  | atLeast =>
      obtain ⟨a, b, rfl, made⟩ := two_eq_ok made
      obtain ⟨soundA, -⟩ := sound
      exact changed_admissible soundA
        (fun _ _ admissible => Compound.atLeast_admissible admissible) made

end Factory

namespace Value

theorem Plain.sound {v : Value} (plain : v.Plain) : v.Sound := by
  cases v with
  | node n => cases n <;> simp_all [Plain, Node.Plain, Sound, Node.Admissible]
  | _ => simp_all [Plain, Sound]

theorem Plain.faithful {v : Value} (plain : v.Plain) : v.toTerm.Faithful := by
  unfold Term.Faithful
  cases v with
  | node n =>
      cases n with
      | outlined t =>
          have own : ofTerm t = .node (.outlined t) := plain
          simp only [toTerm, Node.toTerm, own]
      | field r =>
          have names : ∀ t ∈ r.parts.map Term.text, t.Faithful := by
            intro t held
            obtain ⟨name, -, rfl⟩ := List.mem_map.mp held
            simp only [Term.Faithful, ofTerm, toTerm]
          have owned : (Term.model r.owner).Faithful := by
            simp only [Term.Faithful, ofTerm, toTerm, Node.toTerm]
          simp only [toTerm, Node.toTerm, Field.toTerm]
          exact Term.faithful_reference owned (Term.faithful_tuple names)
      | _ => simp_all [Plain, Node.Plain, toTerm, Node.toTerm, ofTerm]
  | _ => simp_all [Plain, toTerm, ofTerm, Node.toTerm]

variable {items : List Value} {entries : List (Value × Value)} {named : List (String × Value)}

theorem faithful_terms (faithful : ∀ v ∈ items, v.toTerm.Faithful) :
    ∀ t ∈ terms items, t.Faithful := by
  induction items with
  | nil => simp [terms]
  | cons v rest ih =>
      rw [terms, List.forall_mem_cons]
      exact ⟨faithful v List.mem_cons_self,
        ih (fun w held => faithful w (List.mem_cons_of_mem v held))⟩

theorem faithful_entryTerms (keys : ∀ entry ∈ entries, entry.1.toTerm.Faithful)
    (faithful : ∀ entry ∈ entries, entry.2.toTerm.Faithful) :
    (∀ entry ∈ entryTerms entries, entry.1.Faithful) ∧
      ∀ entry ∈ entryTerms entries, entry.2.Faithful := by
  induction entries with
  | nil => simp [entryTerms]
  | cons entry rest ih =>
      obtain ⟨firsts, seconds⟩ := ih (fun e held => keys e (List.mem_cons_of_mem entry held))
        (fun e held => faithful e (List.mem_cons_of_mem entry held))
      rw [entryTerms, List.forall_mem_cons, List.forall_mem_cons]
      exact ⟨⟨keys entry List.mem_cons_self, firsts⟩, faithful entry List.mem_cons_self, seconds⟩

theorem faithful_namedTerms (faithful : ∀ entry ∈ named, entry.2.toTerm.Faithful) :
    ∀ entry ∈ namedTerms named, entry.2.Faithful := by
  induction named with
  | nil => simp [namedTerms]
  | cons entry rest ih =>
      rw [namedTerms, List.forall_mem_cons]
      exact ⟨faithful entry List.mem_cons_self,
        ih (fun e held => faithful e (List.mem_cons_of_mem entry held))⟩

end Value

namespace Made

/-- A value that a program makes is sound, and read back from its term. -/
theorem sound_and_faithful {v : Value} (made : Made v) : v.Sound ∧ v.toTerm.Faithful := by
  induction made with
  | plain plain => exact ⟨plain.sound, plain.faithful⟩
  | list _ ih =>
      simp only [Value.Sound, Value.toTerm]
      exact ⟨Value.allSound_iff.mpr (fun v held => (ih v held).1),
        Term.faithful_list (Value.faithful_terms (fun v held => (ih v held).2))⟩
  | tuple _ ih =>
      simp only [Value.Sound, Value.toTerm]
      exact ⟨Value.allSound_iff.mpr (fun v held => (ih v held).1),
        Term.faithful_tuple (Value.faithful_terms (fun v held => (ih v held).2))⟩
  | set _ ih =>
      simp only [Value.Sound, Value.toTerm]
      exact ⟨Value.allSound_iff.mpr (fun v held => (ih v held).1),
        Term.faithful_set (Value.faithful_terms (fun v held => (ih v held).2))⟩
  | stream tag _ ih =>
      simp only [Value.Sound, Value.toTerm]
      exact ⟨Value.allSound_iff.mpr (fun v held => (ih v held).1),
        Term.faithful_stream tag (Value.faithful_terms (fun v held => (ih v held).2))⟩
  | dict _ _ keys ih =>
      obtain ⟨firsts, seconds⟩ := Value.faithful_entryTerms (fun e held => (keys e held).2)
        (fun e held => (ih e held).2)
      simp only [Value.Sound, Value.toTerm]
      exact ⟨Value.keysSound_iff.mpr (fun e held => (keys e held).1),
        Term.faithful_dict firsts seconds⟩
  | shape tag _ ih =>
      simp only [Value.Sound, Value.toTerm]
      exact ⟨trivial, Term.faithful_shape tag ih.2⟩
  | reference _ _ left right =>
      simp only [Value.Sound, Node.Admissible, Value.toTerm, Node.toTerm]
      exact ⟨trivial, Term.faithful_reference left.2 right.2⟩
  | bound =>
      simp only [Value.Sound, Node.Admissible, Value.toTerm, Node.toTerm]
      exact ⟨trivial, Term.faithful_record _ (by decide)⟩
  | bundle _ ih =>
      simp only [Value.Sound, Node.Admissible, Value.toTerm, Node.toTerm]
      exact ⟨trivial, Term.faithful_bundle
        (Value.faithful_namedTerms (fun e held => (ih e held).2))⟩
  | code text _ ih =>
      simp only [Value.Sound, Node.Admissible, Value.toTerm, Node.toTerm]
      exact ⟨ih.2, Term.faithful_code text ih.2⟩
  | pointer collection database _ _ _ one keys ih =>
      obtain ⟨firsts, seconds⟩ := Value.faithful_entryTerms (fun e held => (keys e held).2)
        (fun e held => (ih e held).2)
      simp only [Value.Sound, Node.Admissible, Value.toTerm, Node.toTerm]
      exact ⟨trivial, Term.faithful_pointer one.2 firsts seconds⟩
  | built f given _ passed ih =>
      obtain ⟨part, admissible⟩ :=
        Factory.run_admissible (Value.allSound_iff.mpr (fun v held => (ih v held).1)) passed
      simp only [Value.Sound, Value.toTerm]
      exact ⟨admissible, part.faithful⟩

/-- An operator that a program makes is admissible. -/
theorem admissible {op : Operator Value} (made : Made (.ofOperator op)) : op.Admissible := by
  have sound := made.sound_and_faithful.1
  simpa only [Value.ofOperator, Value.Sound, Node.Admissible] using sound

end Made

end SearchQuery
