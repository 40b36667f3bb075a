import SearchQuery.Proofs.Factories
import SearchQuery.Proofs.Slots

/-!
# The grammar of documents

The documents of operators form a grammar.  A body has the keys that its
operator requires and some of those that it may have: each of the latter
exactly when its setting differs from what the server assumes.  The grammar is
said for documents by themselves, by shapes and by rules for the keys of
bodies; the settings of a definition only tell which keys are there.
-/

namespace SearchQuery

/-! ## Shapes -/

namespace Value

/-- A text, or code. -/
def IsText (v : Value) : Prop :=
  ∃ w, v = .ofWords w

/-- A text, or any number of texts. -/
inductive IsQuery : Value → Prop where
  | text (w : Words) : IsQuery (.ofWords w)
  | texts {items : List Value} (all : ∀ v ∈ items, v.IsText) : IsQuery (.list items)

/-- A name, some names, a name with an analyzer, or a pattern. -/
inductive IsPath : Value → Prop where
  | name (w : Words) : IsPath (.ofWords w)
  | names {items : List Value} (some : items ≠ []) (all : ∀ v ∈ items, v.IsText) :
      IsPath (.list items)
  | analyzed (name analyzer : Words) :
      IsPath (.object [("value", .ofWords name), ("multi", .ofWords analyzer)])
  | wildcard (pattern : Words) : IsPath (.object [("wildcard", .ofWords pattern)])

/-- An integer with some property. -/
def IsWhole (holds : Int → Prop) (v : Value) : Prop :=
  ∃ w : Whole, v = .whole w ∧ holds w.value

/-- A number with some property. -/
def IsNumber (holds : Number → Prop) (v : Value) : Prop :=
  ∃ x, v = .number x ∧ holds x

/-- A truth value. -/
def IsFlag (v : Value) : Prop :=
  ∃ b, v = .bool b

/-- A number or a date. -/
def IsLimit (v : Value) : Prop :=
  (∃ x, v = .number x) ∨ ∃ t, v = .dateTime t

/-- A geometry of one of some types. -/
def IsGeometry (allowed : List String) (v : Value) : Prop :=
  ∃ type coordinates, v = .object [("type", .text type), ("coordinates", coordinates)] ∧
    type ∈ allowed

/-- A number, a date or a position. -/
def IsOrigin (v : Value) : Prop :=
  v.IsLimit ∨ v.IsGeometry ["Point"]

/-- A truth value or an identifier. -/
def IsExact (v : Value) : Prop :=
  v.IsFlag ∨ ∃ o, v = .objectId o

end Value

/-! ## Rules -/

/-- What a body may have under a key: when it has the key, and what it has there. -/
structure Rule where
  key : String
  present : Prop
  shape : Value → Prop

namespace Rule

/-- A key that is required. -/
def always (key : String) (shape : Value → Prop) : Rule :=
  ⟨key, True, shape⟩

/-- A key that is there when a setting is given. -/
def given {α : Type} (key : String) (setting : Option α) (shape : α → Value → Prop) : Rule :=
  ⟨key, setting.isSome = true, fun v => ∀ a ∈ setting, shape a v⟩

/-- A slot is filled as a rule says. -/
structure Fits (rule : Rule) (slot : Slot) : Prop where
  key : rule.key = slot.1
  present : rule.present ↔ slot.2.isSome = true
  shape : ∀ v ∈ slot.2, rule.shape v

theorem always_fits {key : String} {shape : Value → Prop} {v : Value} (held : shape v) :
    (always key shape).Fits (key, some v) := by
  refine ⟨rfl, by simp [always], ?_⟩
  intro w same
  cases same
  exact held

theorem given_fits {α : Type} {key : String} {setting : Option α} {shape : α → Value → Prop}
    {filled : Option Value} (both : Option.Rel shape setting filled) :
    (given key setting shape).Fits (key, filled) := by
  cases both with
  | none => exact ⟨rfl, by simp [given], by simp⟩
  | some held => exact ⟨rfl, by simp [given], by simpa [given] using held⟩

theorem when_fits {key : String} {present : Prop} [Decidable present] {shape : Value → Prop}
    {v : Value} (held : present → shape v) :
    Fits ⟨key, present, shape⟩ (key, if present then some v else none) := by
  refine ⟨rfl, ?_, ?_⟩
  · by_cases there : present <;> simp [there]
  · intro w same
    split at same
    · rename_i there
      cases same
      exact held there
    · cases same

theorem unless_fits {key : String} {absent : Prop} [Decidable absent] {shape : Value → Prop}
    {v : Value} (held : ¬ absent → shape v) :
    Fits ⟨key, ¬ absent, shape⟩ (key, if absent then none else some v) := by
  refine ⟨rfl, ?_, ?_⟩
  · by_cases there : absent <;> simp [there]
  · intro w same
    split at same
    · cases same
    · rename_i there
      cases same
      exact held there

end Rule

/-- A body by rules with distinct keys: it has every key at most once, it has a
key exactly when the rule for it says so, and it has no other keys. -/
structure Body (rules : List Rule) (entries : List (String × Value)) : Prop where
  distinct : (rules.map Rule.key).Nodup
  once : (entries.map Prod.fst).Nodup
  all : ∀ rule ∈ rules, rule.present → ∃ v, (rule.key, v) ∈ entries
  only : ∀ entry ∈ entries, ∃ rule ∈ rules,
    rule.key = entry.1 ∧ rule.present ∧ rule.shape entry.2

/-- What is in one of two lists that are related item by item has its counterpart in the other. -/
theorem counterpart_of_mem {α β : Type} {R : α → β → Prop} {as : List α} {bs : List β}
    (related : List.Forall₂ R as bs) : ∀ a ∈ as, ∃ b ∈ bs, R a b := by
  induction related with
  | nil => simp
  | cons first _ ih =>
      rw [List.forall_mem_cons]
      refine ⟨⟨_, List.mem_cons_self, first⟩, ?_⟩
      intro a held
      obtain ⟨b, inside, both⟩ := ih a held
      exact ⟨b, List.mem_cons_of_mem _ inside, both⟩

/-- Every slot of a row that fits has its rule. -/
theorem Rule.rule_of_mem {rules : List Rule} {slots : List Slot}
    (fits : List.Forall₂ Rule.Fits rules slots) : ∀ slot ∈ slots, ∃ rule ∈ rules, rule.Fits slot :=
  have backwards : List.Forall₂ (flip Rule.Fits) slots rules := .flip fits
  counterpart_of_mem backwards

/-- Slots that are filled as rules say make a body by these rules. -/
theorem Body.of_slots {rules : List Rule} {slots : List Slot}
    (distinct : (slots.map Prod.fst).Nodup) (fits : List.Forall₂ Rule.Fits rules slots) :
    Body rules (Slot.present slots) := by
  have keys : rules.map Rule.key = slots.map Prod.fst := by
    clear distinct
    induction fits with
    | nil => rfl
    | cons first _ ih => rw [List.map_cons, List.map_cons, first.key, ih]
  refine ⟨keys ▸ distinct, distinct.sublist (Slot.keys_present_sublist slots), ?_, ?_⟩
  · intro rule held there
    obtain ⟨slot, inside, fit⟩ := counterpart_of_mem fits rule held
    obtain ⟨v, filled⟩ := Option.isSome_iff_exists.mp (fit.present.mp there)
    refine ⟨v, Slot.mem_present.mpr ?_⟩
    rw [fit.key, ← filled]
    exact inside
  · rintro ⟨key, v⟩ held
    obtain ⟨rule, inside, fit⟩ := Rule.rule_of_mem fits _ (Slot.mem_present.mp held)
    exact ⟨rule, inside, fit.key, fit.present.mpr rfl, fit.shape v rfl⟩

/-- A document with one entry, whose body has rules. -/
def Labelled (name : String) (rules : List Rule) (v : Value) : Prop :=
  ∃ entries, v = .object [(name, .object entries)] ∧ Body rules entries

theorem Labelled.of_slots {name : String} {rules : List Rule} {slots : List Slot}
    (distinct : (slots.map Prod.fst).Nodup) (fits : List.Forall₂ Rule.Fits rules slots) :
    Labelled name rules (.object [(name, .object (Slot.present slots))]) :=
  ⟨_, rfl, .of_slots distinct fits⟩

/-! ## Productions -/

/-- Fuzzy settings hold those that are given, each in its range. -/
def Fuzzy.Conforms (f : Fuzzy) (v : Value) : Prop :=
  ∃ entries, v = .object entries ∧ Body [
    .given "maxEdits" f.maxEdits (fun _ => Value.IsWhole (fun n => 1 ≤ n ∧ n ≤ 2)),
    .given "prefixLength" f.prefixLength (fun _ => Value.IsWhole (fun n => 0 ≤ n)),
    .given "maxExpansions" f.maxExpansions (fun _ => Value.IsWhole (fun n => 0 < n))] entries

namespace ScoreFunction

mutual

/-- An expression over a path holds the path alone, or beside the number that
replaces missing values when that is not zero. -/
def Conforms : ScoreFunction → Value → Prop
  | .path _ undefined, v => ∃ inner, v = .object [("path", inner)] ∧
    (undefined.isZero = true → inner.IsPath) ∧
    (undefined.isZero = false → ∃ entries, inner = .object entries ∧ Body [
      .always "value" Value.IsPath,
      .always "undefined" (Value.IsNumber (fun x => x.isZero = false))] entries)
  | .relevance, v => v = .object [("score", .text "relevance")]
  | .constant _, v => ∃ x, v = .object [("constant", .number x)]
  | .combined way children, v => ∃ items, v = .object [(way.word, .list items)] ∧
    way.word ∈ ["add", "multiply"] ∧ 2 ≤ items.length ∧ AllConform children items
  | .gauss _ _ _ decay offset, v => Labelled "gauss" [
      .always "path" Value.IsPath,
      .always "origin" (Value.IsNumber (fun _ => True)),
      .always "scale" (Value.IsNumber Number.NotBelow),
      .given "decay" decay
        (fun _ => Value.IsNumber (fun x => Number.lt (.int 0) x = true ∧ x.lt (.int 1) = true)),
      .given "offset" offset (fun _ => Value.IsNumber (fun _ => True))] v
  | .transformed way child, v => ∃ inner, v = .object [(way.word, inner)] ∧
    way.word ∈ ["log", "log1p"] ∧ Conforms child inner

/-- Several expressions conform one by one. -/
def AllConform : List ScoreFunction → List Value → Prop
  | [], items => items = []
  | child :: rest, items => ∃ first others, items = first :: others ∧ Conforms child first ∧
    AllConform rest others

end

end ScoreFunction

/-- A score boosts by a positive number or by a path, is constant, or is computed. -/
def Score.Conforms : Score → Value → Prop
  | .boost _, v => Labelled "boost" [.always "value" (Value.IsNumber Number.NotBelow)] v
  | .boostPath _ undefined, v => Labelled "boost" [
      .always "path" Value.IsPath,
      ⟨"undefined", ¬ undefined.isZero = true, Value.IsNumber (fun x => x.isZero = false)⟩] v
  | .constant _, v => Labelled "constant" [.always "value" (Value.IsNumber Number.NotBelow)] v
  | .function expression, v => ∃ inner, v = .object [("function", inner)] ∧
    expression.Conforms inner

namespace Span

mutual

/-- A span has one entry for its kind, over what it is made of. -/
def Conforms : Span → Value → Prop
  | .term _ _, v => Labelled "term" [
      .always "query" Value.IsQuery,
      .always "path" Value.IsPath] v
  | .first operator _, v => Labelled "first" [
      .always "operator" (fun w => Conforms operator w),
      .always "endPositionLte" (Value.IsWhole (fun n => 1 ≤ n))] v
  | .near clauses _ _, v => Labelled "near" [
      .always "clauses" (fun w => ∃ items, w = .list items ∧ items ≠ [] ∧
        AllConform clauses items),
      .always "slop" (Value.IsWhole (fun n => 0 ≤ n)),
      .always "inOrder" Value.IsFlag] v
  | .either clauses, v => Labelled "or" [
      .always "clauses" (fun w => ∃ items, w = .list items ∧ items ≠ [] ∧
        AllConform clauses items)] v
  | .subtract kept removed, v => Labelled "subtract" [
      .always "include" (fun w => Conforms kept w),
      .always "exclude" (fun w => Conforms removed w)] v

/-- Several spans conform one by one. -/
def AllConform : List Span → List Value → Prop
  | [], items => items = []
  | clause :: rest, items => ∃ first others, items = first :: others ∧ Conforms clause first ∧
    AllConform rest others

end

end Span

/-- A facet tells its kind and its path, and how its buckets are made. -/
def Facet.Conforms (f : Facet) (v : Value) : Prop :=
  ∃ entries, v = .object entries ∧ Body (match f with
    | .string _ _ buckets => [
      .always "type" (fun w => w = .text "string"),
      .always "path" Value.IsPath,
      ⟨"numBuckets", ¬ buckets.value = 10,
        Value.IsWhole (fun n => 1 ≤ n ∧ n ≤ 1000 ∧ n ≠ 10)⟩]
    | .number _ _ _ outside => [
      .always "type" (fun w => w = .text "number"),
      .always "path" Value.IsPath,
      .always "boundaries" (fun w => ∃ xs : List Number, w = .list (xs.map .number) ∧
        2 ≤ xs.length),
      .given "default" outside (fun _ => Value.IsText)]
    | .date _ _ _ outside => [
      .always "type" (fun w => w = .text "date"),
      .always "path" Value.IsPath,
      .always "boundaries" (fun w => ∃ ts : List DateTime, w = .list (ts.map .dateTime) ∧
        2 ≤ ts.length),
      .given "default" outside (fun _ => Value.IsText)]) entries

/-- The rules for an area: it has one of three keys. -/
def Area.rules (area : Area Value) : List Rule := [
  ⟨"geometry", ∃ g, area = .geometry g, Value.IsGeometry polygonTypes⟩,
  ⟨"box", ∃ b, area = .box b, fun w => ∃ low high,
    w = .object [("bottomLeft", low), ("topRight", high)] ∧
      low.IsGeometry ["Point"] ∧ high.IsGeometry ["Point"]⟩,
  ⟨"circle", ∃ c, area = .circle c, fun w => ∃ center radius,
    w = .object [("center", center), ("radius", radius)] ∧
      center.IsGeometry ["Point"] ∧ radius.IsNumber Number.NotBelow⟩]

/-- The rules for a bound: one key when the range leaves it out, and another
when the range takes it in. -/
def Bound.rules (left taken : String) (bound : Option (Bound Value)) : List Rule := [
  ⟨left, ∃ b ∈ bound, b.inclusive = .bool false, Value.IsLimit⟩,
  ⟨taken, ∃ b ∈ bound, b.inclusive = .bool true, Value.IsLimit⟩]

namespace Operator

def scoreRule (score : Option Score) : Rule :=
  .given "score" score Score.Conforms

mutual

/-- The document of an operator has one entry, the name of the operator, over
the keys that it requires and those of the rest whose settings are given. -/
def Conforms : Operator Value → Value → Prop
  | .text _ _ fuzzy score, v => Labelled "text" [
      .always "query" Value.IsQuery,
      .always "path" Value.IsPath,
      .given "fuzzy" fuzzy Fuzzy.Conforms,
      scoreRule score] v
  | .phrase _ _ slop score, v => Labelled "phrase" [
      .always "query" Value.IsQuery,
      .always "path" Value.IsPath,
      ⟨"slop", ¬ slop.value = 0, Value.IsWhole (fun n => 0 < n)⟩,
      scoreRule score] v
  | .autocomplete _ _ order fuzzy score, v => Labelled "autocomplete" [
      .always "query" Value.IsQuery,
      .always "path" Value.IsPath,
      ⟨"tokenOrder", ¬ order = .any, fun w => w = .text "sequential"⟩,
      .given "fuzzy" fuzzy Fuzzy.Conforms,
      scoreRule score] v
  | .pattern form _ _ analyzed score, v => form.word ∈ ["wildcard", "regex"] ∧
    Labelled form.word [
      .always "query" Value.IsQuery,
      .always "path" Value.IsPath,
      ⟨"allowAnalyzedField", analyzed = true, fun w => w = .bool true⟩,
      scoreRule score] v
  | .queryString _ _ score, v => Labelled "queryString" [
      .always "defaultPath" Value.IsText,
      .always "query" Value.IsText,
      scoreRule score] v
  | .equals _ _ score, v => Labelled "equals" [
      .always "path" Value.IsText,
      .always "value" Value.IsExact,
      scoreRule score] v
  | .existence _, v => Labelled "exists" [.always "path" Value.IsText] v
  | .near _ _ _ score, v => Labelled "near" [
      .always "path" Value.IsPath,
      .always "origin" Value.IsOrigin,
      .always "pivot" (Value.IsNumber (fun _ => True)),
      scoreRule score] v
  | .geoWithin _ area score, v => Labelled "geoWithin"
      (.always "path" Value.IsPath :: area.rules ++ [scoreRule score]) v
  | .geoShape _ _ _ score, v => Labelled "geoShape" [
      .always "path" Value.IsPath,
      .always "geometry" (Value.IsGeometry shapeTypes),
      .always "relation" (fun w => ∃ r : ShapeRelation, w = .text r.word),
      scoreRule score] v
  | .range _ _ lower upper score, v => (lower.isSome = true ∨ upper.isSome = true) ∧
    Labelled "range"
      (.always "path" Value.IsPath :: Bound.rules "gt" "gte" lower ++
        Bound.rules "lt" "lte" upper ++ [scoreRule score]) v
  | .compound must mustNot should filter minimum score, v => Labelled "compound" [
      ⟨"must", must.isSome = true, fun w => ClausesConform must w⟩,
      ⟨"mustNot", mustNot.isSome = true, fun w => ClausesConform mustNot w⟩,
      ⟨"should", should.isSome = true, fun w => ClausesConform should w⟩,
      ⟨"filter", filter.isSome = true, fun w => ClausesConform filter w⟩,
      ⟨"minimumShouldMatch", 0 < minimum.value, Value.IsWhole (fun n => 0 < n)⟩,
      scoreRule score] v
  | .span s, v => ∃ inner, v = .object [("span", inner)] ∧ s.Conforms inner
  | .facet operator facets, v => Labelled "facet" [
      .always "operator" (fun w => Conforms operator w),
      .always "facets" (fun w => ∃ entries, w = .object entries ∧ entries ≠ [] ∧
        (entries.map Prod.fst).Nodup ∧
          List.Forall₂ (fun f entry => f.name.text = entry.1 ∧ f.Conforms entry.2)
            facets entries)] v
  | .raw _, _ => False

/-- The clauses of a list are some, and they conform one by one. -/
def ClausesConform : Option (List (Operator Value)) → Value → Prop
  | none, _ => False
  | some clauses, v => ∃ items, v = .list items ∧ items ≠ [] ∧ AllConform clauses items

/-- Several operators conform one by one. -/
def AllConform : List (Operator Value) → List Value → Prop
  | [], items => items = []
  | clause :: rest, items => ∃ first others, items = first :: others ∧ Conforms clause first ∧
    AllConform rest others

end

/-- Whether no hand-written document stands anywhere in an operator. -/
def rawFree {V : Type} : Operator V → Bool
  | .compound must mustNot should filter _ _ =>
    clausesRawFree must && clausesRawFree mustNot && clausesRawFree should &&
      clausesRawFree filter
  | .facet operator _ => rawFree operator
  | .raw _ => false
  | _ => true
where
  /-- Whether no hand-written document stands in the clauses of a list. -/
  clausesRawFree : Option (List (Operator V)) → Bool
    | none => true
    | some clauses => allRawFree clauses
  /-- Whether no hand-written document stands in several operators. -/
  allRawFree : List (Operator V) → Bool
    | [] => true
    | clause :: rest => rawFree clause && allRawFree rest

end Operator

end SearchQuery
