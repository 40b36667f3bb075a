import SearchQuery.CommandLine
import SearchQuery.Proofs.Answered
import SearchQuery.Proofs.Storable

/-!
# Runs of the program

A request names its definition and its schema by the targets that lead to them.
Once both are loaded, the rest of a run is the document of the definition over
the names that the schema gives, wrapped as the request asks and printed.
-/

namespace SearchQuery

namespace Request

/-- A request as the command line makes them: of texts and a count of blanks. -/
def ofTexts (target : String) (schema : Option String) (wrapping : Wrapping)
    (index : Option String) (indent : Int) : Request :=
  ⟨.text target, .ofOption .text schema, wrapping, .ofOption .text index, .int indent⟩

end Request

namespace Operator

theorem part_render (c : Catalog) (op : Operator Value) :
    (Value.ofOperator op).part c "render" = .ok (.method "render") := by
  cases op with
  | pattern form query path analyzed score => cases form <;> rfl
  | geoWithin path area score => cases area <;> rfl
  | range form path lower upper score => cases form <;> rfl
  | _ => rfl

theorem document_eq (c : Catalog) (op : Operator Value) (schema : Value) :
    (Value.ofOperator op).document c (some schema) = (Node.operator op).documentWith c schema := by
  unfold Value.document
  rw [part_render]
  rfl

end Operator

namespace Wrapping

def entries : Value → List (Value × Value)
  | .dict entries => entries
  | _ => []

/-- The document of a request around the document of its definition. -/
def wrap (index : Option Words) (v : Value) : Wrapping → Value
  | .search =>
    .object [("$search", .dict (Stage.setOption "index" (index.map .ofWords) (entries v)))]
  | .searchMeta =>
    .object [("$searchMeta", .dict (Stage.setOption "index" (index.map .ofWords) (entries v)))]
  | .bare => v

end Wrapping

namespace CommandLine

/-! ## Steps -/

namespace Step

variable {α β : Type}

theorem bind_apply (first : Step α) (next : α → Step β) (s : Session) :
    (first >>= next) s =
      match first s with
      | (.ok a, after) => next a after
      | (.error e, after) => (.error e, after) := by
  have both : (first >>= next) s =
      match first s with
      | (outcome, after) => ExceptT.bindCont next outcome after := rfl
  rw [both]
  rcases first s with ⟨e | a, after⟩ <;> rfl

theorem ofTarget_apply (outcome : Except TargetError α) (s : Session) :
    ofTarget outcome s = (outcome.mapError .target, s) := by
  cases outcome <;> rfl

theorem ofChecked_apply (outcome : Checked α) (s : Session) :
    ofChecked outcome s = (outcome.mapError .fault, s) := by
  cases outcome <;> rfl

theorem catalog_apply (s : Session) : ofAction Action.catalog s = (.ok s.catalog, s) :=
  rfl

end Step

/-! ## Targets -/

section

variable (w : Workspace) (target : String) (s : Session)

/-- What a target leads to among the modules, in a catalog. -/
def sought (c : Catalog) : Except RenderError Found :=
  match Target.ofText? target with
  | none => .error (.target (.malformed target))
  | some t =>
    if t.isRelative then .error (.fault (.refused .wrongType))
    else
      match w.load t.home with
      | .error e => .error (.target e)
      | .ok m =>
        match (Found.home m).follow w c (Text.segments t.chain) with
        | .error fault => .error (.fault fault)
        | .ok none => .error (.target (.noAttribute t.home t.chain))
        | .ok (some found) => .ok found

theorem find_apply : find w (.text target) s = (sought w target s.catalog, s) := by
  unfold find sought
  have words : Step.ofChecked (Target.textOf (.text target)) = pure target := rfl
  rw [words, pure_bind]
  cases Target.ofText? target with
  | none => rfl
  | some t =>
      dsimp only
      split
      · rfl
      · rw [Step.bind_apply, Step.ofTarget_apply]
        cases w.load t.home with
        | error e => rfl
        | ok m =>
            dsimp only [Except.mapError]
            rw [Step.bind_apply, Step.catalog_apply]
            dsimp only
            rw [Step.bind_apply, Step.ofChecked_apply]
            cases (Found.home m).follow w s.catalog (Text.segments t.chain) with
            | error fault => rfl
            | ok found? => cases found? <;> rfl

def asOperator (v : Value) : Except RenderError (Operator Value) :=
  match v with
  | .node (.operator op) => .ok op
  | v => .error (.notDefinition (Value.text target).shown v.kind)

theorem loadOperator_apply :
    loadOperator w (.text target) s =
      match sought w target s.catalog with
      | .error e => (.error e, s)
      | .ok found =>
        match found.toValue w s with
        | (.error fault, after) => (.error (.fault fault), after)
        | (.ok v, after) => (asOperator target v, after) := by
  unfold loadOperator
  rw [Step.bind_apply, find_apply]
  cases sought w target s.catalog with
  | error e => rfl
  | ok found =>
      dsimp only
      rw [Step.bind_apply]
      unfold Step.ofAction
      rcases found.toValue w s with ⟨fault | v, after⟩
      · rfl
      · cases v with
        | node n => cases n <;> rfl
        | _ => rfl

theorem loadSchema_text (given : target ≠ "") :
    loadSchema w (.text target) s =
      match sought w target s.catalog with
      | .error e => (.error e, s)
      | .ok found => ((schemaOf w s.catalog found).mapError .fault, s) := by
  have holds : (Value.text target).truth = true := by simp [Value.truth, given]
  unfold loadSchema
  rw [holds]
  simp only [Bool.not_true, Bool.false_eq_true, if_false]
  rw [Step.bind_apply, find_apply]
  cases sought w target s.catalog with
  | error e => rfl
  | ok found =>
      dsimp only
      rw [Step.bind_apply, Step.catalog_apply]
      dsimp only
      rw [Step.ofChecked_apply]

end

/-- The index to search: the given name, else that of the environment, if it is not empty. -/
def chosenName (given environment : Option String) : Option String :=
  (given.filter (· ≠ "")).or (environment.filter (· ≠ ""))

theorem chosenIndex_text (given environment : Option String) :
    chosenIndex (.ofOption .text given) environment =
      .ofOption .text (chosenName given environment) := by
  rcases given with - | name
  · rfl
  · by_cases empty : name = "" <;>
      simp [chosenIndex, chosenName, Value.ofOption, Value.truth, Option.filter, empty]

theorem chosenName_ne_empty (given environment : Option String) :
    chosenName given environment ≠ some "" := by
  intro chosen
  simp only [chosenName, Option.or_eq_some_iff, Option.filter_eq_some_iff] at chosen
  rcases chosen with ⟨-, named⟩ | ⟨-, -, named⟩ <;> simp at named

theorem index_eq {name : Option String} (named : name ≠ some "") :
    Stage.index (.ofOption .text name) = .ok (name.map .plain) := by
  rcases name with - | name
  · rfl
  · have proper : name ≠ "" := fun empty => named (by rw [empty])
    simp [Stage.index, Guard.optional, Guard.text, Value.ofOption, Value.asWords?, Words.plain,
      proper, Bind.bind, Except.bind, pure, Except.pure]

def wrapped (c : Catalog) (op : Operator Value) (schema index : Value) : Wrapping → Checked Value
  | .search => Stage.search c (.ofOperator op) schema .null index .null false
  | .searchMeta => Stage.searchMeta c (.ofOperator op) schema index .null
  | .bare => (Value.ofOperator op).document c (some schema)

theorem wrapped_eq {c : Catalog} {schema : Value} {sc : Schema} {name : Option String}
    (stands : Schema.coerce c schema = .ok sc) (named : name ≠ some "") (op : Operator Value)
    (wrapping : Wrapping) :
    wrapped c op schema (.ofOption .text name) wrapping =
      (op.render (sc.resolver c)).map (fun v => wrapping.wrap (name.map .plain) v) := by
  cases wrapping with
  | search =>
      simp only [wrapped, Stage.search, stands, index_eq named]
      show Stage.searchWith _ op none (name.map .plain) none false = _
      unfold Stage.searchWith Stage.body
      cases op.render (sc.resolver c) with
      | error fault => rfl
      | ok v => cases v <;> rfl
  | searchMeta =>
      simp only [wrapped, Stage.searchMeta, stands, index_eq named]
      show Stage.searchMetaWith _ op (name.map .plain) none = _
      unfold Stage.searchMetaWith Stage.body
      cases op.render (sc.resolver c) with
      | error fault => rfl
      | ok v => cases v <;> rfl
  | bare =>
      simp only [wrapped, Operator.document_eq, Operator.documentWith_eq stands]
      cases op.render (sc.resolver c) <;> rfl

/-- The document of a request is that of the operator it leads to, over what it leads to as a
schema. -/
theorem document_apply (w : Workspace) (environment : Option String) (target : String)
    (schema : Option String) (wrapping : Wrapping) (index : Option String) (indent : Int)
    (s : Session) :
    document w environment (.ofTexts target schema wrapping index indent) s =
      match loadOperator w (.text target) s with
      | (.error e, after) => (.error e, after)
      | (.ok op, after) =>
        match loadSchema w (.ofOption .text schema) after with
        | (.error e, last) => (.error e, last)
        | (.ok v, last) =>
          ((wrapped last.catalog op v (.ofOption .text (chosenName index environment))
            wrapping).mapError .fault, last) := by
  unfold document
  rw [Step.bind_apply]
  dsimp only [Request.ofTexts]
  rcases loadOperator w (.text target) s with ⟨e | op, after⟩
  · rfl
  · dsimp only
    rw [Step.bind_apply]
    rcases loadSchema w (.ofOption .text schema) after with ⟨e | v, last⟩
    · rfl
    · dsimp only
      rw [Step.bind_apply, Step.catalog_apply]
      dsimp only
      rw [Step.ofChecked_apply, chosenIndex_text]
      cases wrapping <;> rfl

/-- What a request comes to once its operator and its schema are loaded: the definition, the
catalog to look names up in, and the schema. -/
def Prepared (w : Workspace) (target : String) (schema : Option String) (s : Session)
    (op : Operator Value) (c : Catalog) (sc : Schema) : Prop :=
  ∃ after v, loadOperator w (.text target) s = (.ok op, after) ∧
    loadSchema w (.ofOption .text schema) after = (.ok v, after) ∧ after.catalog = c ∧
      Schema.coerce c v = .ok sc

/-- Over what is loaded, the document of a request wraps that of the definition. -/
theorem Prepared.document_apply {w : Workspace} {target : String} {schema : Option String}
    {s : Session} {op : Operator Value} {c : Catalog} {sc : Schema}
    (prepared : Prepared w target schema s op c sc) (environment : Option String)
    (wrapping : Wrapping) (index : Option String) (indent : Int) :
    ∃ after, document w environment (.ofTexts target schema wrapping index indent) s =
      (((op.render (sc.resolver c)).map (fun v =>
        wrapping.wrap ((chosenName index environment).map .plain) v)).mapError .fault, after) := by
  obtain ⟨after, v, operator, schemed, rfl, stands⟩ := prepared
  refine ⟨after, ?_⟩
  rw [CommandLine.document_apply, operator]
  dsimp only
  rw [schemed]
  dsimp only
  rw [wrapped_eq stands (chosenName_ne_empty index environment)]

/-- The text of a document is there when its JSON is, and the indentation is not too large. -/
theorem print_int_iff {indent : Int} {v : Value} :
    (∃ text, ExtendedJson.print (.int indent) v = .ok text) ↔
      (-ExtendedJson.blanksLimit ≤ indent ∧ indent < ExtendedJson.blanksLimit) ∧ v.Prints := by
  by_cases within : -ExtendedJson.blanksLimit ≤ indent ∧ indent < ExtendedJson.blanksLimit
  · have laid : ExtendedJson.layout (.int indent) = .ok (.blanks indent) := if_pos within
    rw [print_iff laid, and_iff_right within]
  · have refused : ExtendedJson.layout (.int indent) = .error (.refused .overflow) :=
      if_neg within
    constructor
    · rintro ⟨text, made⟩
      simp only [ExtendedJson.print, refused] at made
      cases made
    · exact fun both => absurd both.1 within

end CommandLine

end SearchQuery
