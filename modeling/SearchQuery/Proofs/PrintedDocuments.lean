import SearchQuery.Proofs.Containment
import SearchQuery.Proofs.DocumentKeys
import SearchQuery.Proofs.Products

/-!
# Printed documents are accepted as hand-written ones

The program writes extended JSON and the factory of hand-written documents
reads it.  A definition that is printed and handed in again gives an equal
document, bare or in a stage, whatever the indentation was and whatever schema
it is rendered over: its keys name no type, and its leaves are read back.  The
depth at which the host gives up reading or copying a document is left out.
-/

namespace SearchQuery

namespace Value

/-- A value is of a kind that definitions put into documents. -/
def Ordinary : Value → Prop
  | .text _ => True
  | .node (.code ..) => True
  | .number _ => True
  | .dateTime _ => True
  | .objectId _ => True
  | .bool _ => True
  | _ => False

theorem ordinary_sieve : Sieve (fun _ => True) (fun _ _ leaf => leaf.Ordinary) where
  plain := fun _ _ => trivial
  text := fun _ _ _ => trivial
  code := fun _ _ _ _ => trivial
  date := fun _ _ _ => trivial
  identifier := fun _ _ _ => trivial
  matched := fun _ => trivial
  analyzed := fun _ _ => trivial
  ordered := fun _ _ => trivial
  number := fun _ _ _ => Iff.rfl

/-- The entries of a document that can be read back can be, too. -/
theorem Legible.entries {entries : List (String × Value)}
    (legible : (Value.object entries).Legible) :
    ∀ entry ∈ entries, PlainKey entry.1 ∧ entry.2.Legible := by
  generalize same : Value.object entries = v at legible
  cases legible with
  | @object others distinct keys all =>
      have injective : Function.Injective (fun entry : String × Value =>
          ((.text entry.1, entry.2) : Value × Value)) := by
        rintro ⟨key, v⟩ ⟨other, w⟩ equal
        cases equal
        rfl
      unfold Value.object at same
      rw [List.map_injective_iff.mpr injective (Value.dict.inj same)]
      exact fun entry held => ⟨keys entry held, all entry held⟩
  | _ => cases same

end Value

/-- A name of a facet that does not begin with a dollar sign names no type. -/
theorem plainKey_of_head {name : String} (undollared : name.toList.head? ≠ some '$')
    (unsplit : Text.Unsplit name.toList) : Value.PlainKey name := by
  have types : ∀ key ∈ ExtendedJson.typeKeys, key.toList.head? = some '$' := by decide
  exact ⟨fun named => undollared (types name named), unsplit⟩

namespace Operator

variable {resolve : Resolver} {op : Operator Value} {v : Value}

/-- The document of a definition that a program makes without hand-written parts can be read back,
if its leaves and the names of its facets can be, and these do not begin with a dollar sign. -/
theorem render_legible (made : Made (.ofOperator op)) (free : op.rawFree = true)
    (plotted : ∀ g ∈ op.geometries, g.Plotted)
    (facets : ∀ name ∈ op.facetNames,
      name.toList.head? ≠ some '$' ∧ Text.Unsplit name.toList)
    (written : op.render resolve = .ok v)
    (leaves : v.Each (fun _ _ leaf => leaf.Ordinary → leaf.Legible) "" "") : v.Legible := by
  have mapped := made.accepted.allMapped plotted
  have named : ∀ name ∈ op.facetNames, Value.PlainKey name :=
    fun name held => plainKey_of_head (facets name held).1 (facets name held).2
  have ordinary : v.Each (fun _ _ leaf => leaf.Ordinary) "" "" :=
    (render_each Value.ordinary_sieve free mapped written).mpr (fun _ _ _ => trivial)
  exact (render_keyed made.admissible free mapped named written).legible
    (leaves.both (fun _ _ _ legible kind => legible kind) ordinary)

end Operator

namespace Wrapping

def stage? : Wrapping → Option String
  | .search => some "$search"
  | .searchMeta => some "$searchMeta"
  | .bare => none

/-- An entry in a wrapping: it stands for itself, or is in a stage beside the name of the index. -/
def around (index : Option String) (key : String) (body : Value) (wrapping : Wrapping) :
    List (String × Value) :=
  match wrapping.stage? with
  | none => [(key, body)]
  | some stage => [(stage, .object ([(key, body)] ++ optionalEntry "index" .text index))]

section

variable {key : String} (fresh : key ≠ "index") {index : Option String} (wrapping : Wrapping)

include fresh

theorem wrap_single (body : Value) (index : Option String) :
    wrapping.wrap (index.map .plain) (.object [(key, body)]) =
      .object (wrapping.around index key body) := by
  have entries : Stage.setOption "index" ((index.map Words.plain).map .ofWords)
      (Wrapping.entries (.object [(key, body)])) =
        Stage.keyed ([(key, body)] ++ optionalEntry "index" .text index) := by
    have set := Stage.setOption_keyed ((index.map Words.plain).map .ofWords)
      (Stage.fresh_single body fresh)
    cases index <;> exact set
  cases wrapping with
  | search =>
      rw [wrap, entries]
      rfl
  | searchMeta =>
      rw [wrap, entries]
      rfl
  | bare => rfl

/-- A document that can be read back can be in a wrapping, too, if the name of the index can. -/
theorem around_legible {body : Value} (legible : (Value.object [(key, body)]).Legible)
    (indexed : ∀ name ∈ index, Text.Unsplit name.toList) :
    (Value.object (wrapping.around index key body)).Legible := by
  obtain ⟨plain, whole⟩ := legible.entries _ List.mem_cons_self
  have option : Value.PlainKey "index" := Value.vocabulary_plain _ (by simp [Value.vocabulary])
  have inner : (Value.object ([(key, body)] ++ optionalEntry "index" .text index)).Legible := by
    cases index with
    | none => exact legible
    | some name =>
        refine .object (by simpa [optionalEntry] using fresh) ?_ ?_
        · simpa [optionalEntry] using ⟨plain, option⟩
        · simpa [optionalEntry] using ⟨whole, Value.Legible.text (indexed name rfl)⟩
  have staged : ∀ stage ∈ Value.vocabulary, (Value.object
      [(stage, .object ([(key, body)] ++ optionalEntry "index" .text index))]).Legible := by
    intro stage listed
    exact .object (List.nodup_singleton stage)
      (by simpa using Value.vocabulary_plain stage listed) (by simpa using inner)
  cases wrapping with
  | search => exact staged "$search" (by simp [Value.vocabulary])
  | searchMeta => exact staged "$searchMeta" (by simp [Value.vocabulary])
  | bare => exact legible

end

end Wrapping

open Outcome (bind_eq_ok map_eq_ok)

namespace CommandLine

section

variable {w : Workspace} {environment : Option String} {target : String} {wrapping : Wrapping}
  {index : Option String} {indent : Int} {s : Session} {op : Operator Value} {c : Catalog}

theorem blanks_blank (indent : Int) : (Json.Layout.blanks indent).Blank := by
  rintro unit ⟨⟩ c held
  rw [String.toList_ofList] at held
  rw [List.eq_of_mem_replicate held]
  rfl

/-- A run prints the document of the definition that is loaded, wrapped. -/
theorem run_prepared {schema : Option String} {sc : Schema}
    (prepared : Prepared w target schema s op c sc) {v : Value}
    (written : op.render (sc.resolver c) = .ok v) :
    run w environment (.ofTexts target schema wrapping index indent) s =
      (ExtendedJson.print (.int indent)
        (wrapping.wrap ((chosenName index environment).map .plain) v)).map
          (fun text => ⟨0, text ++ "\n", ""⟩) := by
  obtain ⟨after, made⟩ := prepared.document_apply environment wrapping index indent
  unfold run
  rw [made, written]
  dsimp only [Except.map, Except.mapError, Request.ofTexts]
  cases ExtendedJson.print (.int indent)
    (wrapping.wrap ((chosenName index environment).map .plain) v) <;> rfl

/-- A printed text is that of a JSON document in the layout that the indentation asks for. -/
theorem print_int_eq_ok {v : Value} {text : String}
    (shown : ExtendedJson.print (.int indent) v = .ok text) :
    ∃ json, ExtendedJson.ofTerm v.toTerm = .ok json ∧ text = json.print (.blanks indent) := by
  obtain ⟨shape, laid, more⟩ := bind_eq_ok.mp shown
  obtain ⟨json, found, made⟩ := bind_eq_ok.mp more
  cases made
  have within := (print_int_iff.mp ⟨_, shown⟩).1
  have shaped : ExtendedJson.layout (.int indent) = .ok (.blanks indent) := if_pos within
  cases laid.symm.trans shaped
  exact ⟨json, found, rfl⟩

/-- A document that can be read back is accepted as a hand-written one from its text, with white
space after it, and is then written as an equal document over every schema. -/
theorem makeRaw_print {entries : List (String × Value)} (legible : (Value.object entries).Legible)
    {json : Json} (found : ExtendedJson.ofTerm (Value.object entries).toTerm = .ok json)
    (indent : Int) (tag : Nat) {trail : String}
    (blank : ∀ c ∈ trail.toList, Json.isSpace c = true) :
    ∃ copies, Operator.makeRaw tag (.text (json.print (.blanks indent) ++ trail)) =
        .ok (.raw copies) ∧
      ∀ (c : Catalog) (schema : Option Value), ∃ copy,
        (Value.ofOperator (.raw copies)).document c schema = .ok copy ∧
          copy.equal (.object entries) = true := by
  obtain ⟨readable, copy, built, alike, copyable, dictionary⟩ := legible.readsBack tag json found
  obtain ⟨copies, rfl⟩ := dictionary _ rfl
  have read := Json.read_print (blanks_blank indent) readable built blank
  refine ⟨copies, ?_, fun c schema => ⟨.dict copies, ?_, ?_⟩⟩
  · unfold Operator.makeRaw Operator.rawBy
    have words : ExtendedJson.asText? (.text (json.print (.blanks indent) ++ trail)) =
        some (json.print (.blanks indent) ++ trail) := rfl
    rw [words]
    dsimp only
    unfold ExtendedJson.read
    rw [read]
    rfl
  · have copied : (Value.dict copies).copyable = true := copyable
    have written : ∀ resolve, (Operator.raw copies).render resolve = .ok (.dict copies) :=
      fun _ => if_pos copied
    unfold Value.document
    rw [Operator.part_render]
    cases schema with
    | none => exact written (Schema.coerced c .null)
    | some schema => exact written (Schema.coerced c schema)
  · exact Term.equal_of_alike alike rfl

/-- What a run prints of a definition that a program makes is accepted as a hand-written document,
and is written as a document equal to the one that was printed. -/
theorem printed_accepted (prepared : Prepared w target none s op c .untyped)
    (made : Made (.ofOperator op)) (free : op.rawFree = true)
    (plotted : ∀ g ∈ op.geometries, g.Plotted)
    (facets : ∀ name ∈ op.facetNames,
      name.toList.head? ≠ some '$' ∧ Text.Unsplit name.toList)
    (indexed : ∀ name ∈ chosenName index environment, Text.Unsplit name.toList) {v : Value}
    (rendered : (Value.ofOperator op).document c (some .null) = .ok v)
    (leaves : v.Each (fun _ _ leaf => leaf.Ordinary → leaf.Legible) "" "") {outcome : Outcome}
    (printed : run w environment (.ofTexts target none wrapping index indent) s = .ok outcome) :
    ∃ text document, outcome = ⟨0, text ++ "\n", ""⟩ ∧
      wrapped c op .null (.ofOption .text (chosenName index environment)) wrapping = .ok document ∧
        ∀ (tag : Nat) (trail : String), (∀ c ∈ trail.toList, Json.isSpace c = true) →
          ∃ entries, Operator.makeRaw tag (.text (text ++ trail)) = .ok (.raw entries) ∧
            ∀ (catalog : Catalog) (schema : Option Value), ∃ copy,
              (Value.ofOperator (.raw entries)).document catalog schema = .ok copy ∧
                copy.equal document = true := by
  have written : op.render (Schema.untyped.resolver c) = .ok v := by
    rwa [Operator.document_eq, Operator.documentWith_eq rfl] at rendered
  rw [run_prepared prepared written] at printed
  obtain ⟨text, shown, rfl⟩ := map_eq_ok.mp printed
  obtain ⟨json, found, rfl⟩ := print_int_eq_ok shown
  have legible := Operator.render_legible made free plotted facets written leaves
  rcases Operator.render_shape written with ⟨entries, rfl, -⟩ | ⟨body, rfl⟩
  · cases free
  · have fresh : op.name ≠ "index" := by
      intro same
      exact Stage.name_not_mem_options op (by simp [same, Stage.options])
    have readable := Wrapping.around_legible fresh wrapping legible indexed
    rw [Wrapping.wrap_single fresh] at found
    refine ⟨_, .object (wrapping.around (chosenName index environment) op.name body), rfl, ?_,
      fun tag trail blank => makeRaw_print readable found indent tag blank⟩
    rw [wrapped_eq rfl (chosenName_ne_empty index environment), written]
    exact congrArg Except.ok (Wrapping.wrap_single fresh wrapping body _)

end

def landing : DateTime :=
  ⟨⟨1969, 7, 20⟩, 20, 17, 40, 250000, none⟩

/-- Places that opened near an evening before 1970, counted by kind. -/
def openedFacets : Operator Value :=
  .facet (.near (.single (.name "opened")) (.date landing) (.double (.finite false 3)) none)
    [.string "kind" (.single (.name "type")) (.int 20)]

theorem openedFacets_made : Made (.ofOperator openedFacets) := by
  have text : ∀ s, Made (.text s) := fun s => .plain trivial
  have number : ∀ x, Made (.number x) := fun x => .plain trivial
  have date : Made (.dateTime landing) := .plain trivial
  have null : Made .null := .plain trivial
  have search := Made.built .near
    [.text "opened", .dateTime landing, .number (.double (.finite false 3)), .null]
    (by simpa using ⟨text _, date, number _, null⟩) rfl
  have kinds := Made.built .stringFacet [.text "kind", .text "type", .int 20]
    (by simp [text, number]) rfl
  exact .built .facet [_, _] (by simpa using ⟨search, kinds⟩) rfl

def openedFacetsBody : Value :=
  .object [
    ("operator", .object [("near", .object [("path", .text "opened"), ("origin", .dateTime landing),
      ("pivot", .number (.double (.finite false 3)))])]),
    ("facets", .object [("kind", .object [("type", .text "string"), ("path", .text "type"),
      ("numBuckets", .int 20)])])]

def openedDocument : Value :=
  .object [("facet", openedFacetsBody)]

theorem landing_plain : landing.Plain where
  there := ⟨by decide, by decide, by decide, by decide, by decide⟩
  naive := rfl
  whole := by decide

/-- Three is a double. -/
theorem representable_three : Double.Representable 3 := by
  unfold Double.Representable
  decide +kernel

theorem openedFacets_prepared : Prepared (shop openedFacets) "shop:query" none
    (.start .empty .bare) openedFacets .empty .untyped :=
  shop_prepared openedFacets (.start .empty .bare)

theorem openedFacets_free : openedFacets.rawFree = true :=
  rfl

theorem openedFacets_plotted : ∀ g ∈ openedFacets.geometries, g.Plotted := by
  have none : openedFacets.geometries = [] := rfl
  rw [none]
  exact nofun

theorem openedFacets_named : ∀ name ∈ openedFacets.facetNames,
    name.toList.head? ≠ some '$' ∧ Text.Unsplit name.toList := by
  have kind : openedFacets.facetNames = ["kind"] := rfl
  rw [kind]
  decide

theorem openedFacets_rendered :
    openedFacets.render (Schema.untyped.resolver .empty) = .ok openedDocument :=
  rfl

/-- What holds of the leaves of the document holds throughout it. -/
theorem openedFacetsBody_each {P : String → String → Value → Prop}
    (path : P "near" "path" (.text "opened")) (origin : P "near" "origin" (.dateTime landing))
    (pivot : P "near" "pivot" (.number (.double (.finite false 3))))
    (kind : P "kind" "type" (.text "string")) (field : P "kind" "path" (.text "type"))
    (buckets : P "kind" "numBuckets" (.int 20)) (outer inner : String) :
    openedFacetsBody.Each P outer inner := by
  simp only [openedFacetsBody, Value.each_object, Value.eachNamed_cons, Value.eachNamed_nil,
    Value.Each, and_true]
  exact ⟨⟨path, origin, pivot⟩, kind, field, buckets⟩

theorem openedFacetsBody_prints (outer inner : String) :
    openedFacetsBody.Each (fun _ _ leaf => leaf.Prints) outer inner := by
  have text : ∀ s, (Value.text s).Prints := fun _ => ⟨_, rfl⟩
  have date : (Value.dateTime landing).Prints := ExtendedJson.ofDate_plain landing_plain
  have three : (Value.number (.double (.finite false 3))).Prints := ⟨_, rfl⟩
  have twenty : (Value.int 20).Prints := ⟨_, rfl⟩
  exact openedFacetsBody_each (text _) date three (text _) (text _) twenty outer inner

/-- A run prints them in a stage. -/
theorem openedFacets_printed : ∃ outcome,
    run (shop openedFacets) none (.ofTexts "shop:query" none .search (some "places") 2)
      (.start .empty .bare) = .ok outcome := by
  have stage : Wrapping.wrap ((chosenName (some "places") none).map .plain) openedDocument .search =
      .object [("$search", .object [("facet", openedFacetsBody), ("index", .text "places")])] :=
    Wrapping.wrap_single (by decide) .search openedFacetsBody _
  have keyed : Value.Each (fun _ _ _ => True) "" "" (.object
      [("$search", .object [("facet", openedFacetsBody), ("index", .text "places")])]) := by
    simp only [Value.each_object, Value.eachNamed_cons, Value.eachNamed_nil, Value.Each, and_true]
    exact openedFacetsBody_each trivial trivial trivial trivial trivial trivial _ _
  have prints : (Wrapping.wrap ((chosenName (some "places") none).map .plain) openedDocument
      .search).Prints := by
    rw [stage, Value.prints_iff keyed]
    simp only [Value.each_object, Value.eachNamed_cons, Value.eachNamed_nil, Value.Each, and_true]
    exact ⟨openedFacetsBody_prints _ _, _, rfl⟩
  have allowed : -ExtendedJson.blanksLimit ≤ 2 ∧ 2 < ExtendedJson.blanksLimit := by decide
  obtain ⟨shown, made⟩ := print_int_iff.mpr ⟨allowed, prints⟩
  rw [run_prepared openedFacets_prepared openedFacets_rendered, made]
  exact ⟨_, rfl⟩

theorem openedFacets_leaves :
    openedDocument.Each (fun _ _ leaf => leaf.Ordinary → leaf.Legible) "" "" := by
  have text : ∀ {s : String}, (∀ c ∈ s.toList, c.toNat < 128) → (Value.text s).Legible :=
    fun ascii => .text (Text.unsplit_of_ascii ascii)
  simp only [openedDocument, Value.each_object, Value.eachNamed_cons, Value.eachNamed_nil, and_true]
  refine openedFacetsBody_each (fun _ => text ?_) (fun _ => .date landing_plain)
    (fun _ => .double false representable_three) (fun _ => text ?_) (fun _ => text ?_)
    (fun _ => .whole _) "" "facet"
  all_goals exact List.all_iff_forall_prop.mp (by decide)

/-- What is printed of them is accepted and written as an equal stage. -/
theorem openedFacets_printed_accepted :
    ∃ text document entries copy,
      run (shop openedFacets) none (.ofTexts "shop:query" none .search (some "places") 2)
        (.start .empty .bare) = .ok ⟨0, text ++ "\n", ""⟩ ∧
      wrapped .empty openedFacets .null (.text "places") .search = .ok document ∧
      Operator.makeRaw 0 (.text (text ++ "\n")) = .ok (.raw entries) ∧
      (Value.ofOperator (.raw entries)).document .empty none = .ok copy ∧
        copy.equal document = true := by
  obtain ⟨outcome, printed⟩ := openedFacets_printed
  have indexed : ∀ name ∈ chosenName (some "places") none, Text.Unsplit name.toList := by
    rintro _ ⟨⟩
    decide
  have rendered : (Value.ofOperator openedFacets).document .empty (some .null) =
      .ok openedDocument := rfl
  obtain ⟨text, document, rfl, wraps, accepted⟩ :=
    printed_accepted openedFacets_prepared openedFacets_made openedFacets_free openedFacets_plotted
      openedFacets_named indexed rendered openedFacets_leaves printed
  obtain ⟨entries, read, again⟩ := accepted 0 "\n" (List.forall_mem_singleton.mpr rfl)
  obtain ⟨copy, back, same⟩ := again .empty none
  exact ⟨text, document, entries, copy, printed, wraps, read, back, same⟩

end CommandLine

end SearchQuery
