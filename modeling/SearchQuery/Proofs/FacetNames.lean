import Mathlib.Data.List.Nodup
import SearchQuery.Proofs.Conformance
import SearchQuery.Proofs.Reports
import SearchQuery.Proofs.StageFrame

/-!
# Names of facets

Facets are gone through with the names seen so far, so that no two of them have
the same name, however far apart they stand.  The documents of the facets are
then written under their names without one taking the place of another.  A name
that is code is never found among the names seen: it ends the search with a
fault that is no report.
-/

namespace SearchQuery

open Outcome (FailsAs)

theorem Words.eq_plain {w : Words} (plain : w.isCode = false) : w = .plain w.text := by
  obtain ⟨text, scope⟩ := w
  cases scope with
  | none => rfl
  | some scope => cases plain

/-- Under distinct names, every entry is found under its own. -/
theorem Value.lookup_keyed {entries : List (String × Value)} {name : String} {v : Value}
    (distinct : (entries.map Prod.fst).Nodup) (held : (name, v) ∈ entries) :
    Value.lookup name (Stage.keyed entries) = some v := by
  induction entries with
  | nil => exact absurd held List.not_mem_nil
  | cons entry rest ih =>
      obtain ⟨unlisted, distinctRest⟩ := List.nodup_cons.mp distinct
      show Value.find? _ ((.text entry.1, entry.2) :: Stage.keyed rest) = _
      rw [Value.find?, Value.sameKey_texts]
      rcases List.mem_cons.mp held with rfl | later
      · rw [beq_self_eq_true, if_pos rfl]
      · have other : entry.1 ≠ name := by
          rintro rfl
          exact unlisted (List.mem_map.mpr ⟨_, later, rfl⟩)
        rw [beq_eq_false_iff_ne.mpr other, if_neg Bool.false_ne_true]
        exact ih distinctRest later

namespace Facet

def values (fs : List Facet) : List Value :=
  fs.map (fun f => .node (.facet f))

/-- A facet is named by code before any name is there twice. -/
def CodeFirst (fs : List Facet) : Prop :=
  ∃ before f after, fs = before ++ f :: after ∧ f.name.isCode = true ∧
    (∀ g ∈ before, g.name.isCode = false) ∧ (before.map Facet.name).Nodup

/-- A facet that repeats a name. -/
def Repeats (fault : Fault Value) : Prop :=
  ∃ name, fault = .invalid "facets" (.text name) (.duplicateFacet name)

variable {seen : List String} {fs gs : List Facet}

theorem distinctNames_values_cons (seen : List String) (f : Facet) (rest : List Facet) :
    distinctNames seen (values (f :: rest)) =
      if f.name.isCode then .error (.refused .wrongType)
      else if seen.contains f.name.text then
        .error (.invalid "facets" (.text f.name.text) (.duplicateFacet f.name.text))
      else (distinctNames (f.name.text :: seen) (values rest)).map (fun others => f :: others) := by
  rw [values, List.map_cons, distinctNames_cons, expect_eq_ok.mpr rfl]
  rfl

theorem distinctNames_values_eq_ok :
    distinctNames seen (values fs) = .ok gs ↔ gs = fs ∧ (∀ f ∈ fs, f.name.isCode = false) ∧
      (fs.map (fun f => f.name.text)).Nodup ∧ ∀ f ∈ fs, f.name.text ∉ seen := by
  have injective : Function.Injective (fun f : Facet => (.node (.facet f) : Value)) :=
    fun _ _ same => Node.facet.inj (Value.node.inj same)
  rw [distinctNames_eq_ok, values, List.map_inj_right (fun _ _ same => injective same)]
  constructor
  · rintro ⟨rfl, passed⟩
    exact ⟨rfl, passed⟩
  · rintro ⟨rfl, passed⟩
    exact ⟨rfl, passed⟩

theorem distinctNames_fails :
    FailsAs (fun fault => fault = .refused .wrongType ∨ Repeats fault)
      (distinctNames seen (values fs)) := by
  induction fs generalizing seen with
  | nil => exact .ok _
  | cons f rest ih =>
      rw [distinctNames_values_cons]
      split
      · exact .error (.inl rfl)
      · split
        · exact .error (.inr ⟨_, rfl⟩)
        · exact .map _ ih

/-- Names that are no code differ as names exactly when they differ as texts. -/
theorem nodup_names_iff (plain : ∀ f ∈ fs, f.name.isCode = false) :
    (fs.map Facet.name).Nodup ↔ (fs.map (fun f => f.name.text)).Nodup := by
  have named : fs.map Facet.name = (fs.map (fun f => f.name.text)).map Words.plain := by
    rw [List.map_map]
    exact List.map_congr_left (fun f held => Words.eq_plain (plain f held))
  have injective : Function.Injective Words.plain := fun _ _ same => congrArg Words.text same
  rw [named, List.nodup_map_iff injective]

/-- Facets with distinct names, one of them code, are stopped at the first that is. -/
theorem codeFirst_of_nodup (distinct : (fs.map Facet.name).Nodup) {f : Facet} (held : f ∈ fs)
    (coded : f.name.isCode = true) : CodeFirst fs := by
  obtain ⟨first, found⟩ := Option.isSome_iff_exists.mp
    (List.find?_isSome (p := fun g : Facet => g.name.isCode) |>.mpr ⟨f, held, coded⟩)
  obtain ⟨isCode, before, after, rfl, plain⟩ := List.find?_eq_some_iff_append.mp found
  refine ⟨before, first, after, rfl, isCode, fun g there => by simpa using plain g there, ?_⟩
  rw [List.map_append] at distinct
  exact (List.nodup_append.mp distinct).1

theorem codeFirst_iff : CodeFirst fs ↔ CodeReached [] (values fs) := by
  have passes : ∀ before : List Facet, (∃ gs, distinctNames [] (values before) = .ok gs) ↔
      (∀ g ∈ before, g.name.isCode = false) ∧ (before.map Facet.name).Nodup := by
    intro before
    simp only [distinctNames_values_eq_ok]
    constructor
    · rintro ⟨gs, -, plain, distinct, -⟩
      exact ⟨plain, (nodup_names_iff plain).mpr distinct⟩
    · rintro ⟨plain, distinct⟩
      exact ⟨before, rfl, plain, (nodup_names_iff plain).mp distinct, by simp⟩
  constructor
  · rintro ⟨before, f, after, rfl, coded, plain, distinct⟩
    refine ⟨values before, f, values after, ?_, (passes before).mpr ⟨plain, distinct⟩, coded⟩
    simp [values]
  · rintro ⟨before, f, after, split, passed, coded⟩
    obtain ⟨firsts, more, rfl, rfl, later⟩ := List.map_eq_append_iff.mp split
    obtain ⟨g, rest, rfl, same, rfl⟩ := List.map_eq_cons_iff.mp later
    cases same
    obtain ⟨plain, distinct⟩ := (passes firsts).mp passed
    exact ⟨firsts, f, rest, rfl, coded, plain, distinct⟩

/-- Going through names ends in a wrong type exactly when one that is code comes first. -/
theorem distinctNames_wrongType :
    distinctNames [] (values fs) = .error (.refused .wrongType) ↔ CodeFirst fs := by
  constructor
  · intro stopped
    by_contra clean
    exact distinctNames_reports.mpr (fun reached => clean (codeFirst_iff.mpr reached)) _ stopped
  · intro first
    by_contra other
    -- if it ended in any other way this would be reported, and no code would be reached
    refine distinctNames_reports.mp (fun fault stopped => ?_) (codeFirst_iff.mp first)
    rcases distinctNames_fails fault stopped with rfl | ⟨name, rfl⟩
    · exact absurd stopped other
    · trivial

/-- What facets over an operator are accepted for: exactly that there are some and that their names
are distinct; others are reported. -/
def Decided (op : Operator Value) (fs : List Facet) : Prop :=
  ((∃ made, Operator.ofFacets (.ofOperator op) (.tuple (values fs)) = .ok made) ↔
    fs ≠ [] ∧ (fs.map Facet.name).Nodup) ∧
  (¬ (fs ≠ [] ∧ (fs.map Facet.name).Nodup) → ∃ v reason,
    Operator.ofFacets (.ofOperator op) (.tuple (values fs)) = .error (.invalid "facets" v reason))

/-- The document of an operator over facets holds all of them: as many entries as there are facets,
in their order, under their names; each is found under its own name, and written one after another
none takes the place of another. -/
structure AllWritten (resolve : Resolver) (op : Operator Value) (fs : List Facet)
    (body : Value) (entries : List (String × Value)) : Prop where
  operator : op.render resolve = .ok body
  count : entries.length = fs.length
  names : entries.map Prod.fst = fs.map (fun f => f.name.text)
  own : ∀ f ∈ fs, ∃ document, f.render resolve = .ok document ∧
    Value.lookup f.name.text (Stage.keyed entries) = some document
  whole : Stage.setAll entries [] = Stage.keyed entries

theorem ofFacets_values (op : Operator Value) (some : fs ≠ []) :
    Operator.ofFacets (.ofOperator op) (.tuple (values fs)) =
      (distinctNames [] (values fs)).map (fun fs => .facet op fs) := by
  have given : (values fs).isEmpty = false := by
    rw [List.isEmpty_eq_false_iff]
    exact fun none => some (List.map_eq_nil_iff.mp none)
  rw [Operator.ofFacets_tuple, given]
  rfl

theorem ofFacets_values_eq_ok {op made : Operator Value} :
    Operator.ofFacets (.ofOperator op) (.tuple (values fs)) = .ok made ↔
      fs ≠ [] ∧ (∀ f ∈ fs, f.name.isCode = false) ∧ (fs.map Facet.name).Nodup ∧
        made = .facet op fs := by
  by_cases none : fs = []
  · subst none
    constructor
    · rintro ⟨⟩
    · exact fun given => absurd rfl given.1
  · rw [ofFacets_values op none, Outcome.map_eq_ok]
    simp only [distinctNames_values_eq_ok]
    constructor
    · rintro ⟨gs, ⟨rfl, plain, distinct, -⟩, rfl⟩
      exact ⟨none, plain, (nodup_names_iff plain).mpr distinct, rfl⟩
    · rintro ⟨-, plain, distinct, rfl⟩
      exact ⟨fs, ⟨rfl, plain, (nodup_names_iff plain).mp distinct, by simp⟩, rfl⟩

theorem ofFacets_codeFirst (op : Operator Value) (first : CodeFirst fs) :
    Operator.ofFacets (.ofOperator op) (.tuple (values fs)) = .error (.refused .wrongType) := by
  have some : fs ≠ [] := by
    obtain ⟨before, f, after, rfl, -⟩ := first
    simp
  rw [ofFacets_values op some, distinctNames_wrongType.mpr first]
  rfl

theorem ofFacets_fails (op : Operator Value) {fault : Fault Value} (clean : ¬ CodeFirst fs)
    (stopped : Operator.ofFacets (.ofOperator op) (.tuple (values fs)) = .error fault) :
    ∃ v reason, fault = .invalid "facets" v reason := by
  by_cases none : fs = []
  · subst none
    cases stopped
    exact ⟨_, _, rfl⟩
  · rw [ofFacets_values op none] at stopped
    cases outcome : distinctNames [] (values fs) with
    | ok gs =>
        rw [outcome] at stopped
        cases stopped
    | error other =>
        rw [outcome] at stopped
        cases stopped
        rcases distinctNames_fails fault outcome with rfl | ⟨name, rfl⟩
        · exact absurd (distinctNames_wrongType.mp outcome) clean
        · exact ⟨_, _, rfl⟩

/-- Facets are accepted, or reported, as they should be, unless one that is named by code comes
before a name is there twice. -/
theorem decided_iff {op : Operator Value} : Decided op fs ↔ ¬ CodeFirst fs := by
  constructor
  · rintro ⟨accepts, reports⟩ first
    have refused := ofFacets_codeFirst op first
    by_cases proper : fs ≠ [] ∧ (fs.map Facet.name).Nodup
    · obtain ⟨made, accepted⟩ := accepts.mpr proper
      rw [refused] at accepted
      cases accepted
    · obtain ⟨v, reason, reported⟩ := reports proper
      rw [refused] at reported
      cases reported
  · intro clean
    have accepts : (∃ made, Operator.ofFacets (.ofOperator op) (.tuple (values fs)) = .ok made) ↔
        fs ≠ [] ∧ (fs.map Facet.name).Nodup := by
      simp only [ofFacets_values_eq_ok]
      constructor
      · rintro ⟨made, some, -, distinct, -⟩
        exact ⟨some, distinct⟩
      · rintro ⟨some, distinct⟩
        refine ⟨_, some, fun f held => ?_, distinct, rfl⟩
        cases coded : f.name.isCode with
        | false => rfl
        | true => exact absurd (codeFirst_of_nodup distinct held coded) clean
    refine ⟨accepts, fun improper => ?_⟩
    cases outcome : Operator.ofFacets (.ofOperator op) (.tuple (values fs)) with
    | ok made => exact absurd (accepts.mp ⟨made, outcome⟩) improper
    | error fault =>
        obtain ⟨v, reason, rfl⟩ := ofFacets_fails op clean outcome
        exact ⟨v, reason, rfl⟩

/-- Facets under distinct names are all in the document of an operator with them. -/
theorem allWritten_of_render {op : Operator Value} {resolve : Resolver} {document : Value}
    (distinct : (fs.map (fun f => f.name.text)).Nodup)
    (rendered : (Operator.facet op fs).render resolve = .ok document) :
    ∃ body entries, AllWritten resolve op fs body entries ∧
      document = .object [("facet", .object [("operator", body), ("facets", .object entries)])] := by
  obtain ⟨body, operator, more⟩ := Outcome.bind_eq_ok.mp rendered
  obtain ⟨entries, written, made⟩ := Outcome.bind_eq_ok.mp more
  cases made
  have both := renderAll_eq_ok written
  have names := renderAll_names written
  have different : (entries.map Prod.fst).Nodup := names ▸ distinct
  refine ⟨body, entries, ⟨operator, both.length_eq.symm, names, ?_, ?_⟩, rfl⟩
  · intro f held
    obtain ⟨entry, there, named, own⟩ := counterpart_of_mem both f held
    exact ⟨entry.2, own, Value.lookup_keyed different (named ▸ there)⟩
  · exact Stage.setAll_apart different (fun _ held => absurd held List.not_mem_nil)

theorem not_codeFirst (plain : ∀ f ∈ fs, f.name.isCode = false) : ¬ CodeFirst fs := by
  rintro ⟨before, f, after, rfl, coded, -⟩
  have absent := plain f (List.mem_append_right before List.mem_cons_self)
  rw [coded] at absent
  cases absent

/-- An operator takes facets exactly when there are some and their names are distinct, and reports
others, if and only if none that is named by code comes before a name is there twice; such a one
ends in a wrong type.  Whatever resolves the fields, the document of an operator with facets holds
the document of the operator and that of each facet under its name, and loses none. -/
theorem distinct_all_written (op : Operator Value) (fs : List Facet) :
    (Decided op fs ↔ ¬ CodeFirst fs) ∧
    (CodeFirst fs → Operator.ofFacets (.ofOperator op) (.tuple (values fs)) =
      .error (.refused .wrongType)) ∧
    ∀ made, Operator.ofFacets (.ofOperator op) (.tuple (values fs)) = .ok made →
      ∀ resolve document, made.render resolve = .ok document →
        ∃ body entries, AllWritten resolve op fs body entries ∧ document =
          .object [("facet", .object [("operator", body), ("facets", .object entries)])] := by
  refine ⟨decided_iff, ofFacets_codeFirst op, ?_⟩
  intro made accepted resolve document rendered
  obtain ⟨-, plain, distinct, rfl⟩ := ofFacets_values_eq_ok.mp accepted
  exact allWritten_of_render ((nodup_names_iff plain).mp distinct) rendered

/-- Genres by value, years by interval and dates of release by interval, the last under a given name. -/
def filmFacets (releases : String) : List Facet :=
  [.string "genres" (.single (.name "genre")) (.int 10),
    .number "years" (.single (.name "year")) [.int 1990, .int 2000] none,
    .date releases (.single (.name "released")) [⟨⟨1990, 1, 1⟩, 0, 0, 0, 0, none⟩,
      ⟨⟨2000, 1, 1⟩, 0, 0, 0, 0, none⟩] none]

/-- Three facets are all written; with the name of the first on the last, they are reported. -/
theorem filmFacets_all_written :
    (∃ document body entries, (Operator.facet (.existence (.name "plot"))
        (filmFacets "releases")).render (Schema.untyped.resolver Catalog.empty) = .ok document ∧
      AllWritten (Schema.untyped.resolver Catalog.empty) (.existence (.name "plot"))
        (filmFacets "releases") body entries ∧
      document = .object [("facet", .object [("operator", body), ("facets", .object entries)])]) ∧
    ∃ v reason, Operator.ofFacets (.ofOperator (.existence (.name "plot")))
      (.tuple (values (filmFacets "genres"))) = .error (.invalid "facets" v reason) := by
  constructor
  · obtain ⟨-, -, written⟩ :=
      distinct_all_written (.existence (.name "plot")) (filmFacets "releases")
    obtain ⟨body, entries, all, shape⟩ := written _ rfl (Schema.untyped.resolver Catalog.empty) _ rfl
    exact ⟨_, body, entries, rfl, all, shape⟩
  · obtain ⟨decided, -⟩ := distinct_all_written (.existence (.name "plot")) (filmFacets "genres")
    obtain ⟨-, reports⟩ := decided.mpr (not_codeFirst (by decide))
    refine reports ?_
    rintro ⟨-, distinct⟩
    simp [filmFacets, Facet.name] at distinct

def codedFacet : Facet :=
  .string ⟨"a", some .null⟩ (.single (.name "x")) (.int 10)

/-- A single facet named by code can be made, and has no name in common with another one, but no
operator takes it, and nothing is reported. -/
theorem codedFacet_not_decided :
    makeString (.node (.code "a" .null)) (.text "x") (.int 10) = .ok codedFacet ∧
      ¬ Decided (.existence (.name "x")) [codedFacet] := by
  refine ⟨rfl, fun decided => decided_iff.mp decided ?_⟩
  exact ⟨[], codedFacet, [], rfl, rfl, fun _ held => absurd held List.not_mem_nil, List.nodup_nil⟩

end Facet

end SearchQuery
