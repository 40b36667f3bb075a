import SearchQuery.Proofs.Alike
import SearchQuery.Proofs.Conformance

/-!
# Getting parts back from documents

A document determines the fields, the texts and the spans that it was written
from.
-/

namespace SearchQuery

/-!
## Parts of definitions from their documents

The document of a part, written without a schema, tells the part: parts with
documents that are alike are alike themselves.  What is left out of a document
is what the server assumes, so leaving it out tells as much as writing it.
-/

namespace Words

theorem toTerm_ofWords {w : Words} (faithful : w.Faithful) :
    (Value.ofWords w).toTerm = w.toTerm := by
  obtain ⟨s, _ | scope⟩ := w
  · rfl
  · have read : (Value.ofTerm scope).toTerm = scope := faithful scope rfl
    simp only [Value.ofWords, Value.toTerm, Node.toTerm, read, toTerm]

theorem alike_of_ofWords {a b : Words} (left : a.Faithful) (right : b.Faithful)
    (same : (Value.ofWords a).Alike (.ofWords b)) : a.toTerm.Alike b.toTerm := by
  rwa [Value.Alike, toTerm_ofWords left, toTerm_ofWords right] at same

theorem not_alike_list {w : Words} {items : List Value} :
    ¬ (Value.ofWords w).Alike (.list items) := by
  intro same
  obtain ⟨others, found⟩ := Term.list_of_alike same
  obtain ⟨s, _ | scope⟩ := w <;> cases found

theorem list_not_alike {w : Words} {items : List Value} :
    ¬ (Value.list items).Alike (.ofWords w) := by
  intro same
  obtain ⟨others, found⟩ := Term.of_list_alike same
  obtain ⟨s, _ | scope⟩ := w <;> cases found

theorem not_alike_object {w : Words} {entries : List (String × Value)} :
    ¬ (Value.ofWords w).Alike (.object entries) := by
  intro same
  obtain ⟨others, found⟩ := Term.dict_of_alike same
  obtain ⟨s, _ | scope⟩ := w <;> cases found

theorem object_not_alike {w : Words} {entries : List (String × Value)} :
    ¬ (Value.object entries).Alike (.ofWords w) := by
  intro same
  obtain ⟨others, found⟩ := Term.of_dict_alike same
  obtain ⟨s, _ | scope⟩ := w <;> cases found

end Words

namespace Value

theorem list_not_alike_object {items : List Value} {entries : List (String × Value)} :
    ¬ (list items).Alike (object entries) := by
  intro same
  obtain ⟨others, found⟩ := Term.dict_of_alike same
  cases found

theorem object_not_alike_list {items : List Value} {entries : List (String × Value)} :
    ¬ (object entries).Alike (list items) := by
  intro same
  obtain ⟨others, found⟩ := Term.of_dict_alike same
  cases found

section

variable {α : Type} {f : α → Value} {g : α → Term}

/-- What may be absent is told by what is written of it, as long as it is told by
its document when it is there. -/
theorem alike_ofOption {a b : Option α}
    (one : ∀ x ∈ a, ∀ y ∈ b, (f x).Alike (f y) → (g x).Alike (g y))
    (same : Option.Rel Alike (a.map f) (b.map f)) :
    (Term.ofOption g a).Alike (Term.ofOption g b) := by
  cases a with
  | none =>
      cases b with
      | none => exact Term.alike_null
      | some y => cases same
  | some x =>
      cases b with
      | none => cases same
      | some y =>
          cases same with
          | some alike => exact one x rfl y rfl alike

/-- A setting that is left out when it is the usual one is told by what is written. -/
theorem alike_of_omitted (usual : α → Prop) [DecidablePred usual] {a b : α}
    (both : usual a → usual b → (g a).Alike (g b))
    (one : (f a).Alike (f b) → (g a).Alike (g b))
    (same : Option.Rel Alike (if usual a then none else some (f a))
      (if usual b then none else some (f b))) : (g a).Alike (g b) := by
  by_cases omitted : usual a
  · by_cases omittedOther : usual b
    · exact both omitted omittedOther
    · simp only [omitted, omittedOther, if_true, if_false] at same
      cases same
  · by_cases omittedOther : usual b
    · simp only [omitted, omittedOther, if_true, if_false] at same
      cases same
    · simp only [omitted, omittedOther, if_false, Option.rel_some_some] at same
      exact one same

/-- Items that are told by their documents are told by the list of them. -/
theorem alike_tuple {as bs : List α}
    (one : ∀ x ∈ as, ∀ y ∈ bs, (f x).Alike (f y) → (g x).Alike (g y))
    (same : (list (as.map f)).Alike (list (bs.map f))) :
    (Term.tuple (as.map g)).Alike (.tuple (bs.map g)) := by
  rw [alike_list, List.forall₂_map_left_iff, List.forall₂_map_right_iff] at same
  rw [Term.alike_tuple, List.forall₂_map_left_iff, List.forall₂_map_right_iff]
  induction same with
  | nil => exact .nil
  | cons first _ ih =>
      refine .cons (one _ List.mem_cons_self _ List.mem_cons_self first) (ih ?_)
      intro x held y inside
      exact one x (List.mem_cons_of_mem _ held) y (List.mem_cons_of_mem _ inside)

end

theorem alike_number {x y : Number} :
    (number x).Alike (.number y) ↔ (Term.number x).Alike (.number y) := by
  rw [Alike, toTerm, toTerm]

theorem alike_whole {a b : Whole} :
    (whole a).Alike (.whole b) ↔ (Term.whole a).Alike (.whole b) := by
  rw [Alike, toTerm, toTerm]

theorem alike_bool {a b : Bool} :
    (bool a).Alike (.bool b) ↔ (Term.bool a).Alike (.bool b) := by
  rw [Alike, toTerm, toTerm]

theorem alike_dateTime {s t : DateTime} :
    (dateTime s).Alike (.dateTime t) ↔ (Term.dateTime s).Alike (.dateTime t) := by
  rw [Alike, toTerm, toTerm]

end Value

theorem Query.alike_of_render {p q : Query} (left : p.Admissible) (right : q.Admissible)
    (same : p.render.Alike q.render) : p.toTerm.Alike q.toTerm := by
  cases p with
  | single text =>
      cases q with
      | single other =>
          have alike := Words.alike_of_ofWords left right same
          exact Term.alike_record _ (.cons ⟨rfl, alike⟩ .nil)
      | many others => exact absurd same Words.not_alike_list
  | many texts =>
      cases q with
      | single other => exact absurd same Words.list_not_alike
      | many others =>
          refine Term.alike_record _ (.cons ⟨rfl, Value.alike_tuple ?_ same⟩ .nil)
          intro x held y inside alike
          exact Words.alike_of_ofWords (left x held) (right y inside) alike

section

variable {c : Catalog}

/-- Without a schema only plain names are resolved, and every name to itself. -/
theorem Schema.untyped_eq_ok {field : Field} {name : Words}
    (found : Schema.untyped.resolver c field = .ok name) : field = .name name := by
  cases field with
  | name s =>
      cases found
      rfl
  | ref r => cases found
  | loose owner parts => cases found

namespace Path

theorem resolveAll_untyped {fields : List Field} {names : List Value}
    (found : resolveAll (Schema.untyped.resolver c) fields = .ok names) :
    ∃ ws : List Words, fields = ws.map .name ∧ names = ws.map .ofWords := by
  have both := resolveAll_eq_ok found
  clear found
  induction both with
  | nil => exact ⟨[], rfl, rfl⟩
  | cons first _ ih =>
      obtain ⟨name, resolved, rfl⟩ := first
      obtain ⟨ws, rfl, rfl⟩ := ih
      cases Schema.untyped_eq_ok resolved
      exact ⟨name :: ws, rfl, rfl⟩

/-- The documents of paths over plain names. -/
inductive Plain : Path → Value → Prop where
  | single (w : Words) : Plain (.single (.name w)) (.ofWords w)
  | many (ws : List Words) : Plain (.many (ws.map .name)) (.list (ws.map .ofWords))
  | analyzed (w analyzer : Words) : Plain (.analyzed (.name w) analyzer)
      (.object [("value", .ofWords w), ("multi", .ofWords analyzer)])
  | wildcard (pattern : Words) : Plain (.wildcard pattern)
      (.object [("wildcard", .ofWords pattern)])

theorem plain_of_render {p : Path} {v : Value}
    (written : p.render (Schema.untyped.resolver c) = .ok v) : p.Plain v := by
  cases p with
  | single field =>
      obtain ⟨name, found, made⟩ := Outcome.bind_eq_ok.mp written
      cases made
      cases Schema.untyped_eq_ok found
      exact .single name
  | many fields =>
      obtain ⟨names, found, made⟩ := Outcome.bind_eq_ok.mp written
      cases made
      obtain ⟨ws, rfl, rfl⟩ := resolveAll_untyped found
      exact .many ws
  | analyzed field analyzer =>
      obtain ⟨name, found, made⟩ := Outcome.bind_eq_ok.mp written
      cases made
      cases Schema.untyped_eq_ok found
      exact .analyzed name analyzer
  | wildcard pattern =>
      cases written
      exact .wildcard pattern

/-- Paths are told by their documents. -/
theorem Plain.alike {p q : Path} {v w : Value} (first : p.Plain v) (second : q.Plain w)
    (left : p.Admissible) (right : q.Admissible) (same : v.Alike w) :
    p.toTerm.Alike q.toTerm := by
  cases first with
  | single name =>
      cases second with
      | single other =>
          have alike := Words.alike_of_ofWords left.faithful right.faithful same
          exact Term.alike_record _ (.cons ⟨rfl, alike⟩ .nil)
      | many others => exact absurd same Words.not_alike_list
      | analyzed other analyzer => exact absurd same Words.not_alike_object
      | wildcard pattern => exact absurd same Words.not_alike_object
  | many names =>
      cases second with
      | single other => exact absurd same Words.list_not_alike
      | many others =>
          have faithful : ∀ ws : List Words, (Path.many (ws.map .name)).Admissible →
              ∀ w ∈ ws, w.Faithful := by
            intro ws admissible w held
            have proper := admissible.2 (.name w) (List.mem_map_of_mem held)
            exact proper.faithful
          simp only [toTerm, List.map_map]
          refine Term.alike_record _ (.cons ⟨rfl, Value.alike_tuple ?_ same⟩ .nil)
          intro x held y inside alike
          exact Words.alike_of_ofWords (faithful _ left x held) (faithful _ right y inside) alike
      | analyzed other analyzer => exact absurd same Value.list_not_alike_object
      | wildcard pattern => exact absurd same Value.list_not_alike_object
  | analyzed name analyzer =>
      cases second with
      | single other => exact absurd same Words.object_not_alike
      | many others => exact absurd same Value.object_not_alike_list
      | analyzed other alternate =>
          have both := Slot.alike_slots
            [("value", some (.ofWords name)), ("multi", some (.ofWords analyzer))]
            [("value", some (.ofWords other)), ("multi", some (.ofWords alternate))]
            rfl (by simp) same
          simp only [List.forall₂_cons, Option.rel_some_some] at both
          exact Term.alike_record _
            (.cons ⟨rfl, Words.alike_of_ofWords left.1.faithful right.1.faithful both.1⟩
              (.cons ⟨rfl, Words.alike_of_ofWords left.2.faithful right.2.faithful both.2.1⟩ .nil))
      | wildcard pattern =>
          have length := (Value.alike_object.mp same).1
          cases length
  | wildcard pattern =>
      cases second with
      | single other => exact absurd same Words.object_not_alike
      | many others => exact absurd same Value.object_not_alike_list
      | analyzed other analyzer =>
          have length := (Value.alike_object.mp same).1
          cases length
      | wildcard other =>
          have alike := Words.alike_of_ofWords left.faithful right.faithful
            (Value.alike_single.mp same).2
          exact Term.alike_record _ (.cons ⟨rfl, alike⟩ .nil)

theorem alike_of_render {p q : Path} {v w : Value} (left : p.Admissible) (right : q.Admissible)
    (written : p.render (Schema.untyped.resolver c) = .ok v)
    (writtenOther : q.render (Schema.untyped.resolver c) = .ok w) (same : v.Alike w) :
    p.toTerm.Alike q.toTerm :=
  (plain_of_render written).alike (plain_of_render writtenOther) left right same

/-- No path is written like a path beside a replacement for missing values. -/
theorem Plain.not_alike_undefined {p : Path} {v inner undefined : Value} (plain : p.Plain v) :
    ¬ v.Alike (.object [("value", inner), ("undefined", undefined)]) := by
  intro same
  cases plain with
  | single name => exact Words.not_alike_object same
  | many names => exact Value.list_not_alike_object same
  | analyzed name analyzer =>
      obtain ⟨-, all⟩ := Value.alike_object.mp same
      obtain ⟨w, held, -⟩ := all ("multi", .ofWords analyzer) (by simp)
      simp at held
  | wildcard pattern => cases (Value.alike_object.mp same).1

theorem Plain.undefined_not_alike {p : Path} {v inner undefined : Value} (plain : p.Plain v) :
    ¬ (Value.object [("value", inner), ("undefined", undefined)]).Alike v := by
  intro same
  cases plain with
  | single name => exact Words.object_not_alike same
  | many names => exact Value.object_not_alike_list same
  | analyzed name analyzer =>
      obtain ⟨-, all⟩ := Value.alike_object.mp same
      obtain ⟨w, held, -⟩ := all ("undefined", undefined) (by simp)
      simp at held
  | wildcard pattern => cases (Value.alike_object.mp same).1

end Path

/-- Fuzzy settings are told by their documents. -/
theorem Fuzzy.alike_of_render {f g : Fuzzy} (same : f.render.Alike g.render) :
    f.toTerm.Alike g.toTerm := by
  rw [render_eq, render_eq] at same
  have both := Slot.alike_slots _ _ (by rfl) (by simp) same
  simp only [List.forall₂_cons] at both
  obtain ⟨edits, kept, expansions, -⟩ := both
  exact Term.alike_record _
    (.cons ⟨rfl, Value.alike_ofOption (fun _ _ _ _ => Value.alike_whole.mp) edits⟩
      (.cons ⟨rfl, Value.alike_ofOption (fun _ _ _ _ => Value.alike_whole.mp) kept⟩
        (.cons ⟨rfl, Value.alike_ofOption (fun _ _ _ _ => Value.alike_whole.mp) expansions⟩ .nil)))

/-- An integer that is left out when it is some default is told by what is written. -/
theorem Whole.alike_of_default {default : Int} {a b : Whole}
    (same : Option.Rel Value.Alike (if a.value = default then none else some (.whole a))
      (if b.value = default then none else some (.whole b))) :
    (Term.whole a).Alike (.whole b) :=
  Value.alike_of_omitted (fun w : Whole => w.value = default)
    (fun left right => Term.alike_whole (left.trans right.symm)) Value.alike_whole.mp same

/-- Numbers that are zero are alike. -/
theorem Number.alike_of_isZero {x y : Number} (left : x.isZero = true) (right : y.isZero = true) :
    (Term.number x).Alike (.number y) := by
  have zero : ∀ z : Number, z.isZero = true → z.extended = .finite 0 := by
    intro z none
    unfold isZero Number.same at none
    cases denoted : z.extended <;> simp_all [extended, Extended.same, Whole.value]
  simp [Term.Alike, zero x left, zero y right, Extended.same]

end

/-!
## Spans and facets from their documents

A span is told by the word of the only entry of its document, and a facet by
the type that its document names.
-/

variable {c : Catalog}

namespace Span

/-- The key of the only entry of a span's document. -/
def word : Span → String
  | .term .. => "term"
  | .first .. => "first"
  | .near .. => "near"
  | .either _ => "or"
  | .subtract .. => "subtract"

theorem render_word {resolve : Resolver} {s : Span} {v : Value}
    (written : s.render resolve = .ok v) : ∃ inner, v = .object [(s.word, inner)] := by
  cases s with
  | term query path =>
      obtain ⟨name, -, made⟩ := Outcome.bind_eq_ok.mp written
      cases made
      exact ⟨_, rfl⟩
  | first operator endPosition =>
      obtain ⟨inner, -, made⟩ := Outcome.bind_eq_ok.mp written
      cases made
      exact ⟨_, rfl⟩
  | near clauses slop inOrder =>
      obtain ⟨items, -, made⟩ := Outcome.bind_eq_ok.mp written
      cases made
      exact ⟨_, rfl⟩
  | either clauses =>
      obtain ⟨items, -, made⟩ := Outcome.bind_eq_ok.mp written
      cases made
      exact ⟨_, rfl⟩
  | subtract kept removed =>
      obtain ⟨included, -, more⟩ := Outcome.bind_eq_ok.mp written
      obtain ⟨excluded, -, made⟩ := Outcome.bind_eq_ok.mp more
      cases made
      exact ⟨_, rfl⟩

mutual

/-- Spans are told by their documents. -/
theorem alike_of_render {s t : Span} {v w : Value} (left : s.Admissible) (right : t.Admissible)
    (written : s.render (Schema.untyped.resolver c) = .ok v)
    (writtenOther : t.render (Schema.untyped.resolver c) = .ok w) (same : v.Alike w) :
    s.toTerm.Alike t.toTerm := by
  have words : s.word = t.word := by
    obtain ⟨inner, rfl⟩ := render_word written
    obtain ⟨other, rfl⟩ := render_word writtenOther
    exact (Value.alike_single.mp same).1
  cases s with
  | term query path =>
      cases t with
      | term other otherPath =>
          simp only [Admissible] at left right
          obtain ⟨name, found, made⟩ := Outcome.bind_eq_ok.mp written
          obtain ⟨otherName, foundOther, madeOther⟩ := Outcome.bind_eq_ok.mp writtenOther
          cases made
          cases madeOther
          have both := Slot.alike_slots [("query", some query.render), ("path", some name)]
            [("query", some other.render), ("path", some otherName)] rfl (by simp)
            (Value.alike_single.mp same).2
          simp only [List.forall₂_cons, Option.rel_some_some] at both
          simp only [toTerm]
          exact Term.alike_record _ (.cons ⟨rfl, Query.alike_of_render left.1 right.1 both.1⟩
            (.cons ⟨rfl, Path.alike_of_render left.2 right.2 found foundOther both.2.1⟩ .nil))
      | _ => simp [word] at words
  | first operator endPosition =>
      cases t with
      | first other otherPosition =>
          simp only [Admissible] at left right
          obtain ⟨inner, found, made⟩ := Outcome.bind_eq_ok.mp written
          obtain ⟨otherInner, foundOther, madeOther⟩ := Outcome.bind_eq_ok.mp writtenOther
          cases made
          cases madeOther
          have both := Slot.alike_slots
            [("operator", some inner), ("endPositionLte", some (.whole endPosition))]
            [("operator", some otherInner), ("endPositionLte", some (.whole otherPosition))]
            rfl (by simp) (Value.alike_single.mp same).2
          simp only [List.forall₂_cons, Option.rel_some_some] at both
          simp only [toTerm]
          exact Term.alike_record _
            (.cons ⟨rfl, alike_of_render left.1 right.1 found foundOther both.1⟩
              (.cons ⟨rfl, Value.alike_whole.mp both.2.1⟩ .nil))
      | _ => simp [word] at words
  | near clauses slop inOrder =>
      cases t with
      | near others otherSlop otherOrder =>
          simp only [Admissible] at left right
          obtain ⟨items, found, made⟩ := Outcome.bind_eq_ok.mp written
          obtain ⟨otherItems, foundOther, madeOther⟩ := Outcome.bind_eq_ok.mp writtenOther
          cases made
          cases madeOther
          have both := Slot.alike_slots
            [("clauses", some (.list items)), ("slop", some (.whole slop)),
              ("inOrder", some (.bool inOrder))]
            [("clauses", some (.list otherItems)), ("slop", some (.whole otherSlop)),
              ("inOrder", some (.bool otherOrder))]
            rfl (by simp) (Value.alike_single.mp same).2
          simp only [List.forall₂_cons, Option.rel_some_some] at both
          obtain ⟨lists, slops, orders, -⟩ := both
          have alike := all_alike left.2.1 right.2.1 found foundOther (Value.alike_list.mp lists)
          simp only [toTerm]
          exact Term.alike_record _ (.cons ⟨rfl, Term.alike_tuple.mpr alike⟩
            (.cons ⟨rfl, Value.alike_whole.mp slops⟩
              (.cons ⟨rfl, Value.alike_bool.mp orders⟩ .nil)))
      | _ => simp [word] at words
  | either clauses =>
      cases t with
      | either others =>
          simp only [Admissible] at left right
          obtain ⟨items, found, made⟩ := Outcome.bind_eq_ok.mp written
          obtain ⟨otherItems, foundOther, madeOther⟩ := Outcome.bind_eq_ok.mp writtenOther
          cases made
          cases madeOther
          have lists := (Value.alike_single.mp (Value.alike_single.mp same).2).2
          have alike := all_alike left.2 right.2 found foundOther (Value.alike_list.mp lists)
          simp only [toTerm]
          exact Term.alike_record _ (.cons ⟨rfl, Term.alike_tuple.mpr alike⟩ .nil)
      | _ => simp [word] at words
  | subtract kept removed =>
      cases t with
      | subtract otherKept otherRemoved =>
          simp only [Admissible] at left right
          obtain ⟨included, found, more⟩ := Outcome.bind_eq_ok.mp written
          obtain ⟨excluded, foundRemoved, made⟩ := Outcome.bind_eq_ok.mp more
          obtain ⟨otherIncluded, foundOther, more⟩ := Outcome.bind_eq_ok.mp writtenOther
          obtain ⟨otherExcluded, foundOtherRemoved, madeOther⟩ := Outcome.bind_eq_ok.mp more
          cases made
          cases madeOther
          have both := Slot.alike_slots [("include", some included), ("exclude", some excluded)]
            [("include", some otherIncluded), ("exclude", some otherExcluded)] rfl (by simp)
            (Value.alike_single.mp same).2
          simp only [List.forall₂_cons, Option.rel_some_some] at both
          simp only [toTerm]
          exact Term.alike_record _
            (.cons ⟨rfl, alike_of_render left.1 right.1 found foundOther both.1⟩
              (.cons ⟨rfl, alike_of_render left.2 right.2 foundRemoved foundOtherRemoved both.2.1⟩
                .nil))
      | _ => simp [word] at words

theorem all_alike {ss ts : List Span} {vs ws : List Value} (left : AllAdmissible ss)
    (right : AllAdmissible ts) (written : renderAll (Schema.untyped.resolver c) ss = .ok vs)
    (writtenOther : renderAll (Schema.untyped.resolver c) ts = .ok ws)
    (same : List.Forall₂ Value.Alike vs ws) : List.Forall₂ Term.Alike (terms ss) (terms ts) := by
  cases ss with
  | nil =>
      cases written
      cases same
      cases ts with
      | nil => simp [terms]
      | cons t others =>
          obtain ⟨document, -, more⟩ := Outcome.bind_eq_ok.mp writtenOther
          obtain ⟨documents, -, made⟩ := Outcome.bind_eq_ok.mp more
          cases made
  | cons s rest =>
      simp only [AllAdmissible] at left
      obtain ⟨document, found, more⟩ := Outcome.bind_eq_ok.mp written
      obtain ⟨documents, foundAll, made⟩ := Outcome.bind_eq_ok.mp more
      cases made
      cases same with
      | cons first later =>
          cases ts with
          | nil => cases writtenOther
          | cons t others =>
              simp only [AllAdmissible] at right
              obtain ⟨otherDocument, foundOther, more⟩ := Outcome.bind_eq_ok.mp writtenOther
              obtain ⟨otherDocuments, foundOthers, made⟩ := Outcome.bind_eq_ok.mp more
              cases made
              simp only [terms]
              exact .cons (alike_of_render left.1 right.1 found foundOther first)
                (all_alike left.2 right.2 foundAll foundOthers later)

end

end Span

namespace Facet

/-- A name for what is outside of boundaries is told by what is written. -/
theorem alike_of_outside {a b : Option Words} (left : ∀ w ∈ a, w.Proper) (right : ∀ w ∈ b, w.Proper)
    (same : Option.Rel Value.Alike (a.map .ofWords) (b.map .ofWords)) :
    (Term.ofOption Words.toTerm a).Alike (.ofOption Words.toTerm b) := by
  refine Value.alike_ofOption ?_ same
  intro x held y inside alike
  exact Words.alike_of_ofWords (left x held).faithful (right y inside).faithful alike

/-- Facets of one name are told by their documents. -/
theorem alike_of_render {f g : Facet} {v w : Value} (left : f.Admissible) (right : g.Admissible)
    (named : f.name.toTerm.Alike g.name.toTerm)
    (written : f.render (Schema.untyped.resolver c) = .ok v)
    (writtenOther : g.render (Schema.untyped.resolver c) = .ok w) (same : v.Alike w) :
    f.toTerm.Alike g.toTerm := by
  obtain ⟨name, found, rfl⟩ := render_slots written
  obtain ⟨otherName, foundOther, rfl⟩ := render_slots writtenOther
  have words : f.word = g.word := by
    obtain ⟨-, all⟩ := Value.alike_object.mp same
    obtain ⟨u, held, alike⟩ := all ("type", .text f.word) (by simp)
    have slot := Slot.mem_present.mp held
    have word : u = .text g.word := by
      cases g <;> simpa [slots] using slot
    rw [word] at alike
    exact Value.alike_text.mp alike
  cases f with
  | string title p buckets =>
      cases g with
      | string otherTitle q otherBuckets =>
          have both := Slot.alike_slots _ _ (by rfl) (by simp [slots]) same
          simp only [slots, List.forall₂_cons, Option.rel_some_some] at both
          obtain ⟨-, paths, counts, -⟩ := both
          exact Term.alike_record _ (.cons ⟨rfl, named⟩
            (.cons ⟨rfl, Path.alike_of_render left.2.1 right.2.1 found foundOther paths⟩
              (.cons ⟨rfl, Whole.alike_of_default counts⟩ .nil)))
      | _ => simp [word] at words
  | number title p boundaries outside =>
      cases g with
      | number otherTitle q others otherOutside =>
          have both := Slot.alike_slots _ _ (by rfl) (by simp [slots]) same
          simp only [slots, List.forall₂_cons, Option.rel_some_some] at both
          obtain ⟨-, paths, lists, outsides, -⟩ := both
          obtain ⟨-, soundPath, -, -, soundOutside⟩ := left
          obtain ⟨-, soundOther, -, -, soundOtherOutside⟩ := right
          exact Term.alike_record _ (.cons ⟨rfl, named⟩
            (.cons ⟨rfl, Path.alike_of_render soundPath soundOther found foundOther paths⟩
              (.cons ⟨rfl, Value.alike_tuple (fun _ _ _ _ => Value.alike_number.mp) lists⟩
                (.cons ⟨rfl, alike_of_outside soundOutside soundOtherOutside outsides⟩ .nil))))
      | _ => simp [word] at words
  | date title p boundaries outside =>
      cases g with
      | date otherTitle q others otherOutside =>
          have both := Slot.alike_slots _ _ (by rfl) (by simp [slots]) same
          simp only [slots, List.forall₂_cons, Option.rel_some_some] at both
          obtain ⟨-, paths, lists, outsides, -⟩ := both
          obtain ⟨-, soundPath, -, -, soundOutside⟩ := left
          obtain ⟨-, soundOther, -, -, soundOtherOutside⟩ := right
          exact Term.alike_record _ (.cons ⟨rfl, named⟩
            (.cons ⟨rfl, Path.alike_of_render soundPath soundOther found foundOther paths⟩
              (.cons ⟨rfl, Value.alike_tuple (fun _ _ _ _ => Value.alike_dateTime.mp) lists⟩
                (.cons ⟨rfl, alike_of_outside soundOutside soundOtherOutside outsides⟩ .nil))))
      | _ => simp [word] at words

end Facet

end SearchQuery
