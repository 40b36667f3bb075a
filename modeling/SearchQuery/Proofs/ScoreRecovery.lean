import SearchQuery.Proofs.Recovery

/-!
# Getting scores and settings back from documents

A document determines the scores, the ranges and the geometries that it was
written from.
-/

namespace SearchQuery

/-!
## Scores from their documents

Every expression has a word of its own for the only entry of its document, and
every score too, but for the two ways to boost, which differ in what they hold.
-/

variable {c : Catalog}

namespace ScoreFunction

/-- The key of the only entry of an expression's document. -/
def word : ScoreFunction → String
  | .path .. => "path"
  | .relevance => "score"
  | .constant _ => "constant"
  | .combined way _ => way.word
  | .gauss .. => "gauss"
  | .transformed way _ => way.word

theorem render_word {resolve : Resolver} {f : ScoreFunction} {v : Value}
    (written : f.render resolve = .ok v) : ∃ inner, v = .object [(f.word, inner)] := by
  cases f with
  | path p undefined =>
      obtain ⟨name, -, made⟩ := Outcome.bind_eq_ok.mp written
      cases zero : undefined.isZero with
      | true =>
          simp only [zero] at made
          cases made
          exact ⟨_, rfl⟩
      | false =>
          simp only [zero] at made
          cases made
          exact ⟨_, rfl⟩
  | relevance =>
      cases written
      exact ⟨_, rfl⟩
  | constant value =>
      cases written
      exact ⟨_, rfl⟩
  | combined way children =>
      obtain ⟨items, -, made⟩ := Outcome.bind_eq_ok.mp written
      cases made
      exact ⟨_, rfl⟩
  | gauss p origin scale decay offset =>
      obtain ⟨name, -, made⟩ := Outcome.bind_eq_ok.mp written
      cases made
      exact ⟨_, rfl⟩
  | transformed way child =>
      obtain ⟨inner, -, made⟩ := Outcome.bind_eq_ok.mp written
      cases made
      exact ⟨_, rfl⟩

/-- Values of paths are told by their documents, a missing replacement being zero. -/
theorem alike_of_paths {p q : Path} {undefined other : Number} {v w : Value}
    (left : p.Admissible) (right : q.Admissible)
    (written : (path p undefined).render (Schema.untyped.resolver c) = .ok v)
    (writtenOther : (path q other).render (Schema.untyped.resolver c) = .ok w) (same : v.Alike w) :
    (path p undefined).toTerm.Alike (path q other).toTerm := by
  obtain ⟨name, found, made⟩ := Outcome.bind_eq_ok.mp written
  obtain ⟨otherName, foundOther, madeOther⟩ := Outcome.bind_eq_ok.mp writtenOther
  have plain := Path.plain_of_render found
  have plainOther := Path.plain_of_render foundOther
  simp only [toTerm]
  cases zero : undefined.isZero with
  | true =>
      simp only [zero] at made
      cases made
      cases zeroOther : other.isZero with
      | true =>
          simp only [zeroOther] at madeOther
          cases madeOther
          have alike := plain.alike plainOther left right (Value.alike_single.mp same).2
          exact Term.alike_record _
            (.cons ⟨rfl, alike⟩ (.cons ⟨rfl, Number.alike_of_isZero zero zeroOther⟩ .nil))
      | false =>
          simp only [zeroOther] at madeOther
          cases madeOther
          exact absurd (Value.alike_single.mp same).2 plain.not_alike_undefined
  | false =>
      simp only [zero] at made
      cases made
      cases zeroOther : other.isZero with
      | true =>
          simp only [zeroOther] at madeOther
          cases madeOther
          exact absurd (Value.alike_single.mp same).2 plainOther.undefined_not_alike
      | false =>
          simp only [zeroOther] at madeOther
          cases madeOther
          have both := Slot.alike_slots
            [("value", some name), ("undefined", some (.number undefined))]
            [("value", some otherName), ("undefined", some (.number other))]
            rfl (by simp) (Value.alike_single.mp same).2
          simp only [List.forall₂_cons, Option.rel_some_some] at both
          exact Term.alike_record _ (.cons ⟨rfl, plain.alike plainOther left right both.1⟩
            (.cons ⟨rfl, Value.alike_number.mp both.2.1⟩ .nil))

mutual

/-- Expressions are told by their documents. -/
theorem alike_of_render {f g : ScoreFunction} {v w : Value} (left : f.Admissible)
    (right : g.Admissible) (written : f.render (Schema.untyped.resolver c) = .ok v)
    (writtenOther : g.render (Schema.untyped.resolver c) = .ok w) (same : v.Alike w) :
    f.toTerm.Alike g.toTerm := by
  have words : f.word = g.word := by
    obtain ⟨inner, rfl⟩ := render_word written
    obtain ⟨other, rfl⟩ := render_word writtenOther
    exact (Value.alike_single.mp same).1
  cases f with
  | path p undefined =>
      cases g with
      | path q other =>
          simp only [Admissible] at left right
          exact alike_of_paths left right written writtenOther same
      | combined way children => cases way <;> simp [word, Combination.word] at words
      | transformed way child => cases way <;> simp [word, Transform.word] at words
      | _ => simp [word] at words
  | relevance =>
      cases g with
      | relevance =>
          simp only [toTerm]
          exact Term.alike_record _ .nil
      | combined way children => cases way <;> simp [word, Combination.word] at words
      | transformed way child => cases way <;> simp [word, Transform.word] at words
      | _ => simp [word] at words
  | constant value =>
      cases g with
      | constant other =>
          cases written
          cases writtenOther
          have alike := Value.alike_number.mp (Value.alike_single.mp same).2
          simp only [toTerm]
          exact Term.alike_record _ (.cons ⟨rfl, alike⟩ .nil)
      | combined way children => cases way <;> simp [word, Combination.word] at words
      | transformed way child => cases way <;> simp [word, Transform.word] at words
      | _ => simp [word] at words
  | combined way children =>
      simp only [Admissible] at left
      cases g with
      | combined other others =>
          simp only [Admissible] at right
          obtain ⟨items, found, made⟩ := Outcome.bind_eq_ok.mp written
          obtain ⟨otherItems, foundOther, madeOther⟩ := Outcome.bind_eq_ok.mp writtenOther
          cases made
          cases madeOther
          have alike := all_alike left.2.2 right.2.2 found foundOther
            (Value.alike_list.mp (Value.alike_single.mp same).2)
          have ways : way = other := by
            have named := left.1
            have namedOther := right.1
            cases way <;> cases other <;> simp_all [word, Combination.word]
          cases ways
          simp only [toTerm]
          exact Term.alike_record _ (.cons ⟨rfl, Term.alike_tuple.mpr alike⟩ .nil)
      | transformed other child =>
          cases way <;> cases other <;> simp_all [word, Combination.word, Transform.word]
      | _ => cases way <;> simp_all [word, Combination.word]
  | gauss p origin scale decay offset =>
      simp only [Admissible] at left
      cases g with
      | gauss q start extent rate shift =>
          simp only [Admissible] at right
          obtain ⟨name, found, rfl⟩ := render_gauss written
          obtain ⟨otherName, foundOther, rfl⟩ := render_gauss writtenOther
          have both := Slot.alike_slots _ _ (by rfl) (by simp) (Value.alike_single.mp same).2
          simp only [List.forall₂_cons, Option.rel_some_some] at both
          obtain ⟨paths, origins, scales, decays, offsets, -⟩ := both
          simp only [toTerm]
          refine Term.alike_record _ (.cons ⟨rfl, ?_⟩ (.cons ⟨rfl, Value.alike_number.mp origins⟩
            (.cons ⟨rfl, Value.alike_number.mp scales⟩ (.cons ⟨rfl, ?_⟩ (.cons ⟨rfl, ?_⟩ .nil)))))
          · exact Path.alike_of_render left.1 right.1 found foundOther paths
          · exact Value.alike_ofOption (fun _ _ _ _ => Value.alike_number.mp) decays
          · exact Value.alike_ofOption (fun _ _ _ _ => Value.alike_number.mp) offsets
      | combined way children => cases way <;> simp [word, Combination.word] at words
      | transformed way child => cases way <;> simp [word, Transform.word] at words
      | _ => simp [word] at words
  | transformed way child =>
      simp only [Admissible] at left
      cases g with
      | transformed other inner =>
          simp only [Admissible] at right
          obtain ⟨document, found, made⟩ := Outcome.bind_eq_ok.mp written
          obtain ⟨otherDocument, foundOther, madeOther⟩ := Outcome.bind_eq_ok.mp writtenOther
          cases made
          cases madeOther
          have alike := alike_of_render left.2 right.2 found foundOther
            (Value.alike_single.mp same).2
          have ways : way = other := by
            have named := left.1
            have namedOther := right.1
            cases way <;> cases other <;> simp_all [word, Transform.word]
          cases ways
          simp only [toTerm]
          exact Term.alike_record _ (.cons ⟨rfl, alike⟩ .nil)
      | combined other children =>
          cases way <;> cases other <;> simp_all [word, Combination.word, Transform.word]
      | _ => cases way <;> simp_all [word, Transform.word]

theorem all_alike {fs gs : List ScoreFunction} {vs ws : List Value} (left : AllAdmissible fs)
    (right : AllAdmissible gs) (written : renderAll (Schema.untyped.resolver c) fs = .ok vs)
    (writtenOther : renderAll (Schema.untyped.resolver c) gs = .ok ws)
    (same : List.Forall₂ Value.Alike vs ws) : List.Forall₂ Term.Alike (terms fs) (terms gs) := by
  cases fs with
  | nil =>
      cases written
      cases same
      cases gs with
      | nil => simp [terms]
      | cons g others =>
          obtain ⟨document, -, more⟩ := Outcome.bind_eq_ok.mp writtenOther
          obtain ⟨documents, -, made⟩ := Outcome.bind_eq_ok.mp more
          cases made
  | cons f rest =>
      simp only [AllAdmissible] at left
      obtain ⟨document, found, more⟩ := Outcome.bind_eq_ok.mp written
      obtain ⟨documents, foundAll, made⟩ := Outcome.bind_eq_ok.mp more
      cases made
      cases same with
      | cons first later =>
          cases gs with
          | nil => cases writtenOther
          | cons g others =>
              simp only [AllAdmissible] at right
              obtain ⟨otherDocument, foundOther, more⟩ := Outcome.bind_eq_ok.mp writtenOther
              obtain ⟨otherDocuments, foundOthers, made⟩ := Outcome.bind_eq_ok.mp more
              cases made
              simp only [terms]
              exact .cons (alike_of_render left.1 right.1 found foundOther first)
                (all_alike left.2 right.2 foundAll foundOthers later)

end

end ScoreFunction

namespace Score

/-- The key of the only entry of a score's document. -/
def word : Score → String
  | .boost _ => "boost"
  | .boostPath .. => "boost"
  | .constant _ => "constant"
  | .function _ => "function"

theorem render_word {resolve : Resolver} {s : Score} {v : Value}
    (written : s.render resolve = .ok v) : ∃ inner, v = .object [(s.word, inner)] := by
  cases s with
  | boost value =>
      cases written
      exact ⟨_, rfl⟩
  | boostPath p undefined =>
      obtain ⟨name, -, rfl⟩ := render_boostPath written
      exact ⟨_, rfl⟩
  | constant value =>
      cases written
      exact ⟨_, rfl⟩
  | function expression =>
      obtain ⟨inner, -, made⟩ := Outcome.bind_eq_ok.mp written
      cases made
      exact ⟨_, rfl⟩

/-- A number that is left out when it is zero is told by what is written. -/
theorem alike_of_undefined {x y : Number}
    (same : Option.Rel Value.Alike (if x.isZero = true then none else some (.number x))
      (if y.isZero = true then none else some (.number y))) :
    (Term.number x).Alike (.number y) :=
  Value.alike_of_omitted (fun z : Number => z.isZero = true) Number.alike_of_isZero
    Value.alike_number.mp same

/-- Scores are told by their documents. -/
theorem alike_of_render {s t : Score} {v w : Value} (left : s.Admissible) (right : t.Admissible)
    (written : s.render (Schema.untyped.resolver c) = .ok v)
    (writtenOther : t.render (Schema.untyped.resolver c) = .ok w) (same : v.Alike w) :
    s.toTerm.Alike t.toTerm := by
  have words : s.word = t.word := by
    obtain ⟨inner, rfl⟩ := render_word written
    obtain ⟨other, rfl⟩ := render_word writtenOther
    exact (Value.alike_single.mp same).1
  cases s with
  | boost value =>
      cases written
      cases t with
      | boost other =>
          cases writtenOther
          have alike := (Value.alike_single.mp (Value.alike_single.mp same).2).2
          exact Term.alike_record _ (.cons ⟨rfl, Value.alike_number.mp alike⟩ .nil)
      | boostPath q undefined =>
          obtain ⟨name, -, rfl⟩ := render_boostPath writtenOther
          obtain ⟨-, all⟩ := Value.alike_object.mp (Value.alike_single.mp same).2
          obtain ⟨w, held, -⟩ := all ("value", .number value) (by simp)
          have slot := Slot.mem_present.mp held
          simp at slot
      | _ => simp [word] at words
  | boostPath p undefined =>
      obtain ⟨name, found, rfl⟩ := render_boostPath written
      cases t with
      | boost other =>
          cases writtenOther
          obtain ⟨-, all⟩ := Value.alike_object.mp (Value.alike_single.mp same).2
          obtain ⟨w, held, -⟩ := all ("path", name) (by simp)
          simp at held
      | boostPath q other =>
          obtain ⟨otherName, foundOther, rfl⟩ := render_boostPath writtenOther
          have both := Slot.alike_slots _ _ (by rfl) (by simp) (Value.alike_single.mp same).2
          simp only [List.forall₂_cons, Option.rel_some_some] at both
          obtain ⟨paths, replacements, -⟩ := both
          exact Term.alike_record _
            (.cons ⟨rfl, Path.alike_of_render left right found foundOther paths⟩
              (.cons ⟨rfl, alike_of_undefined replacements⟩ .nil))
      | _ => simp [word] at words
  | constant value =>
      cases written
      cases t with
      | constant other =>
          cases writtenOther
          have alike := (Value.alike_single.mp (Value.alike_single.mp same).2).2
          exact Term.alike_record _ (.cons ⟨rfl, Value.alike_number.mp alike⟩ .nil)
      | _ => simp [word] at words
  | function expression =>
      obtain ⟨inner, found, made⟩ := Outcome.bind_eq_ok.mp written
      cases made
      cases t with
      | function other =>
          obtain ⟨otherInner, foundOther, made⟩ := Outcome.bind_eq_ok.mp writtenOther
          cases made
          have alike := ScoreFunction.alike_of_render left right found foundOther
            (Value.alike_single.mp same).2
          exact Term.alike_record _ (.cons ⟨rfl, alike⟩ .nil)
      | _ => simp [word] at words

/-- Scores that may be absent are told by what is written of them. -/
theorem alike_of_written {s t : Option Score} {v w : Option Value}
    (left : ∀ score ∈ s, score.Admissible) (right : ∀ score ∈ t, score.Admissible)
    (written : Written (Schema.untyped.resolver c) s v)
    (writtenOther : Written (Schema.untyped.resolver c) t w) (same : Option.Rel Value.Alike v w) :
    (optionTerm s).Alike (optionTerm t) := by
  unfold optionTerm
  cases same with
  | none =>
      cases written
      cases writtenOther
      exact Term.alike_null
  | some alike =>
      cases written with
      | some found =>
          cases writtenOther with
          | some foundOther =>
              exact alike_of_render (left _ rfl) (right _ rfl) found foundOther alike

end Score

/-!
## Settings of operators from their documents

What an operator has beside its query, its path and its score.  Geometries are
known by their documents and not by what they were read from: two of them with
one document are one geometry.
-/

/-! ### Settings with a default -/

/-- A setting that is not negative and left out when it is zero is told by what is written. -/
theorem Whole.alike_of_positive {a b : Whole} (left : 0 ≤ a.value) (right : 0 ≤ b.value)
    (same : Option.Rel Value.Alike (if 0 < a.value then some (.whole a) else none)
      (if 0 < b.value then some (.whole b) else none)) : (Term.whole a).Alike (.whole b) := by
  have flipped : ∀ w : Whole, 0 ≤ w.value →
      (if 0 < w.value then some (Value.whole w) else none) =
        if w.value = 0 then none else some (.whole w) := by
    intro w natural
    by_cases zero : w.value = 0
    · rw [if_pos zero, if_neg (by omega)]
    · rw [if_neg zero, if_pos (by omega)]
  rw [flipped a left, flipped b right] at same
  exact alike_of_default same

/-- An order of terms is told by whether its word is written. -/
theorem TokenOrder.eq_of_written {a b : TokenOrder}
    (same : Option.Rel Value.Alike (if a = .any then none else some (.text a.word))
      (if b = .any then none else some (.text b.word))) : a = b := by
  cases a with
  | any =>
      cases b with
      | any => rfl
      | sequential => cases same
  | sequential =>
      cases b with
      | any => cases same
      | sequential => rfl

/-- A flag is told by whether it is written. -/
theorem Value.eq_of_flag {a b : Bool}
    (same : Option.Rel Alike (if a then some (.bool true) else none)
      (if b then some (.bool true) else none)) : a = b := by
  cases a with
  | true =>
      cases b with
      | true => rfl
      | false => cases same
  | false =>
      cases b with
      | true => cases same
      | false => rfl

theorem ShapeRelation.eq_of_word {a b : ShapeRelation} (same : a.word = b.word) : a = b := by
  cases a <;> cases b <;> simp_all [word]

/-! ### Values of several kinds -/

/-- Exact values are told by their documents. -/
theorem Exact.alike_of_render {a b : Exact}
    (same : (Value.ofExact a).Alike (.ofExact b)) : a.toTerm.Alike b.toTerm := by
  cases a <;> cases b <;> simpa only [Value.ofExact, Value.Alike, Value.toTerm, toTerm] using same

/-- Limits are told by their documents. -/
theorem Limit.alike_of_render {a b : Limit}
    (same : (Value.ofLimit a).Alike (.ofLimit b)) : a.toTerm.Alike b.toTerm := by
  cases a <;> cases b <;> simpa only [Value.ofLimit, Value.Alike, Value.toTerm, toTerm] using same

/-- Positions are told by their documents. -/
theorem GeoPoint.alike_of_render {p q : GeoPoint} (same : p.render.Alike q.render) :
    p.toTerm.Alike q.toTerm := by
  have both := Slot.alike_slots
    [("type", some (.text "Point")),
      ("coordinates", some (.list [.number p.longitude, .number p.latitude]))]
    [("type", some (.text "Point")),
      ("coordinates", some (.list [.number q.longitude, .number q.latitude]))]
    rfl (by simp) same
  simp only [List.forall₂_cons, Option.rel_some_some, Value.alike_list] at both
  obtain ⟨-, ⟨longitudes, latitudes, -⟩, -⟩ := both
  exact Term.alike_record _ (.cons ⟨rfl, Value.alike_number.mp longitudes⟩
    (.cons ⟨rfl, Value.alike_number.mp latitudes⟩ .nil))

/-- Origins are told by their documents: only that of a position is an object. -/
theorem Origin.alike_of_render {a b : Origin} (same : a.render.Alike b.render) :
    a.toTerm.Alike b.toTerm := by
  cases a with
  | point p =>
      cases b with
      | point q => exact GeoPoint.alike_of_render same
      | _ =>
          obtain ⟨others, found⟩ := Term.of_dict_alike same
          cases found
  | _ =>
      cases b with
      | point q =>
          obtain ⟨others, found⟩ := Term.dict_of_alike same
          cases found
      | _ => simpa only [render, Value.Alike, Value.toTerm, toTerm] using same

/-! ### Geometries -/

/-- A geometry that was written once and keeps the document that came of it. -/
def Geometry.settled (argument : String) (allowed : List String) (g : Geometry Value) :
    Geometry Value :=
  match Geometry.encode allowed argument g.given with
  | .ok document => ⟨document, g.type, g.coordinates⟩
  | .error _ => g

def Area.settled : Area Value → Area Value
  | .geometry g => .geometry (g.settled "geometry" polygonTypes)
  | .box b => .box ⟨b.bottomLeft.settled "bottom_left" ["Point"],
      b.topRight.settled "top_right" ["Point"]⟩
  | .circle c => .circle ⟨c.center.settled "center" ["Point"], c.radius⟩

theorem Geometry.toTerm_settled {argument : String} {allowed : List String} {g : Geometry Value}
    (admissible : g.Admissible argument allowed) :
    (g.settled argument allowed).toTerm = g.document.toTerm := by
  have encoded : Geometry.encode allowed argument g.given = .ok g.document := by
    unfold Geometry.encode
    rw [admissible]
    rfl
  unfold settled
  rw [encoded, toTerm]

/-- Geometries are told by their documents. -/
theorem Geometry.alike_of_document {argument : String} {allowed : List String}
    {g h : Geometry Value} (left : g.Admissible argument allowed)
    (right : h.Admissible argument allowed) (same : g.document.Alike h.document) :
    (g.settled argument allowed).toTerm.Alike (h.settled argument allowed).toTerm := by
  rwa [toTerm_settled left, toTerm_settled right]

theorem Area.slots_eq (area : Area Value) : ∃ geometry box circle,
    area.slots = [("geometry", geometry), ("box", box), ("circle", circle)] := by
  cases area with
  | geometry g => exact ⟨_, _, _, rfl⟩
  | box b => exact ⟨_, _, _, rfl⟩
  | circle c => exact ⟨_, _, _, rfl⟩

/-- Areas are told by the slot that they fill. -/
theorem Area.alike_of_slots {a b : Area Value} (left : a.Admissible) (right : b.Admissible)
    (same : List.Forall₂ (fun x y : Slot => Option.Rel Value.Alike x.2 y.2) a.slots b.slots) :
    a.settled.toTerm.1.Alike b.settled.toTerm.1 ∧ a.settled.toTerm.2.1.Alike b.settled.toTerm.2.1 ∧
      a.settled.toTerm.2.2.Alike b.settled.toTerm.2.2 := by
  cases a with
  | geometry g =>
      cases b with
      | geometry h =>
          simp only [slots, List.forall₂_cons, Option.rel_some_some] at same
          simp only [settled, toTerm]
          exact ⟨Geometry.alike_of_document left right same.1, Term.alike_null, Term.alike_null⟩
      | _ => simp [slots] at same
  | box x =>
      cases b with
      | box y =>
          simp only [slots, List.forall₂_cons, Option.rel_some_some] at same
          have both := Slot.alike_slots
            [("bottomLeft", some x.bottomLeft.document), ("topRight", some x.topRight.document)]
            [("bottomLeft", some y.bottomLeft.document), ("topRight", some y.topRight.document)]
            rfl (by simp) same.2.1
          simp only [List.forall₂_cons, Option.rel_some_some] at both
          simp only [settled, toTerm, GeoBox.toTerm]
          refine ⟨Term.alike_null, Term.alike_record _ ?_, Term.alike_null⟩
          exact .cons ⟨rfl, Geometry.alike_of_document left.bottomLeft right.bottomLeft both.1⟩
            (.cons ⟨rfl, Geometry.alike_of_document left.topRight right.topRight both.2.1⟩ .nil)
      | _ => simp [slots] at same
  | circle x =>
      cases b with
      | circle y =>
          simp only [slots, List.forall₂_cons, Option.rel_some_some] at same
          have both := Slot.alike_slots
            [("center", some x.center.document), ("radius", some (.number x.radius))]
            [("center", some y.center.document), ("radius", some (.number y.radius))]
            rfl (by simp) same.2.2.1
          simp only [List.forall₂_cons, Option.rel_some_some] at both
          simp only [settled, toTerm, GeoCircle.toTerm]
          refine ⟨Term.alike_null, Term.alike_null, Term.alike_record _ ?_⟩
          exact .cons ⟨rfl, Geometry.alike_of_document left.center right.center both.1⟩
            (.cons ⟨rfl, Value.alike_number.mp both.2.1⟩ .nil)
      | _ => simp [slots] at same

/-! ### Bounds -/

/-- A bound that a truth value takes in or leaves out is told by the slot that it fills. -/
theorem Bound.alike_of_slots (apart taken : String) {a b : Option (Bound Value)}
    (left : ∀ x ∈ a, ∃ flag, x.inclusive = .bool flag)
    (right : ∀ x ∈ b, ∃ flag, x.inclusive = .bool flag)
    (same : List.Forall₂ (fun x y : Slot => Option.Rel Value.Alike x.2 y.2)
      (slots apart taken a) (slots apart taken b)) :
    (optionTerm a).Alike (optionTerm b) ∧ a.isSome = b.isSome := by
  cases a with
  | none =>
      cases b with
      | none => exact ⟨Term.alike_null, rfl⟩
      | some y =>
          obtain ⟨limit, inclusive⟩ := y
          obtain ⟨flag, rfl⟩ : ∃ flag, inclusive = .bool flag := right _ rfl
          cases flag <;> simp [slots, Value.truth] at same
  | some x =>
      obtain ⟨limit, inclusive⟩ := x
      obtain ⟨flag, rfl⟩ : ∃ flag, inclusive = .bool flag := left _ rfl
      cases b with
      | none => cases flag <;> simp [slots, Value.truth] at same
      | some y =>
          obtain ⟨other, inclusive⟩ := y
          obtain ⟨flagOther, rfl⟩ : ∃ flag, inclusive = .bool flag := right _ rfl
          have flags : flag = flagOther := by
            cases flag with
            | true =>
                cases flagOther with
                | true => rfl
                | false => simp [slots, Value.truth] at same
            | false =>
                cases flagOther with
                | true => simp [slots, Value.truth] at same
                | false => rfl
          obtain rfl := flags
          have limits : (Value.ofLimit limit).Alike (.ofLimit other) := by
            cases flag <;> simpa [slots, Value.truth] using same
          simp only [optionTerm, Value.toTerm]
          exact ⟨Term.alike_record _ (.cons ⟨rfl, Limit.alike_of_render limits⟩
            (.cons ⟨rfl, Term.alike_bool flag⟩ .nil)), rfl⟩

/-- The form of a range is told by the bounds that it has. -/
theorem RangeForm.Admits.form_eq {form other : RangeForm} {a b c d : Option (Bound Value)}
    (left : form.Admits a b) (right : other.Admits c d) (lower : a.isSome = c.isSome)
    (upper : b.isSome = d.isSome) : form = other := by
  have bounds := left.bounds
  have bounds' := right.bounds
  cases form <;> cases other <;> simp_all

end SearchQuery
