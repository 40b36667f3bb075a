import SearchQuery.Proofs.GeometryAcceptance

/-!
# The normal form of geometries

However a geometry is given, as a dictionary, by an object or as a position, its
encoding has a type and coordinates and nothing else, and its coordinates are
nested in lists.  Only the items of the nesting and their order count, so that
what is encoded already is encoded as it is.
-/

namespace SearchQuery

namespace Value

/-! ## Nestings -/

def parts? : Value → Option (List Value)
  | .list items => some items
  | .tuple items => some items
  | _ => none

/-- A value without tuples in its nesting of lists and tuples. -/
inductive Listed : Value → Prop where
  | leaf {v : Value} (single : v.parts? = none) : Listed v
  | list {items : List Value} (all : ∀ v ∈ items, Listed v) : Listed (.list items)

/-- Two values with the same leaves in the same nesting, up to what is a list and what a tuple. -/
inductive Renested : Value → Value → Prop where
  | leaf (v : Value) : Renested v v
  | nest {v w : Value} {items others : List Value} (parts : v.parts? = some items)
      (parts' : w.parts? = some others) (length : items.length = others.length)
      (same : ∀ pair ∈ items.zip others, Renested pair.1 pair.2) : Renested v w

section

variable {v w : Value} {items others : List Value}

theorem listifyAll_eq_map (items : List Value) : listifyAll items = items.map listify := by
  induction items with
  | nil => rfl
  | cons v rest ih => rw [listifyAll, ih, List.map_cons]

theorem listify_of_parts (parts : v.parts? = some items) :
    v.listify = .list (items.map listify) := by
  unfold parts? at parts
  split at parts
  · cases parts
    rw [listify, listifyAll_eq_map]
  · cases parts
    rw [listify, listifyAll_eq_map]
  · cases parts

theorem listify_of_leaf (single : v.parts? = none) : v.listify = v := by
  cases v with
  | list items => cases single
  | tuple items => cases single
  | _ => rw [listify]

/-- What has no tuples left is its own normal form. -/
theorem Listed.listify_eq (listed : v.Listed) : v.listify = v := by
  induction listed with
  | leaf single => exact listify_of_leaf single
  | @list items all ih =>
      rw [listify_of_parts rfl, List.map_congr_left ih, List.map_id']

mutual

/-- A normal form has no tuples left. -/
theorem listify_listed (v : Value) : v.listify.Listed := by
  cases v with
  | list items =>
      rw [listify]
      exact .list (listifyAll_listed items)
  | tuple items =>
      rw [listify]
      exact .list (listifyAll_listed items)
  | _ =>
      rw [listify]
      exact .leaf rfl

theorem listifyAll_listed (items : List Value) : ∀ v ∈ listifyAll items, v.Listed := by
  cases items with
  | nil => exact nofun
  | cons v rest =>
      rw [listifyAll, List.forall_mem_cons]
      exact ⟨listify_listed v, listifyAll_listed rest⟩

end

/-- Lists of values have the same normal forms when they do so item by item. -/
theorem map_listify_eq_iff :
    items.map listify = others.map listify ↔ items.length = others.length ∧
      ∀ pair ∈ items.zip others, pair.1.listify = pair.2.listify := by
  calc items.map listify = others.map listify
      ↔ List.Forall₂ (fun a b => a = b) (items.map listify) (others.map listify) := by
        rw [List.forall₂_eq_eq_eq]
    _ ↔ List.Forall₂ (fun a b => a.listify = b.listify) items others := by
        rw [List.forall₂_map_left_iff, List.forall₂_map_right_iff]
    _ ↔ _ := by
        rw [List.forall₂_iff_zip, Prod.forall]

/-- Values that are nested alike have the same normal form. -/
theorem Renested.listify_eq (renested : v.Renested w) : v.listify = w.listify := by
  induction renested with
  | leaf v => rfl
  | @nest v w items others parts parts' length same ih =>
      rw [listify_of_parts parts, listify_of_parts parts',
        map_listify_eq_iff.mpr ⟨length, fun pair held => ih pair held⟩]

/-- A list or a tuple is nested like what has the same normal form, if its items are. -/
theorem renested_of_parts (parts : v.parts? = some items) (same : v.listify = w.listify)
    (ih : ∀ a ∈ items, ∀ b, a.listify = b.listify → a.Renested b) : v.Renested w := by
  rw [listify_of_parts parts] at same
  cases parts' : w.parts? with
  | none =>
      -- A leaf is its own normal form and no list.
      rw [listify_of_leaf parts'] at same
      subst same
      cases parts'
  | some others =>
      rw [listify_of_parts parts'] at same
      obtain ⟨length, same⟩ := map_listify_eq_iff.mp (Value.list.inj same)
      refine .nest parts parts' length (fun pair held => ?_)
      exact ih pair.1 (List.of_mem_zip held).1 pair.2 (same pair held)

theorem renested_of_leaf (single : v.parts? = none) (same : v.listify = w.listify) :
    v.Renested w := by
  rw [listify_of_leaf single] at same
  cases parts : w.parts? with
  | none =>
      rw [listify_of_leaf parts] at same
      subst same
      exact .leaf v
  | some others =>
      rw [listify_of_parts parts] at same
      subst same
      cases single

-- The other way round the induction is on the first value, its items being smaller; the second one
-- is whatever has the same normal form.
mutual

/-- Values with the same normal form are nested alike. -/
theorem renested_of_listify_eq (v w : Value) (same : v.listify = w.listify) : v.Renested w := by
  cases v with
  | list items => exact renested_of_parts rfl same (renestedAll_of_listify_eq items)
  | tuple items => exact renested_of_parts rfl same (renestedAll_of_listify_eq items)
  | _ => exact renested_of_leaf rfl same

theorem renestedAll_of_listify_eq (items : List Value) :
    ∀ v ∈ items, ∀ w, v.listify = w.listify → v.Renested w := by
  cases items with
  | nil => exact nofun
  | cons v rest =>
      rw [List.forall_mem_cons]
      exact ⟨renested_of_listify_eq v, renestedAll_of_listify_eq rest⟩

end

/-- Two values are nested alike exactly when their tuples turn into the same lists. -/
theorem renested_iff : v.Renested w ↔ v.listify = w.listify :=
  ⟨Renested.listify_eq, renested_of_listify_eq v w⟩

theorem listify_listify (v : Value) : v.listify.listify = v.listify :=
  (listify_listed v).listify_eq

theorem renested_listify (v : Value) : v.Renested v.listify :=
  renested_iff.mpr (listify_listify v).symm

end

end Value

namespace Geometry

/-! ## Entries -/

/-- Entries that describe the same geometry: there may be further ones, and the coordinates may be
nested in tuples in the place of lists. -/
inductive Restated : List (Value × Value) → List (Value × Value) → Prop where
  | nil : Restated [] []
  | keep {entries others : List (Value × Value)} (entry : Value × Value)
      (rest : Restated entries others) : Restated (entry :: entries) (entry :: others)
  | add {entries others : List (Value × Value)} {key : Value} (w : Value)
      (untyped : Value.sameKey key (.text "type") = false)
      (unlocated : Value.sameKey key (.text "coordinates") = false)
      (rest : Restated entries others) : Restated entries ((key, w) :: others)
  | renest {entries others : List (Value × Value)} {v w : Value} (same : v.Renested w)
      (rest : Restated entries others) :
      Restated ((.text "coordinates", v) :: entries) ((.text "coordinates", w) :: others)

section

variable {c : Catalog} {names : List String} {argument : String} {v w e : Value}
  {entries others : List (Value × Value)}

theorem Restated.refl (entries : List (Value × Value)) : Restated entries entries := by
  induction entries with
  | nil => exact .nil
  | cons entry rest ih => exact .keep entry ih

theorem lookup_cons (name : String) (entry : Value × Value) (entries : List (Value × Value)) :
    Value.lookup name (entry :: entries) =
      if Value.sameKey entry.1 (.text name) then some entry.2 else Value.lookup name entries :=
  rfl

/-- The type stays where it is. -/
theorem Restated.lookup_type (restated : Restated entries others) :
    Value.lookup "type" others = Value.lookup "type" entries := by
  induction restated with
  | nil => rfl
  | keep entry rest ih => rw [lookup_cons, lookup_cons, ih]
  | add w untyped unlocated rest ih => rwa [lookup_cons, untyped, if_neg Bool.false_ne_true]
  | renest same rest ih =>
      have untyped : Value.sameKey (.text "coordinates") (.text "type") = false :=
        Value.sameKey_texts _ _
      rwa [lookup_cons, lookup_cons, untyped, if_neg Bool.false_ne_true, if_neg Bool.false_ne_true]

/-- The coordinates keep their normal form. -/
theorem Restated.lookup_coordinates (restated : Restated entries others) :
    (Value.lookup "coordinates" others).map Value.listify =
      (Value.lookup "coordinates" entries).map Value.listify := by
  induction restated with
  | nil => rfl
  | keep entry rest ih =>
      rw [lookup_cons, lookup_cons]
      split
      · rfl
      · exact ih
  | add w untyped unlocated rest ih => rwa [lookup_cons, unlocated, if_neg Bool.false_ne_true]
  | renest same rest ih =>
      have located : Value.sameKey (.text "coordinates") (.text "coordinates") = true :=
        Value.sameKey_texts _ _
      rw [lookup_cons, lookup_cons, if_pos located, if_pos located, Option.map_some,
        Option.map_some, same.listify_eq]

/-! ## Encodings -/

def form (type : String) (coordinates : Value) : Value :=
  .object [("type", .text type), ("coordinates", coordinates)]

/-- A value is encoded as a document, among some types. -/
def Encodes (c : Catalog) (names : List String) (argument : String) (v e : Value) : Prop :=
  Library.encodeAmong c v (Library.typeSet names) argument = .ok e

/-- A value is encoded by its type, which is one of those allowed, and the normal form of its
coordinates. -/
theorem encodes_iff :
    Encodes c names argument v e ↔ ∃ entries type coordinates,
      description argument v = .ok entries ∧ Value.lookup "type" entries = some (.text type) ∧
        type ∈ names ∧ (Value.lookup "coordinates" entries).map Value.listify = some coordinates ∧
          e = form type coordinates := by
  have encoded : Encodes c names argument v e ↔
      ∃ g, build (names.mergeSort (fun a b => decide (a ≤ b))) argument v = .ok g ∧
        form g.type g.coordinates = e := by
    rw [Encodes, Library.encodeAmong_typeSet]
    exact Outcome.map_eq_ok
  rw [encoded]
  constructor
  · rintro ⟨g, made, rfl⟩
    obtain ⟨entries, type, w, described, typed, among, located, rfl⟩ := build_eq_ok_iff.mp made
    exact ⟨entries, type, w.listify, described, typed, List.mem_mergeSort.mp among,
      by rw [located, Option.map_some], rfl⟩
  · rintro ⟨entries, type, coordinates, described, typed, among, located, rfl⟩
    obtain ⟨w, found, rfl⟩ := Option.map_eq_some_iff.mp located
    exact ⟨_, build_of_entries described typed (List.mem_mergeSort.mpr among) found, rfl⟩

/-- The encoding of a value is read off the entries that describe it. -/
theorem encodes_described (described : v.Describes entries) :
    Encodes c names argument v e ↔ ∃ type coordinates,
      Value.lookup "type" entries = some (.text type) ∧ type ∈ names ∧
        (Value.lookup "coordinates" entries).map Value.listify = some coordinates ∧
          e = form type coordinates := by
  rw [encodes_iff, described.description argument]
  constructor
  · rintro ⟨_, type, coordinates, ⟨⟩, rest⟩
    exact ⟨type, coordinates, rest⟩
  · rintro ⟨type, coordinates, rest⟩
    exact ⟨entries, type, coordinates, rfl, rest⟩

/-- What is described by the same entries restated is encoded the same. -/
theorem encodes_restated (first : v.Describes entries) (second : w.Describes others)
    (restated : Restated entries others) :
    Encodes c names argument v e ↔ Encodes c names argument w e := by
  rw [encodes_described first, encodes_described second, restated.lookup_type,
    restated.lookup_coordinates]

theorem form_describes (type : String) (coordinates : Value) :
    (form type coordinates).Describes
      [(.text "type", .text type), (.text "coordinates", coordinates)] :=
  .dictionary _

/-- A type that is allowed and coordinates make a geometry, which is encoded in its normal form. -/
theorem encodes_form {type : String} (among : type ∈ names) (coordinates : Value) :
    Encodes c names argument (form type coordinates) (form type coordinates.listify) := by
  refine (encodes_described (form_describes type coordinates)).mpr ⟨type, _, ?_, among, ?_, rfl⟩
  · rw [lookup_cons, Value.sameKey_texts, beq_self_eq_true, if_pos rfl]
  · have other : Value.sameKey (.text "type") (.text "coordinates") = false :=
      Value.sameKey_texts _ _
    rw [lookup_cons, other, if_neg Bool.false_ne_true, lookup_cons, Value.sameKey_texts,
      beq_self_eq_true, if_pos rfl, Option.map_some]

/-- Positions, what they describe themselves by, and the objects that describe themselves by the
same are encoded as the document of the position. -/
theorem encodes_position (among : "Point" ∈ names) {p : GeoPoint}
    (placed : v = .node (.point p) ∨ v = p.outline ∨ v.outline? = some p.outline) :
    Encodes c names argument v p.render := by
  have pair : (Value.tuple [.number p.longitude, .number p.latitude]).listify =
      .list [.number p.longitude, .number p.latitude] := by
    simp only [Value.listify, Value.listifyAll]
  have outlined : Encodes c names argument p.outline p.render := by
    have encoded := @encodes_form c names argument "Point" among
      (.tuple [.number p.longitude, .number p.latitude])
    rwa [pair] at encoded
  rcases placed with rfl | rfl | exposed
  · refine (encodes_restated (form_describes "Point" _) (.position rfl) ?_).mp outlined
    have same := Value.renested_listify (.tuple [.number p.longitude, .number p.latitude])
    rw [pair] at same
    exact .keep _ (.renest same .nil)
  · exact outlined
  · exact (encodes_restated (form_describes "Point" _) (.exposed exposed) (.refl _)).mp outlined

end

/-- An encoding is a normal form.  It has a type and coordinates only, these are the coordinates
that were given with lists for tuples all the way down, and it is encoded as it is.  What describes
the same geometry, as a dictionary or by one, with further members or with its coordinates nested in
other tuples and lists, has the same encoding; and a position is encoded as its document. -/
theorem encoding_canonical (c : Catalog) (names : List String) (argument : String) :
    (∀ v e, Encodes c names argument v e →
      (∃ entries type given coordinates,
        description argument v = .ok entries ∧
        Value.lookup "type" entries = some (.text type) ∧ type ∈ names ∧
        Value.lookup "coordinates" entries = some given ∧
        e = .object [("type", .text type), ("coordinates", coordinates)] ∧
        given.Renested coordinates ∧ coordinates.Listed) ∧
      Encodes c names argument e e) ∧
    (∀ v w entries others, v.Describes entries → w.Describes others → Restated entries others →
      ∀ e, Encodes c names argument v e ↔ Encodes c names argument w e) ∧
    ("Point" ∈ names → ∀ (p : GeoPoint) (v : Value),
      v = .node (.point p) ∨ v = p.outline ∨ v.outline? = some p.outline →
        Encodes c names argument v p.render) := by
  refine ⟨?_, fun v w entries others first second restated e =>
    encodes_restated first second restated, fun among p v placed => encodes_position among placed⟩
  intro v e encoded
  obtain ⟨entries, type, coordinates, described, typed, among, located, rfl⟩ :=
    encodes_iff.mp encoded
  obtain ⟨given, found, rfl⟩ := Option.map_eq_some_iff.mp located
  refine ⟨⟨entries, type, given, given.listify, described, typed, among, found, rfl,
    given.renested_listify, given.listify_listed⟩, ?_⟩
  have again := @encodes_form c names argument type among given.listify
  rwa [given.listify_listify] at again

/-- The corners of the square with lists only. -/
def squareList : Value :=
  .list [.list [.list [.int 0, .int 0], .list [.int 0, .int 1], .list [.int 1, .int 1],
    .list [.int 1, .int 0], .list [.int 0, .int 0]]]

/-- The object that describes itself by a square and the dictionary of the square in lists have one
encoding, the dictionary. -/
theorem squareShape_encoded :
    Encodes .empty polygonTypes "geometry" squareShape (form "Polygon" squareList) ∧
      Encodes .empty polygonTypes "geometry" (form "Polygon" squareList)
        (form "Polygon" squareList) := by
  obtain ⟨normal, alike, -⟩ := encoding_canonical .empty polygonTypes "geometry"
  have corners : squareCorners.listify = squareList := by
    simp only [squareCorners, squareList, Value.listify, Value.listifyAll, Value.int]
  have listed : squareList.listify = squareList := by
    rw [← corners, Value.listify_listify]
  have restated : Restated [(.text "type", .text "Polygon"), (.text "coordinates", squareList)]
      [(.text "type", .text "Polygon"), (.text "bbox", .list [.int 0, .int 0, .int 1, .int 1]),
        (.text "coordinates", squareCorners)] :=
    .keep _ (.add _ (Value.sameKey_texts _ _) (Value.sameKey_texts _ _)
      (.renest (Value.renested_iff.mpr (listed.trans corners.symm)) .nil))
  have plain := @encodes_form .empty polygonTypes "geometry" "Polygon" (by decide) squareList
  rw [listed] at plain
  have described : squareShape.Describes _ := .exposed rfl
  have encoded := (alike _ _ _ _ (form_describes _ _) described restated _).mp plain
  exact ⟨encoded, (normal _ _ encoded).2⟩

end Geometry

end SearchQuery
