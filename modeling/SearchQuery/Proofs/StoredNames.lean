import SearchQuery.Document
import SearchQuery.Proofs.Outcome

/-!
# Empty stored names

What a field is stored under is looked up part by part, and the parts are
joined.  The name that comes out is empty only if nothing went in: an empty
text, or a reference whose chain has no parts or an empty one alone.  And where
members may have empty names, each of these has one.
-/

namespace SearchQuery

/-- A schema of the library: names as they are, or looked up in a model. -/
def Schema.BuiltIn : Schema → Prop
  | .untyped => True
  | .modelled _ => True
  | _ => False

/-- A chain has no parts, or an empty one alone.  A stream has the parts that are left in it. -/
def Value.HollowChain (parts : Value) : Prop :=
  parts.toItems = .ok [] ∨ parts.toItems = .ok [.text ""]

/-- A field whose name may be empty: an empty text, or a reference, to a member
of what a model may extend, whose chain has no parts or an empty one alone. -/
def Field.Hollow : Field → Prop
  | .name w => w.text = ""
  | .ref r => r.parts = [] ∨ r.parts = [""]
  | .loose owner parts =>
    (∃ c m, Reference.isBelow c m (.ofTerm owner) = .ok true) ∧ (Value.ofTerm parts).HollowChain

theorem Member.name_of_storedName {m : Member} (empty : m.storedName = "") : m.name = "" := by
  unfold storedName at empty
  split at empty <;> grind

/-- A member that is stored under the empty name was looked up by it. -/
theorem Model.segment_of_storedName {m : Model} {segment : String} {member : Member}
    (found : m.lookup? segment = some member) (empty : member.storedName = "") : segment = "" := by
  unfold lookup? at found
  split at found
  · rename_i named
    cases found
    have same := List.find?_some named
    rw [← eq_of_beq same]
    exact Member.name_of_storedName empty
  · have same := List.find?_some found
    rw [← eq_of_beq same, empty]

namespace Catalog

variable {c : Catalog} {m : ModelName} {segments : List String}

theorem storedNames_eq_nil {start : Option ModelName}
    (found : c.storedNames start segments = .ok []) : segments = [] := by
  cases segments with
  | nil => rfl
  | cons segment rest =>
      cases start with
      | none => cases found
      | some m =>
          simp only [storedNames] at found
          split at found
          · split at found <;> cases found
          · split at found <;> cases found

/-- The stored names along a path are one empty name only if the path is. -/
theorem storedNames_eq_empty (found : c.storedNames (some m) segments = .ok [""]) :
    segments = [""] := by
  cases segments with
  | nil => cases found
  | cons segment rest =>
      simp only [storedNames] at found
      split at found
      · rename_i member named
        split at found
        · rename_i names later
          have both := Except.ok.inj found
          rw [List.cons.injEq] at both
          obtain ⟨empty, alone⟩ := both
          rw [alone] at later
          rw [storedNames_eq_nil later, Model.segment_of_storedName named empty]
        · cases found
      · split at found
        · exact Except.ok.inj found
        · cases found

end Catalog

namespace Schema

variable {c : Catalog} {m : ModelName} {name : String}

theorem serialize_ne_empty {segments : List String} (some : segments ≠ []) (named : segments ≠ [""])
    (found : serialize c m segments = .ok name) : name ≠ "" := by
  unfold serialize at found
  split at found
  · rename_i names stored
    cases found
    apply Text.dotted_ne_empty
    · rintro rfl
      exact some (Catalog.storedNames_eq_nil stored)
    · rintro rfl
      exact named (Catalog.storedNames_eq_empty stored)
  · cases found

/-- A dotted name that a model knows is stored under a name that is not empty. -/
theorem resolveName_ne_empty {s : String} (found : resolveName c m s = .ok name) : name ≠ "" := by
  unfold resolveName at found
  split at found
  · cases found
  · rename_i given
    apply serialize_ne_empty ?_ ?_ found
    all_goals
      intro same
      apply given
      rw [← Text.dotted_segments s, same]
      rfl

end Schema

namespace Reference

variable {c : Catalog} {m : ModelName} {items values : List Value} {field : Value} {sequence : Bool}

/-- A part that adds nothing to a stored name. -/
def Blank : Value → Prop
  | .text s => s = ""
  | .node (.code s _) => s = ""
  | _ => False

/-- Joined parts are empty only if there are none, or a blank one alone. -/
theorem joined_eq_empty (found : joined values = .ok "") :
    values = [] ∨ ∃ v, values = [v] ∧ Blank v := by
  obtain ⟨texts, read, same⟩ := Outcome.bind_eq_ok.mp found
  have short : texts = [] ∨ texts = [""] := by
    by_cases none : texts = []
    · exact .inl none
    · by_cases alone : texts = [""]
      · exact .inr alone
      · exact absurd (Except.ok.inj same) (Text.dotted_ne_empty none alone)
  cases values with
  | nil => exact .inl rfl
  | cons v rest =>
      rw [List.mapM_cons] at read
      obtain ⟨s, shown, more⟩ := Outcome.bind_eq_ok.mp read
      obtain ⟨others, later, made⟩ := Outcome.bind_eq_ok.mp more
      cases made
      rcases short with none | alone
      · cases none
      · cases alone
        cases rest with
        | nil =>
            refine .inr ⟨v, rfl, ?_⟩
            split at shown
            · exact Except.ok.inj shown
            · exact Except.ok.inj shown
            · cases shown
        | cons next more =>
            rw [List.mapM_cons] at later
            obtain ⟨_, -, left⟩ := Outcome.bind_eq_ok.mp later
            obtain ⟨_, -, made⟩ := Outcome.bind_eq_ok.mp left
            cases made

theorem storedParts_eq_nil {start : Option ModelName}
    (found : storedParts c field sequence start items = .ok []) : items = [] := by
  cases items with
  | nil => rfl
  | cons part rest =>
      cases start with
      | none =>
          simp only [storedParts] at found
          split at found <;> cases found
      | some m =>
          simp only [storedParts] at found
          split at found
          · cases found
          · split at found
            · obtain ⟨_, -, made⟩ := Outcome.bind_eq_ok.mp found
              cases made
            · split at found
              · cases found
              · split at found <;> cases found

/-- The stored parts of a chain are a blank one alone only if the chain is an empty text alone. -/
theorem storedParts_eq_blank {v : Value}
    (found : storedParts c field sequence (some m) items = .ok [v]) (blank : Blank v) :
    items = [.text ""] := by
  cases items with
  | nil => cases found
  | cons part rest =>
      simp only [storedParts] at found
      split at found
      · cases found
      · rename_i hashable
        split at found
        · rename_i member named
          obtain ⟨names, later, made⟩ := Outcome.bind_eq_ok.mp found
          cases made
          cases part with
          | text s =>
              rw [storedParts_eq_nil later, Model.segment_of_storedName named blank]
          | _ => cases named
        · split at found
          · cases found
          · split at found
            · cases found
              cases v with
              | text s => rw [show s = "" from blank]
              | node n =>
                  cases n with
                  | code s scope =>
                      have refused : (Value.node (.code s scope)).hashable = false := by
                        simp [Value.hashable, Value.toTerm, Node.toTerm, Term.hashable]
                      rw [refused] at hashable
                      exact absurd rfl hashable
                  | _ => exact absurd blank id
              | _ => exact absurd blank id
            · cases found

/-- The elements of a chain that can be gone through are its items. -/
theorem elements_eq_ok {parts : Value} (found : elements c parts = .ok items) :
    parts.toItems = .ok items := by
  unfold elements at found
  split at found
  · split at found <;> cases found
  · exact found

/-- A stored name is empty only if the chain of the reference is hollow. -/
theorem hollow_of_serialize {parts : Value} (found : serialize c m field parts = .ok "") :
    parts.HollowChain := by
  obtain ⟨items, listed, more⟩ := Outcome.bind_eq_ok.mp found
  obtain ⟨values, stored, written⟩ := Outcome.bind_eq_ok.mp more
  rcases joined_eq_empty written with rfl | ⟨v, rfl, blank⟩
  · rw [storedParts_eq_nil stored] at listed
    exact .inl (elements_eq_ok listed)
  · rw [storedParts_eq_blank stored blank] at listed
    exact .inr (elements_eq_ok listed)

end Reference

namespace Field

variable {c : Catalog} {s : Schema} {field : Field} {name : Words}

/-- A built-in schema gives a field that is not hollow a name that is not empty. -/
theorem name_ne_empty (solid : ¬ field.Hollow) (own : s.BuiltIn)
    (found : s.resolver c field = .ok name) : name.text ≠ "" := by
  cases s with
  | untyped =>
      cases field with
      | name w =>
          cases found
          exact solid
      | ref r => cases found
      | loose owner parts => cases found
  | modelled m =>
      cases field with
      | name w =>
          simp only [Schema.resolver, Schema.outcome] at found
          split at found
          · rename_i stored
            cases found
            exact Schema.resolveName_ne_empty stored
          · cases found
      | ref r =>
          obtain ⟨some, named⟩ := not_or.mp solid
          simp only [Schema.resolver, Schema.outcome, Schema.resolveChain] at found
          split at found
          · rename_i stored
            cases found
            split at stored
            · exact Schema.serialize_ne_empty some named stored
            · cases stored
          · cases found
      | loose owner parts =>
          obtain ⟨text, resolved, made⟩ := Outcome.bind_eq_ok.mp found
          cases made
          obtain ⟨below, extends_, more⟩ := Outcome.bind_eq_ok.mp resolved
          -- The model that extends the owner is this one, so an empty name makes the chain hollow.
          rintro rfl
          cases below with
          | true => exact solid ⟨⟨c, m, extends_⟩, Reference.hollow_of_serialize more⟩
          | false =>
              obtain ⟨_, -, stopped⟩ := Outcome.bind_eq_ok.mp more
              cases stopped
  | prepending text => exact absurd own id
  | unusable => exact absurd own id

end Field

/-- The catalog whose models have one member, named by the empty text, and extend what they extend
in another catalog. -/
def Catalog.nameless (c : Catalog) : Catalog := fun m =>
  ⟨[⟨"", .scalar "str", none, none, none⟩], .ignore, (c m).ancestors⟩

namespace Reference

variable {c : Catalog} {m : ModelName}

mutual

theorem isBelow_nameless (owner : Value) : isBelow c.nameless m owner = isBelow c m owner := by
  cases owner with
  | tuple owners =>
      rw [isBelow, isBelow]
      exact isBelowAny_nameless owners
  | node n =>
      cases n with
      | model owner =>
          simp only [isBelow]
          rfl
      | _ => simp only [isBelow]
  | _ => simp only [isBelow]

theorem isBelowAny_nameless (owners : List Value) :
    isBelowAny c.nameless m owners = isBelowAny c m owners := by
  cases owners with
  | nil => rw [isBelowAny, isBelowAny]
  | cons owner rest =>
      rw [isBelowAny, isBelowAny, isBelow_nameless owner, isBelowAny_nameless rest]

end

/-- A hollow chain has an empty stored name where members have empty names. -/
theorem serialize_nameless {field parts : Value} (hollow : parts.HollowChain) :
    serialize c.nameless m field parts = .ok "" := by
  have listed : ∀ items, parts.toItems = .ok items → elements c.nameless parts = .ok items := by
    intro items found
    unfold elements
    split
    · cases found
    · exact found
  unfold serialize
  rcases hollow with none | alone
  · rw [listed _ none]
    rfl
  · rw [listed _ alone]
    rfl

end Reference

/-- A field is named by code. -/
def Field.isCode : Field → Bool
  | .name w => w.isCode
  | _ => false

/-- A hollow field has an empty name under some built-in schema. -/
theorem Field.Hollow.empty_name {field : Field} (hollow : field.Hollow) :
    ∃ (c : Catalog) (s : Schema) (name : Words), s.BuiltIn ∧ s.resolver c field = .ok name ∧
      name.text = "" ∧ name.isCode = field.isCode := by
  cases field with
  | name w => exact ⟨Catalog.empty, .untyped, w, trivial, rfl, hollow, rfl⟩
  | ref r =>
      refine ⟨Catalog.empty.nameless, .modelled r.owner, "", trivial, ?_, rfl, rfl⟩
      have own : Catalog.empty.nameless.inherits r.owner r.owner = true := by
        simp [Catalog.inherits]
      have stored : Schema.serialize Catalog.empty.nameless r.owner r.parts = .ok "" := by
        rcases hollow with none | alone
        · rw [none]
          rfl
        · rw [alone]
          rfl
      simp only [Schema.resolver, Schema.resolveChain, own, if_true, stored]
      rfl
  | loose owner parts =>
      obtain ⟨⟨c, m, below⟩, chain⟩ := hollow
      refine ⟨c.nameless, .modelled m, "", trivial, ?_, rfl, rfl⟩
      have found : Reference.resolve c.nameless m (.ofTerm owner) (.ofTerm parts) = .ok "" := by
        unfold Reference.resolve
        rw [Reference.isBelow_nameless, below]
        exact Reference.serialize_nameless chain
      simp only [Schema.resolver, found]
      rfl

end SearchQuery
