import SearchQuery.Proofs.TwoPhase
import SearchQuery.Proofs.References

/-!
# What rendering can fail with

A definition is rendered with whatever value is given for its schema.  It has a
document, or the value is reported as no schema, or the schema reports a field
that it does not know; anything else comes from a value that offers the name of
the operation without being able to resolve a field, from a geometry that can be
read only once, or from a hand-written document that cannot be copied.  Values
do not change once they are accepted, and nothing bounds how deep they may be
nested; what the host refuses for its depth alone is left out.
-/

namespace SearchQuery

open Outcome (FailsAs)

namespace Fault

/-- A fault that has nothing to do with schemas: of an attribute, a key, or of the host. -/
def Foreign {V : Type} : Fault V → Prop
  | .noAttribute _ => True
  | .noKey _ => True
  | .refused _ => True
  | _ => False

end Fault

/-! ## What a value has under a name -/

namespace Value

theorem absence_foreign (v : Value) (name : String) : (v.absence name).Foreign := by
  unfold absence
  split
  · split <;> trivial
  all_goals trivial

theorem toItems_fails (v : Value) : FailsAs Fault.Foreign v.toItems := by
  unfold toItems
  split
  · exact .ok _
  · split <;> exact .error trivial

end Value

namespace Reference

end Reference

namespace Value

end Value

/-! ## Values given for a schema -/

namespace Value

/-- What may be given for a schema: nothing, a model, a schema, or a value that does not look
like one. -/
def Sincere (c : Catalog) : Value → Prop
  | .null => True
  | .node (.model _) => True
  | .node (.schema s _) => s ≠ .unusable
  | v => v.isSchema c = .ok false

end Value

namespace Schema

/-- A sincere value stands for a schema of use, or is reported as none. -/
theorem coerce_sincere {c : Catalog} {v : Value} (sincere : v.Sincere c) :
    (∃ s, coerce c v = .ok s ∧ s ≠ .unusable) ∨
      coerce c v = .error (.invalid "schema" v .expectedSchema) := by
  unfold Value.Sincere at sincere
  split at sincere
  · exact .inl ⟨_, rfl, nofun⟩
  · exact .inl ⟨_, rfl, nofun⟩
  · exact .inl ⟨_, rfl, sincere⟩
  · rename_i noNull noModel noSchema
    right
    unfold coerce
    split
    · exact absurd rfl noNull
    · exact absurd rfl (noModel _)
    · exact absurd rfl (noSchema _ _)
    · rw [sincere]
      rfl

end Schema

/-- The fault of a schema that does not know a field. -/
def Fault.IsUnresolved {V : Type} : Fault V → Prop
  | .unresolved _ _ => True
  | _ => False

/-- A field that is a name, or a chain of members from a model. -/
def Field.Owned : Field → Prop
  | .name s => s.text ≠ ""
  | .ref _ => True
  | .loose _ _ => False

def Field.steps : Field → List String
  | .name s => Text.segments s.text
  | .ref r => r.parts
  | .loose _ _ => []

namespace Operator

/-- Every field is a name or a chain of members. -/
def Owned (op : Operator Value) : Prop :=
  ∀ field ∈ op.fields, field.Owned

/-- No geometry can be read only once, every hand-written document can be copied, and every name
can be shown, or is known to every schema that knows an earlier field: only code may be impossible
to show, when its scope holds an integer of too many digits. -/
structure Clean (op : Operator Value) : Prop where
  readable : ∀ g ∈ op.geometries, g.given.readsOnce = false
  copied : ∀ entries ∈ op.documents, (Value.dict entries).copyable = true
  tellable : ∀ before s after, op.fields = before ++ .name s :: after →
    (Value.ofWords s).isWritable = true ∨ ∃ field ∈ before, Text.segments s.text <+: field.steps

/-- A definition has a document over a value given for its schema, or the value is reported as no
schema, or a field as unknown to it. -/
def Answered (c : Catalog) (schema : Value) (op : Operator Value) : Prop :=
  (∃ document, (Node.operator op).documentWith c schema = .ok document) ∨
    (Node.operator op).documentWith c schema =
      .error (.invalid "schema" schema .expectedSchema) ∨
    ∃ field reason, (Node.operator op).documentWith c schema = .error (.unresolved field reason)

end Operator

namespace Schema

theorem outcome_fails {field : Field} (shown : (Value.ofField field).isWritable = true)
    (found : Except Mismatch String) : FailsAs Fault.IsUnresolved (outcome field found) := by
  unfold outcome
  split
  · exact .ok _
  · refine .error ?_
    unfold Fault.mismatch Fault.worded
    rw [shown]
    trivial

/-- A schema of use fails on names and chains of members that can be shown only when it does not
know them. -/
theorem resolver_fails {c : Catalog} {s : Schema} (useful : s ≠ .unusable) {field : Field}
    (owned : field.Owned) (shown : (Value.ofField field).isWritable = true) :
    FailsAs Fault.IsUnresolved (s.resolver c field) := by
  cases s with
  | untyped =>
      cases field with
      | name s => exact .ok _
      | ref r => exact outcome_fails shown (.error .needsModel)
      | loose owner parts => exact owned.elim
  | modelled m =>
      cases field with
      | name s => exact outcome_fails shown _
      | ref r => exact outcome_fails shown _
      | loose owner parts => exact owned.elim
  | prepending text =>
      cases field with
      | name s => exact .ok _
      | ref r => exact .ok _
      | loose owner parts => exact owned.elim
  | unusable => exact absurd rfl useful

theorem outcome_known_iff {field : Field} {found : Except Mismatch String} :
    (∃ name, outcome field found = .ok name) ↔ ∃ name, found = .ok name := by
  cases found with
  | ok name => exact iff_of_true ⟨_, rfl⟩ ⟨name, rfl⟩
  | error reason => exact iff_of_false nofun nofun

theorem serialize_known_iff {c : Catalog} {m : ModelName} {names : List String} :
    (∃ name, serialize c m names = .ok name) ↔
      ∃ stored, c.storedNames (some m) names = .ok stored := by
  unfold serialize
  cases c.storedNames (some m) names with
  | ok stored => exact iff_of_true ⟨_, rfl⟩ ⟨stored, rfl⟩
  | error unknown => exact iff_of_false nofun nofun

end Schema

/-- A path that has stored names has them as far as it goes. -/
theorem Catalog.storedNames_of_append {c : Catalog} {start : Option ModelName}
    {first rest : List String} (found : ∃ names, c.storedNames start (first ++ rest) = .ok names) :
    ∃ names, c.storedNames start first = .ok names := by
  induction first generalizing start with
  | nil => cases start <;> exact ⟨_, rfl⟩
  | cons segment more ih =>
      cases start with
      | none => exact ⟨_, rfl⟩
      | some m =>
          obtain ⟨names, found⟩ := found
          rw [List.cons_append, storedNames] at found
          rw [storedNames]
          cases meant : (c m).lookup? segment with
          | none =>
              rw [meant] at found
              dsimp only at found ⊢
              split at found
              · rename_i allows
                rw [if_pos allows]
                exact ⟨_, rfl⟩
              · cases found
          | some member =>
              rw [meant] at found
              dsimp only at found ⊢
              split at found
              · rename_i stored inner
                obtain ⟨others, known⟩ := ih ⟨stored, inner⟩
                rw [known]
                exact ⟨_, rfl⟩
              · cases found

namespace Schema

/-- A schema of use that knows a field knows every name that the field begins with. -/
theorem resolver_of_steps {c : Catalog} {s : Schema} (useful : s ≠ .unusable) {field : Field}
    {w : Words} (filled : w.text ≠ "") (begins : Text.segments w.text <+: field.steps)
    (known : ∃ name, s.resolver c field = .ok name) : ∃ name, s.resolver c (.name w) = .ok name := by
  obtain ⟨rest, steps⟩ := begins
  cases s with
  | untyped => exact ⟨_, rfl⟩
  | prepending text => exact ⟨_, rfl⟩
  | unusable => exact absurd rfl useful
  | modelled m =>
      have walked : (∃ name, serialize c m field.steps = .ok name) →
          ∃ name, (Schema.modelled m).resolver c (.name w) = .ok name := by
        intro found
        rw [serialize_known_iff, ← steps] at found
        refine outcome_known_iff.mpr ?_
        unfold resolveName
        rw [if_neg filled]
        exact serialize_known_iff.mpr (Catalog.storedNames_of_append found)
      cases field with
      | name t =>
          have found := outcome_known_iff.mp known
          unfold resolveName at found
          split at found
          · obtain ⟨_, impossible⟩ := found
            cases impossible
          · exact walked found
      | ref r =>
          have found := outcome_known_iff.mp known
          unfold resolveChain at found
          split at found
          · exact walked found
          · obtain ⟨_, impossible⟩ := found
            cases impossible
      | loose owner parts =>
          have none : Text.segments w.text = [] := (List.append_eq_nil_iff.mp steps).1
          exact absurd none (Text.segments_ne_nil _)

end Schema

namespace Operator

/-- A definition whose geometries can be read again and whose hand-written documents can be copied
fails as its resolver does on the first field that it does not know. -/
theorem render_phased {op : Operator Value} (resolve : Resolver)
    (readable : ∀ g ∈ op.geometries, g.given.readsOnce = false)
    (copied : ∀ entries ∈ op.documents, (Value.dict entries).copyable = true) :
    TwoPhase resolve op.fields (op.render resolve)
      ((op.rename resolve.chosen).render (Schema.untyped.resolver .empty)) :=
  TwoPhase.of_follows (op.render_follows resolve .empty) (fun _ => render_shows)
    (others_met readable copied)

section

variable {c : Catalog} {v : Value} {op : Operator Value}

/-- Over a schema the document is the one that its resolver gives. -/
theorem documentWith_eq {s : Schema} (stands : Schema.coerce c v = .ok s) (op : Operator Value) :
    (Node.operator op).documentWith c v = op.render (s.resolver c) := by
  have resolves : Schema.coerced c v = s.resolver c := by
    funext field
    unfold Schema.coerced
    rw [stands]
    rfl
  unfold Node.documentWith
  rw [stands, resolves]
  cases (Node.operator op).needsSchema <;> rfl

/-- Without a schema only hand-written documents are written. -/
theorem documentWith_error {fault : Fault Value} (refused : Schema.coerce c v = .error fault)
    (op : Operator Value) :
    (Node.operator op).documentWith c v = .error fault ∨ ∃ entries, op = .raw entries ∧
      (Node.operator op).documentWith c v = op.render (Schema.coerced c v) := by
  cases op with
  | raw entries => exact .inr ⟨entries, rfl, rfl⟩
  | _ =>
      left
      unfold Node.documentWith
      rw [refused]
      rfl

/-- A clean definition of owned fields is answered over every sincere value. -/
theorem Clean.answered (clean : op.Clean) (owned : op.Owned) (sincere : v.Sincere c) :
    op.Answered c v := by
  rcases Schema.coerce_sincere sincere with ⟨s, stands, useful⟩ | refused
  · have fails : FailsAs Fault.IsUnresolved (op.render (s.resolver c)) := by
      intro fault stopped
      obtain ⟨before, field, after, split, known, refused⟩ :=
        (render_phased _ clean.readable clean.copied).first_fault fault stopped
      have held : field ∈ op.fields := by
        rw [split]
        exact List.mem_append_right _ List.mem_cons_self
      refine Schema.resolver_fails useful (owned field held) ?_ fault refused
      cases field with
      | ref r => exact Value.isWritable_field r
      | loose owner parts => exact (owned _ held).elim
      | name s =>
          rcases clean.tellable before s after split with shown | ⟨earlier, there, begins⟩
          · exact shown
          · obtain ⟨name, found⟩ :=
              Schema.resolver_of_steps useful (owned _ held) begins (known earlier there)
            rw [refused] at found
            cases found
    unfold Answered
    rw [documentWith_eq stands op]
    cases written : op.render (s.resolver c) with
    | ok document => exact .inl ⟨document, rfl⟩
    | error fault =>
        have unresolved := fails fault written
        cases fault with
        | unresolved field reason => exact .inr (.inr ⟨field, reason, rfl⟩)
        | _ => exact unresolved.elim
  · rcases documentWith_error refused op with stopped | ⟨entries, rfl, written⟩
    · exact .inr (.inl stopped)
    · refine .inl ⟨.dict entries, ?_⟩
      rw [written]
      unfold render
      rw [if_pos (clean.copied entries List.mem_cons_self)]

end

end Operator

def Field.owner? : Field → Option ModelName
  | .ref r => some r.owner
  | _ => none

def Member.plain (name : String) (content : Annotation) : Member :=
  ⟨name, content, none, none, none⟩

/-- The model that lies a number of steps along a chain. -/
def ModelName.along (n : Nat) : ModelName :=
  ⟨"", String.ofList (List.replicate n 'm')⟩

namespace Catalog

/-- Models along a chain of names.  Each has the next name of the chain for a member, which leads
to the next model, and further names that lead nowhere; the last lacks the last name. -/
def along (chain known : List String) (owners : List ModelName) : Catalog := fun m =>
  let members := match chain.drop m.name.length with
    | next :: _ :: _ =>
      .plain next (.model (.along (m.name.length + 1))) :: known.map (.plain · (.scalar "int"))
    | rest => (known.filter (fun name => !rest.contains name)).map (.plain · (.scalar "int"))
  ⟨members, .forbid, owners⟩

variable {chain known parts more : List String} {owners : List ModelName} {n : Nat}
  {name next second : String}

end Catalog

namespace Operator

variable {op : Operator Value}

/-- The models whose members an operator refers to. -/
def owners (op : Operator Value) : List ModelName :=
  op.fields.filterMap Field.owner?

/-- A fault about a geometry, or of the host. -/
def Unspoken (fault : Fault Value) : Prop :=
  (∃ argument v shown allowed, fault = .invalid argument v (.geometryType shown allowed)) ∨
    ∃ refusal, fault = .refused refusal

/-- A definition that is answered has a document unless it stops with a fault of another sort. -/
theorem Answered.written {c : Catalog} {m : ModelName} (answered : op.Answered c (.node (.model m)))
    (others : FailsAs Unspoken (op.render ((Schema.modelled m).resolver c))) :
    ∃ document, op.render ((Schema.modelled m).resolver c) = .ok document := by
  have stands : Schema.coerce c (.node (.model m)) = .ok (.modelled m) := rfl
  unfold Answered at answered
  rw [documentWith_eq stands] at answered
  rcases answered with written | reported | ⟨field, reason, unresolved⟩
  · exact written
  · rcases others _ reported with ⟨_, _, _, _, same⟩ | ⟨_, same⟩
    · cases same
    · cases same
  · rcases others _ unresolved with ⟨_, _, _, _, same⟩ | ⟨_, same⟩
    · cases same
    · cases same

end Operator

end SearchQuery
