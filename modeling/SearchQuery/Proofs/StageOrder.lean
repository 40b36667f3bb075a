import SearchQuery.Proofs.Alike
import SearchQuery.Proofs.DocumentOrder
import SearchQuery.Stage

/-!
# The order of names in stages

The options of a stage stand after the document of its operator.  Only a
hand-written document can hold an option already; it keeps its place there and
has no names of its own to show.
-/

namespace SearchQuery

namespace Value

theorem insert_fresh {key : Value} {entries : List (Value × Value)} (v : Value)
    (fresh : ∀ entry ∈ entries, sameKey entry.1 key = false) :
    insert key v entries = entries ++ [(key, v)] := by
  induction entries with
  | nil => rfl
  | cons entry rest ih =>
      have other := fresh entry List.mem_cons_self
      have others := ih (fun later held => fresh later (List.mem_cons_of_mem _ held))
      simp only [insert, other, others, Bool.false_eq_true, if_false, List.cons_append]

/-- Inserting under one key keeps what stands under another. -/
theorem mem_insert_of_ne {name other : String} {key v w : Value} {entries : List (Value × Value)}
    (named : key.toTerm = .text name) (differ : name ≠ other) (held : (key, v) ∈ entries) :
    (key, v) ∈ insert (.text other) w entries := by
  induction entries with
  | nil => exact absurd held List.not_mem_nil
  | cons entry rest ih =>
      rcases List.mem_cons.mp held with rfl | later
      · have apart : sameKey key (.text other) = false := by
          rw [Bool.eq_false_iff]
          intro same
          have equal := sameKey_text.mp same
          rw [named] at equal
          exact differ (Term.text.inj equal)
        simp only [insert, apart, Bool.false_eq_true, if_false]
        exact List.mem_cons_self
      · unfold insert
        split
        · exact List.mem_cons_of_mem _ later
        · exact List.mem_cons_of_mem _ (ih later)

end Value

namespace Highlight

def fields : Option Highlight → List Field
  | none => []
  | some h => h.path.fields

def demands (h : Option Highlight) : List Demand :=
  (fields h).map .name

end Highlight

namespace Operator

variable {resolve : Resolver}

/-- A document is a hand-written one or has the name of its operator for its
only key. -/
theorem render_shape {op : Operator Value} {v : Value} (written : op.render resolve = .ok v) :
    (∃ entries, op = .raw entries ∧ v = .dict entries) ∨
      ∃ body, v = .object [(op.name, body)] := by
  cases op with
  | raw entries =>
      left
      unfold render at written
      split at written
      · exact ⟨entries, rfl, (Except.ok.inj written).symm⟩
      · cases written
  | existence field =>
      right
      obtain ⟨name, -, made⟩ := Outcome.bind_eq_ok.mp written
      exact ⟨_, (Except.ok.inj made).symm⟩
  | span s =>
      right
      obtain ⟨document, -, made⟩ := Outcome.bind_eq_ok.mp written
      exact ⟨_, (Except.ok.inj made).symm⟩
  | geoWithin p area score =>
      right
      obtain ⟨path, -, more⟩ := Outcome.bind_eq_ok.mp written
      obtain ⟨entry, -, more⟩ := Outcome.bind_eq_ok.mp more
      obtain ⟨last, -, made⟩ := Outcome.bind_eq_ok.mp more
      exact ⟨_, (Except.ok.inj made).symm⟩
  | geoShape p g relation score =>
      right
      obtain ⟨path, -, more⟩ := Outcome.bind_eq_ok.mp written
      obtain ⟨document, -, more⟩ := Outcome.bind_eq_ok.mp more
      obtain ⟨last, -, made⟩ := Outcome.bind_eq_ok.mp more
      exact ⟨_, (Except.ok.inj made).symm⟩
  | compound must mustNot should filter minimum score =>
      right
      obtain ⟨first, -, more⟩ := Outcome.bind_eq_ok.mp written
      obtain ⟨second, -, more⟩ := Outcome.bind_eq_ok.mp more
      obtain ⟨third, -, more⟩ := Outcome.bind_eq_ok.mp more
      obtain ⟨fourth, -, more⟩ := Outcome.bind_eq_ok.mp more
      obtain ⟨last, -, made⟩ := Outcome.bind_eq_ok.mp more
      exact ⟨_, (Except.ok.inj made).symm⟩
  | _ =>
      right
      obtain ⟨first, -, more⟩ := Outcome.bind_eq_ok.mp written
      obtain ⟨last, -, made⟩ := Outcome.bind_eq_ok.mp more
      exact ⟨_, (Except.ok.inj made).symm⟩

end Operator

namespace Stage

def options : List String :=
  ["highlight", "count", "index", "returnStoredSource"]

/-- No operator is named like an option. -/
theorem name_not_mem_options (op : Operator Value) : op.name ∉ options := by
  cases op with
  | pattern form => cases form <;> simp [Operator.name, PatternForm.word, options]
  | _ => simp [Operator.name, options]

def keyed (entries : List (String × Value)) : List (Value × Value) :=
  entries.map (fun entry => (.text entry.1, entry.2))

/-- An option that is not there yet comes last. -/
theorem setOption_keyed {key : String} (v : Option Value) {entries : List (String × Value)}
    (fresh : ∀ entry ∈ entries, entry.1 ≠ key) :
    setOption key v (keyed entries) = keyed (entries ++ optionalEntry key id v) := by
  cases v with
  | none => rw [optionalEntry, List.append_nil, setOption]
  | some v =>
      have apart : ∀ entry ∈ keyed entries, Value.sameKey entry.1 (.text key) = false := by
        intro entry held
        obtain ⟨source, given, rfl⟩ := List.mem_map.mp held
        rw [Bool.eq_false_iff]
        intro same
        have equal := Value.sameKey_text.mp same
        simp only [Value.toTerm] at equal
        exact fresh source given (Term.text.inj equal)
      rw [setOption, Value.insert_fresh v apart, keyed, keyed, List.map_append]
      rfl

theorem fresh_single {key name : String} (document : Value) (differ : name ≠ key) :
    ∀ entry ∈ [(name, document)], entry.1 ≠ key := by
  intro entry held
  rw [List.mem_singleton.mp held]
  exact differ

variable {resolve : Resolver}

/-- Entries hold a document under a name. -/
def Holds (name : String) (document : Value) (entries : List (Value × Value)) : Prop :=
  ∃ key, key.toTerm = .text name ∧ (key, document) ∈ entries

/-- Setting one option keeps what is held under the name of another. -/
theorem Holds.setOption {name : String} {document : Value} {entries : List (Value × Value)}
    (held : Holds name document entries) (other : String) (differ : name ≠ other)
    (v : Option Value) :
    Holds name document (setOption other v entries) := by
  cases v with
  | none => exact held
  | some v =>
      obtain ⟨key, named, there⟩ := held
      exact ⟨key, named, Value.mem_insert_of_ne named differ there⟩

end Stage

end SearchQuery
