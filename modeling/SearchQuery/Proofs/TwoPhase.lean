import SearchQuery.Build.Operator
import SearchQuery.Proofs.Follow
import SearchQuery.Proofs.StageOrder

/-!
# Resolving, then writing

A definition is written in two phases: its fields are resolved in document
order, and the definition over the names found is written without a schema.
Nothing else is asked of a schema, and nothing else can go wrong, with one
exception: a geometry that describes itself by something that can be read only
once was read when it was accepted, so its definition is never written.  Values
do not change once they are accepted: a caller that later changes a geometry or
a document that it handed in is left out, and so is the depth at which the host
gives up.
-/

namespace SearchQuery

/-- A resolver as schemas are meant to be: it gives a field a name that is not
empty, or reports that it cannot resolve one. -/
def Resolver.Lawful (resolve : Resolver) : Prop :=
  ∀ field, (∃ name, resolve field = .ok name ∧ name.text ≠ "") ∨
    ∃ shown reason, resolve field = .error (.unresolved shown reason)

/-- A document is written in two phases from fields listed in document order:
first all of them are resolved, then the document is written over their names. -/
structure TwoPhase (resolve : Resolver) (fields : List Field)
    (write renamed : Except (Fault Value) Value) : Prop where
  written_iff : (∃ v, write = .ok v) ↔ ∀ field ∈ fields, ∃ name, resolve field = .ok name
  same : ∀ v, write = .ok v → renamed = .ok v
  ordered : ∀ v, write = .ok v →
    (fields.map (fun field => Value.ofWords (resolve.chosen field))).Sublist v.leaves
  first_fault : ∀ fault, write = .error fault → ∃ before field after,
    fields = before ++ field :: after ∧
      (∀ earlier ∈ before, ∃ name, resolve earlier = .ok name) ∧
        resolve field = .error fault

namespace Demand

variable {resolve : Resolver}

/-- All demands are met when each of them is. -/
theorem meetAll_eq_ok {demands : List Demand} :
    meetAll resolve demands = .ok () ↔ ∀ demand ∈ demands, demand.meet resolve = .ok () := by
  induction demands with
  | nil => exact ⟨fun _ demand held => absurd held List.not_mem_nil, fun _ => rfl⟩
  | cons demand rest ih =>
      unfold meetAll
      rw [Outcome.bind_eq_ok]
      constructor
      · rintro ⟨⟨⟩, met, others⟩ later held
        rcases List.mem_cons.mp held with rfl | there
        · exact met
        · exact ih.mp others later there
      · intro all
        exact ⟨(), all demand List.mem_cons_self,
          ih.mpr (fun later held => all later (List.mem_cons_of_mem _ held))⟩

/-- When not all demands are met, the fault is that of the first that is not. -/
theorem meetAll_eq_error {demands : List Demand} {fault : Fault Value}
    (stopped : meetAll resolve demands = .error fault) : ∃ before demand after,
      demands = before ++ demand :: after ∧
        (∀ earlier ∈ before, earlier.meet resolve = .ok ()) ∧
          demand.meet resolve = .error fault := by
  induction demands with
  | nil => cases stopped
  | cons demand rest ih =>
      cases met : demand.meet resolve with
      | error first =>
          have same : first = fault := by
            simp only [meetAll, met, Bind.bind, Except.bind] at stopped
            exact Except.error.inj stopped
          exact ⟨[], demand, rest, rfl, fun _ held => absurd held List.not_mem_nil, same ▸ met⟩
      | ok done =>
          have later : meetAll resolve rest = .error fault := by
            simpa only [meetAll, met, Bind.bind, Except.bind] using stopped
          obtain ⟨before, refused, after, rfl, earlier, failed⟩ := ih later
          refine ⟨demand :: before, refused, after, rfl, ?_, failed⟩
          intro one held
          rcases List.mem_cons.mp held with rfl | there
          · exact met
          · exact earlier one there

theorem meet_name_ok {field : Field} :
    (name field).meet resolve = .ok () ↔ ∃ found, resolve field = .ok found := by
  unfold meet
  rw [Outcome.bind_eq_ok]
  constructor
  · rintro ⟨found, resolved, -⟩
    exact ⟨found, resolved⟩
  · rintro ⟨found, resolved⟩
    exact ⟨found, resolved, rfl⟩

theorem meet_name_error {field : Field} {fault : Fault Value}
    (refused : (name field).meet resolve = .error fault) : resolve field = .error fault := by
  cases found : resolve field with
  | ok name =>
      simp only [meet, found, Bind.bind, Except.bind] at refused
      cases refused
  | error first =>
      simp only [meet, found, Bind.bind, Except.bind] at refused
      rw [Except.error.inj refused]

theorem field?_eq_some {demand : Demand} {field : Field} :
    demand.field? = some field ↔ demand = .name field := by
  cases demand <;> simp [field?]

theorem mem_fields {demands : List Demand} {field : Field} :
    field ∈ demands.filterMap field? ↔ name field ∈ demands := by
  rw [List.mem_filterMap]
  constructor
  · rintro ⟨demand, held, about⟩
    rwa [← field?_eq_some.mp about]
  · intro held
    exact ⟨name field, held, rfl⟩

/-- A demand that is about no field is met whatever the resolver, unless it is
about a geometry that can be read only once or a document that cannot be copied. -/
theorem meet_of_field?_eq_none {demand : Demand} (other : demand.field? = none)
    (readable : ∀ g, demand.geometry? = some g → g.given.readsOnce = false)
    (copied : ∀ entries, demand.document? = some entries → (Value.dict entries).copyable = true) :
    demand.meet resolve = .ok () := by
  cases demand with
  | name field => cases other
  | geometry argument allowed g =>
      simp only [meet, Geometry.render, readable g rfl, Bool.false_eq_true, if_false]
      rfl
  | copy entries =>
      simp only [meet, Operator.render, copied entries rfl, if_true]
      rfl

end Demand

/-- A writer that follows demands for fields, and shows their names in order,
writes in two phases when its other demands are met. -/
theorem TwoPhase.of_follows {resolve : Resolver} {demands : List Demand}
    {write renamed : Except (Fault Value) Value}
    (follows : Follows resolve demands write renamed)
    (ordered : ∀ v, write = .ok v → (resolve.answers demands).Sublist v.leaves)
    (others : ∀ demand ∈ demands, demand.field? = none → demand.meet resolve = .ok ()) :
    TwoPhase resolve (demands.filterMap Demand.field?) write renamed := by
  refine ⟨⟨?_, ?_⟩, ?_, ordered, ?_⟩
  · rintro ⟨v, written⟩ field held
    have met := (follows.met written).1
    exact Demand.meet_name_ok.mp (Demand.meetAll_eq_ok.mp met _ (Demand.mem_fields.mp held))
  · intro resolved
    refine follows.written (Demand.meetAll_eq_ok.mpr (fun demand held => ?_))
    cases about : demand.field? with
    | none => exact others demand held about
    | some field =>
        rw [Demand.field?_eq_some.mp about] at held ⊢
        exact Demand.meet_name_ok.mpr (resolved field (Demand.mem_fields.mpr held))
  · intro v written
    exact (follows.met written).2
  · intro fault stopped
    obtain ⟨before, demand, after, rfl, earlier, failed⟩ :=
      Demand.meetAll_eq_error (follows.stopped stopped)
    cases about : demand.field? with
    | none =>
        rw [others demand (List.mem_append_right _ List.mem_cons_self) about] at failed
        cases failed
    | some field =>
        rw [Demand.field?_eq_some.mp about] at failed ⊢
        refine ⟨before.filterMap Demand.field?, field, after.filterMap Demand.field?, ?_, ?_,
          Demand.meet_name_error failed⟩
        · rw [List.filterMap_append]
          rfl
        · intro one there
          exact Demand.meet_name_ok.mp (earlier _ (Demand.mem_fields.mp there))

section

variable (resolve : Resolver) (c : Catalog)

namespace Stage

end Stage

namespace Operator

variable {resolve}

/-- The demands of an operator for other things than names are met when it has
nothing that is read only once or cannot be copied. -/
theorem others_met {op : Operator Value}
    (readable : ∀ g ∈ op.geometries, g.given.readsOnce = false)
    (copied : ∀ entries ∈ op.documents, (Value.dict entries).copyable = true) :
    ∀ demand ∈ op.demands, demand.field? = none → demand.meet resolve = .ok () := by
  intro demand held other
  refine Demand.meet_of_field?_eq_none other ?_ ?_
  · intro g about
    exact readable g (List.mem_filterMap.mpr ⟨demand, held, about⟩)
  · intro entries about
    exact copied entries (List.mem_filterMap.mpr ⟨demand, held, about⟩)

/-- A definition that is written has no geometry that is read only once. -/
theorem readable_of_written {op : Operator Value} {v : Value}
    (written : op.render resolve = .ok v) :
    ∀ g ∈ op.geometries, g.given.readsOnce = false := by
  intro g held
  obtain ⟨demand, there, about⟩ := List.mem_filterMap.mp held
  have met := (Operator.render_follows resolve Catalog.empty op).met written
  have read := Demand.meetAll_eq_ok.mp met.1 demand there
  cases demand with
  | name field => cases about
  | copy entries => cases about
  | geometry argument allowed other =>
      cases about
      cases once : g.given.readsOnce with
      | false => rfl
      | true =>
          simp only [Demand.meet, Geometry.render, once, if_true, Bind.bind, Except.bind] at read
          cases read

end Operator

end

/-- Whatever lawful resolver it is given, a definition is written in two
phases, alone and in the stages: a stage resolves the fields of its query
before those of its highlight path. -/
def Operator.TwoPhased (c : Catalog) (op : Operator Value) : Prop :=
  ∀ resolve : Resolver, resolve.Lawful →
    TwoPhase resolve op.fields (op.render resolve)
      ((op.rename resolve.chosen).render (Schema.untyped.resolver c)) ∧
    (∀ h i n storedSource, TwoPhase resolve (op.fields ++ Highlight.fields h)
      (Stage.searchWith resolve op h i n storedSource)
      (Stage.searchWith (Schema.untyped.resolver c) (op.rename resolve.chosen)
        (h.map (Highlight.rename resolve.chosen)) i n storedSource)) ∧
    ∀ i n, TwoPhase resolve op.fields (Stage.searchMetaWith resolve op i n)
      (Stage.searchMetaWith (Schema.untyped.resolver c) (op.rename resolve.chosen) i n)

namespace Operator

/-- What is written in two phases is written as soon as every field has a name. -/
theorem TwoPhased.readable {c : Catalog} {op : Operator Value} (phased : op.TwoPhased c) :
    ∀ g ∈ op.geometries, g.given.readsOnce = false := by
  have lawful : Resolver.Lawful (fun _ => .ok "name") := by
    intro field
    exact .inl ⟨"name", rfl, by decide⟩
  obtain ⟨alone, -⟩ := phased _ lawful
  obtain ⟨v, written⟩ := alone.written_iff.mpr (fun field _ => ⟨"name", rfl⟩)
  exact readable_of_written written

end Operator

end SearchQuery
