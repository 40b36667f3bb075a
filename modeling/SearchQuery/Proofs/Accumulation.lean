import SearchQuery.Proofs.OperatorBuilders
import SearchQuery.Proofs.Slots

/-!
# Clauses that accumulate

A compound is made without clauses and grows by calls, each of which gives
definitions to one of its lists or sets the number of `should` clauses that
must match.  A run of calls is described by what its calls gave: every list
holds what was given to it, call after call, the last minimum counts, and
nothing else about the order of the calls is left in the compound.
-/

namespace SearchQuery

namespace Compound

/-- A call that changes a compound. -/
inductive Call where
  | clauses (role : Role) (given : List Value)
  | atLeast (minimum : Value)

def Call.apply (op : Operator Value) : Call → Checked (Operator Value)
  | .clauses role given => add role given op
  | .atLeast minimum => Compound.atLeast minimum op

/-- A new compound after calls, one after the other. -/
def grow (score : Value) (calls : List Call) : Checked (Operator Value) := do
  let start ← make score
  calls.foldlM Call.apply start

/-- The arguments that give definitions to a list: the definitions themselves,
or one value whose elements they are. -/
inductive Gives : List Value → List (Operator Value) → Prop where
  | arguments {ops : List (Operator Value)} (some : ops ≠ []) : Gives (ops.map .ofOperator) ops
  | elements {v : Value} {ops : List (Operator Value)} (some : ops ≠ [])
      (held : v.elements? = .some (ops.map .ofOperator)) : Gives [v] ops

theorem Gives.some {given : List Value} {ops : List (Operator Value)} (gives : Gives given ops) :
    ops ≠ [] := by
  cases gives with
  | arguments some => exact some
  | elements some => exact some

/-- What a call gave: definitions to a list, or a minimum. -/
inductive Step where
  | gave (role : Role) (ops : List (Operator Value))
  | needed (minimum : Whole)

/-- What a call that succeeds gave. -/
inductive Takes : Call → Step → Prop where
  | clauses {role : Role} {given : List Value} {ops : List (Operator Value)}
      (gives : Gives given ops) : Takes (.clauses role given) (.gave role ops)
  | atLeast {w : Whole} (natural : 0 ≤ w.value) : Takes (.atLeast (.number (.whole w))) (.needed w)

def Step.given? (role : Role) : Step → Option (List (Operator Value))
  | .gave other ops => if other = role then some ops else none
  | .needed _ => none

def Step.minimum? : Step → Option Whole
  | .gave .. => none
  | .needed minimum => some minimum

/-- All definitions given to a list, call after call. -/
def definitions (role : Role) (steps : List Step) : List (Operator Value) :=
  (steps.filterMap (Step.given? role)).flatten

/-- A list of clauses after some steps: absent as long as no step gave to it. -/
def gathered (role : Role) (steps : List Step) : Option (List (Operator Value)) :=
  if steps.filterMap (Step.given? role) = [] then none else some (definitions role steps)

/-- The minimum after some steps: the last one set, or zero. -/
def lastMinimum (steps : List Step) : Whole :=
  (steps.filterMap Step.minimum?).getLast?.getD (.int 0)

/-- A compound after some steps: every list as gathered, and the last minimum. -/
def after (steps : List Step) (score : Option Score) : Operator Value :=
  .compound (gathered .must steps) (gathered .mustNot steps) (gathered .should steps)
    (gathered .filter steps) (lastMinimum steps) score

theorem operators_eq_ok {argument : String} {items : List Value} {ops : List (Operator Value)} :
    Guard.each (Guard.operator argument) items = .ok ops ↔ items = ops.map .ofOperator := by
  rw [Guard.each_eq_ok]
  constructor
  · intro passed
    induction passed with
    | nil => rfl
    | cons first _ ih => rw [Guard.operator_eq_ok first, ih, List.map_cons, Value.ofOperator]
  · rintro rfl
    induction ops with
    | nil => exact .nil
    | cons op rest ih => exact .cons rfl ih

/-- The values that a call goes through are definitions exactly when it gives them. -/
theorem candidates_eq {given : List Value} {ops : List (Operator Value)} (some : ops ≠ []) :
    candidates given = ops.map .ofOperator ↔ Gives given ops := by
  constructor
  · intro same
    unfold candidates at same
    split at same
    · rename_i only
      cases held : only.elements? with
      | none =>
          rw [held, Option.getD_none] at same
          rw [same]
          exact .arguments some
      | some items =>
          rw [held, Option.getD_some] at same
          rw [same] at held
          exact .elements some held
    · rw [same]
      exact .arguments some
  · intro gives
    cases gives with
    | arguments some =>
        match ops with
        | [] => exact absurd rfl some
        | [op] => rfl
        | op :: second :: rest => rfl
    | elements some held => rw [candidates, held, Option.getD_some]

theorem clauses_eq (argument : String) (given : List Value) :
    clauses argument given =
      if (candidates given).isEmpty then .error (.invalid argument (.tuple []) .noClause)
      else Guard.each (Guard.operator argument) (candidates given) := by
  simp only [clauses]
  split <;> rfl

/-- A call takes its arguments as definitions exactly when it gives some, and nothing else. -/
theorem clauses_eq_ok {argument : String} {given : List Value} {ops : List (Operator Value)} :
    clauses argument given = .ok ops ↔ Gives given ops := by
  rw [clauses_eq]
  constructor
  · intro taken
    split at taken
    · cases taken
    · rename_i filled
      have same := operators_eq_ok.mp taken
      refine (candidates_eq ?_).mp same
      rintro rfl
      exact filled (by rw [same]; rfl)
  · intro gives
    have same := (candidates_eq gives.some).mpr gives
    rw [if_neg, same]
    · exact operators_eq_ok.mpr rfl
    · rw [same, List.isEmpty_map, List.isEmpty_iff]
      exact gives.some

theorem naturalInteger_eq_ok {argument : String} {v : Value} {w : Whole} :
    Guard.naturalInteger argument v = .ok w ↔ v = .number (.whole w) ∧ 0 ≤ w.value := by
  constructor
  · exact Guard.naturalInteger_eq_ok
  · rintro ⟨rfl, natural⟩
    refine Outcome.bind_eq_ok.mpr ⟨w, Guard.integer_eq_ok.mpr rfl, ?_⟩
    refine Outcome.bind_eq_ok.mpr ⟨.whole w, Guard.notNegative_eq_ok.mpr ⟨rfl, ?_⟩, rfl⟩
    rw [Number.lt_int_right]
    exact decide_eq_false (Int.not_lt.mpr natural)

/-- A compound starts from its score alone. -/
theorem make_eq_ok {v : Value} {op : Operator Value} :
    make v = .ok op ↔ ∃ score, v = .ofScore score ∧ op = after [] score := by
  rw [Compound.make_eq]
  constructor
  · intro made
    obtain ⟨score, passed, rfl⟩ := Outcome.map_eq_ok.mp made
    exact ⟨score, Guard.score_eq_ok.mp passed, rfl⟩
  · rintro ⟨score, rfl, rfl⟩
    exact Outcome.map_eq_ok.mpr ⟨score, Guard.score_eq_ok.mpr rfl, rfl⟩

/-! ## One more step -/

section

variable (role : Role) (before : List Step)

theorem gathered_gave (ops : List (Operator Value)) :
    gathered role (before ++ [.gave role ops]) = append (gathered role before) ops := by
  have one : [Step.gave role ops].filterMap (Step.given? role) = [ops] := by
    simp only [List.filterMap_cons, Step.given?, if_true, List.filterMap_nil]
  unfold gathered definitions
  have some : before.filterMap (Step.given? role) ++ [ops] ≠ [] :=
    List.append_ne_nil_of_right_ne_nil _ (List.cons_ne_nil _ _)
  rw [List.filterMap_append, one, if_neg some, List.flatten_concat]
  split
  · rename_i none
    rw [none]
    rfl
  · rfl

theorem gathered_same {step : Step} (silent : step.given? role = none) :
    gathered role (before ++ [step]) = gathered role before := by
  unfold gathered definitions
  rw [List.filterMap_append, List.filterMap_cons_none silent, List.filterMap_nil, List.append_nil]

theorem lastMinimum_gave (ops : List (Operator Value)) :
    lastMinimum (before ++ [.gave role ops]) = lastMinimum before := by
  unfold lastMinimum
  rw [List.filterMap_append, List.filterMap_cons_none rfl, List.filterMap_nil, List.append_nil]

theorem lastMinimum_needed (minimum : Whole) :
    lastMinimum (before ++ [.needed minimum]) = minimum := by
  have one : [Step.needed minimum].filterMap Step.minimum? = [minimum] := rfl
  unfold lastMinimum
  rw [List.filterMap_append, one, List.getLast?_concat, Option.getD_some]

/-- Definitions given to one list leave the other lists, the minimum and the score alone. -/
theorem after_gave (ops : List (Operator Value)) (score : Option Score) :
    after (before ++ [.gave role ops]) score =
      match role with
      | .must => .compound (append (gathered .must before) ops) (gathered .mustNot before)
          (gathered .should before) (gathered .filter before) (lastMinimum before) score
      | .mustNot => .compound (gathered .must before) (append (gathered .mustNot before) ops)
          (gathered .should before) (gathered .filter before) (lastMinimum before) score
      | .should => .compound (gathered .must before) (gathered .mustNot before)
          (append (gathered .should before) ops) (gathered .filter before) (lastMinimum before)
          score
      | .filter => .compound (gathered .must before) (gathered .mustNot before)
          (gathered .should before) (append (gathered .filter before) ops) (lastMinimum before)
          score := by
  have other : ∀ list, list ≠ role →
      gathered list (before ++ [.gave role ops]) = gathered list before :=
    fun list apart => gathered_same list before (if_neg (Ne.symm apart))
  unfold after
  rw [lastMinimum_gave]
  cases role with
  | must => rw [gathered_gave, other .mustNot nofun, other .should nofun, other .filter nofun]
  | mustNot => rw [gathered_gave, other .must nofun, other .should nofun, other .filter nofun]
  | should => rw [gathered_gave, other .must nofun, other .mustNot nofun, other .filter nofun]
  | filter => rw [gathered_gave, other .must nofun, other .mustNot nofun, other .should nofun]

/-- A minimum replaces the one before and leaves the lists and the score alone. -/
theorem after_needed (minimum : Whole) (score : Option Score) :
    after (before ++ [.needed minimum]) score =
      .compound (gathered .must before) (gathered .mustNot before) (gathered .should before)
        (gathered .filter before) minimum score := by
  unfold after
  rw [lastMinimum_needed, gathered_same .must before rfl, gathered_same .mustNot before rfl,
    gathered_same .should before rfl, gathered_same .filter before rfl]

end

/-- What one call makes of the compound that some steps led to. -/
theorem apply_eq_ok {before : List Step} {score : Option Score} {call : Call}
    {op : Operator Value} :
    call.apply (after before score) = .ok op ↔
      ∃ step, Takes call step ∧ op = after (before ++ [step]) score := by
  cases call with
  | clauses role given =>
      constructor
      · intro made
        obtain ⟨ops, taken, same⟩ := Outcome.bind_eq_ok.mp made
        refine ⟨.gave role ops, .clauses (clauses_eq_ok.mp taken), ?_⟩
        rw [after_gave]
        exact (Except.ok.inj same).symm
      · rintro ⟨step, takes, rfl⟩
        cases takes with
        | clauses gives =>
            refine Outcome.bind_eq_ok.mpr ⟨_, clauses_eq_ok.mpr gives, ?_⟩
            rw [after_gave]
            rfl
  | atLeast minimum =>
      constructor
      · intro made
        obtain ⟨least, passed, same⟩ := Outcome.bind_eq_ok.mp made
        obtain ⟨rfl, natural⟩ := naturalInteger_eq_ok.mp passed
        refine ⟨.needed least, .atLeast natural, ?_⟩
        rw [after_needed]
        exact (Except.ok.inj same).symm
      · rintro ⟨step, takes, rfl⟩
        cases takes with
        | atLeast natural =>
            refine Outcome.bind_eq_ok.mpr ⟨_, naturalInteger_eq_ok.mpr ⟨rfl, natural⟩, ?_⟩
            rw [after_needed]
            rfl

/-- What a run of calls makes of the compound that some steps led to. -/
theorem run_eq_ok {before : List Step} {score : Option Score} {calls : List Call}
    {op : Operator Value} :
    calls.foldlM Call.apply (after before score) = .ok op ↔
      ∃ steps, List.Forall₂ Takes calls steps ∧ op = after (before ++ steps) score := by
  induction calls generalizing before with
  | nil =>
      constructor
      · intro ran
        cases ran
        exact ⟨[], .nil, by rw [List.append_nil]⟩
      · rintro ⟨steps, none, rfl⟩
        cases none
        rw [List.append_nil]
        rfl
  | cons call rest ih =>
      rw [List.foldlM_cons, Outcome.bind_eq_ok]
      constructor
      · rintro ⟨middle, first, ran⟩
        obtain ⟨step, takes, rfl⟩ := apply_eq_ok.mp first
        obtain ⟨steps, both, rfl⟩ := ih.mp ran
        exact ⟨step :: steps, .cons takes both, by rw [List.append_assoc, List.singleton_append]⟩
      · rintro ⟨steps, both, rfl⟩
        cases both with
        | @cons _ step _ steps takes both =>
            refine ⟨_, apply_eq_ok.mpr ⟨step, takes, rfl⟩, ih.mpr ⟨steps, both, ?_⟩⟩
            rw [List.append_assoc, List.singleton_append]

/-! ## What is left of a run -/

section

variable {calls others : List Call} {steps : List Step}

/-- Every step that gave to a list gave at least one definition. -/
theorem given_some {role : Role} {ops : List (Operator Value)}
    (takes : List.Forall₂ Takes calls steps) (held : ops ∈ steps.filterMap (Step.given? role)) :
    ops ≠ [] := by
  induction takes with
  | nil => cases held
  | @cons call step calls steps first _ ih =>
      cases first with
      | atLeast => exact ih held
      | @clauses other _ gave gives =>
          by_cases same : other = role
          · have one : (Step.gave other gave).given? role = some gave := if_pos same
            rw [List.filterMap_cons_some one, List.mem_cons] at held
            rcases held with rfl | later
            · exact gives.some
            · exact ih later
          · have silent : (Step.gave other gave).given? role = none := if_neg same
            rw [List.filterMap_cons_none silent] at held
            exact ih held

/-- A list is absent exactly when nothing was given to it. -/
theorem gathered_eq {role : Role} (takes : List.Forall₂ Takes calls steps) :
    gathered role steps =
      if definitions role steps = [] then none else some (definitions role steps) := by
  have silent : steps.filterMap (Step.given? role) = [] ↔ definitions role steps = [] := by
    rw [definitions, List.flatten_eq_nil_iff, List.eq_nil_iff_forall_not_mem]
    constructor
    · intro none ops held
      exact absurd held (none ops)
    · intro empty ops held
      exact given_some takes held (empty ops held)
  unfold gathered
  simp only [silent]

/-- A compound depends on what each list was given and on the last minimum alone. -/
theorem after_congr {given : List Step} (score : Option Score)
    (takes : List.Forall₂ Takes calls steps) (gives : List.Forall₂ Takes others given)
    (same : ∀ role, definitions role steps = definitions role given)
    (least : lastMinimum steps = lastMinimum given) : after steps score = after given score := by
  have list : ∀ role, gathered role steps = gathered role given := by
    intro role
    rw [gathered_eq takes, gathered_eq gives, same role]
  unfold after
  rw [list .must, list .mustNot, list .should, list .filter, least]

end

/-- The document of the compound that steps lead to: the documents of the clauses of each
list in the order in which they were given, the minimum if it is positive, and the score. -/
def Documented (resolve : Resolver) (steps : List Step) (score : Option Score) (v : Value) :
    Prop :=
  ∃ (documents : Role → Option (List Value)) (last : Option Value),
    (∀ role, Operator.Written resolve (gathered role steps) (documents role)) ∧
    Score.Written resolve score last ∧
    v = .object [("compound", .object (Slot.present [
      ("must", (documents .must).map .list), ("mustNot", (documents .mustNot).map .list),
      ("should", (documents .should).map .list), ("filter", (documents .filter).map .list),
      ("minimumShouldMatch",
        if 0 < (lastMinimum steps).value then some (.whole (lastMinimum steps)) else none),
      ("score", last)]))]

theorem render_after_eq_ok {resolve : Resolver} {steps : List Step} {score : Option Score}
    {v : Value} :
    (after steps score).render resolve = .ok v ↔ Documented resolve steps score v := by
  constructor
  · intro written
    obtain ⟨slots, fills, rfl⟩ := Operator.render_fills written nofun nofun
    obtain ⟨must, mustNot, should, filter, last, first, second, third, fourth, scored, rfl⟩ := fills
    refine ⟨fun
      | .must => must
      | .mustNot => mustNot
      | .should => should
      | .filter => filter, last, ?_, scored, rfl⟩
    intro role
    cases role with
    | must => exact first
    | mustNot => exact second
    | should => exact third
    | filter => exact fourth
  · rintro ⟨documents, last, written, scored, rfl⟩
    unfold after Operator.render
    rw [Operator.renderClauses_of_written (written .must),
      Operator.renderClauses_of_written (written .mustNot),
      Operator.renderClauses_of_written (written .should),
      Operator.renderClauses_of_written (written .filter), Score.entries_of_written scored,
      Slot.positiveEntry_eq]
    have body : ∀ a b c d e f : Slot, Slot.present [a] ++ Slot.present [b] ++ Slot.present [c] ++
        Slot.present [d] ++ Slot.present [e] ++ Slot.present [f] =
          Slot.present [a, b, c, d, e, f] := by
      intro a b c d e f
      rw [← Slot.present_append, ← Slot.present_append, ← Slot.present_append,
        ← Slot.present_append, ← Slot.present_append]
      rfl
    rw [← body]
    rfl

/-- A run of calls on a new compound succeeds exactly when it is started from a score or
none, and every call gives definitions or a natural minimum.  Every list of the final
compound then holds what was given to it, in the order of the calls, its minimum is the last
one set, and its score is the first one.  Runs that give the same definitions to each list
and end on the same minimum lead to the same compound, however the calls for different lists
are interleaved and however the definitions are grouped into calls; and the document of the
compound has its entries in a fixed order, with the clauses of each list in theirs. -/
theorem grow_accumulates :
    (∀ (v : Value) (calls : List Call) (op : Operator Value),
      grow v calls = .ok op ↔ ∃ score steps,
        v = .ofScore score ∧ List.Forall₂ Takes calls steps ∧ op = after steps score) ∧
    (∀ (score : Option Score) (calls others : List Call) (steps given : List Step),
      List.Forall₂ Takes calls steps → List.Forall₂ Takes others given →
      (∀ role, definitions role steps = definitions role given) →
      lastMinimum steps = lastMinimum given →
      ∃ op, grow (.ofScore score) calls = .ok op ∧ grow (.ofScore score) others = .ok op) ∧
    ∀ (resolve : Resolver) (steps : List Step) (score : Option Score) (v : Value),
      (after steps score).render resolve = .ok v ↔ Documented resolve steps score v := by
  have grows : ∀ (v : Value) (calls : List Call) (op : Operator Value),
      grow v calls = .ok op ↔ ∃ score steps,
        v = .ofScore score ∧ List.Forall₂ Takes calls steps ∧ op = after steps score := by
    intro v calls op
    unfold grow
    rw [Outcome.bind_eq_ok]
    constructor
    · rintro ⟨start, made, ran⟩
      obtain ⟨score, rfl, rfl⟩ := make_eq_ok.mp made
      obtain ⟨steps, takes, rfl⟩ := run_eq_ok.mp ran
      exact ⟨score, steps, rfl, takes, rfl⟩
    · rintro ⟨score, steps, rfl, takes, rfl⟩
      exact ⟨_, make_eq_ok.mpr ⟨score, rfl, rfl⟩, run_eq_ok.mpr ⟨steps, takes, rfl⟩⟩
  refine ⟨grows, ?_, fun _ _ _ _ => render_after_eq_ok⟩
  intro score calls others steps given takes gives same least
  refine ⟨after steps score, (grows _ _ _).mpr ⟨score, steps, rfl, takes, rfl⟩, ?_⟩
  exact (grows _ _ _).mpr ⟨score, given, rfl, gives, after_congr score takes gives same least⟩

/-- Two clauses in one list and one in another, given one by one or all at once. -/
theorem grow_accumulates_interleaved :
    let a := Operator.existence (V := Value) (.name (.plain "a"))
    let b := Operator.existence (V := Value) (.name (.plain "b"))
    let c := Operator.existence (V := Value) (.name (.plain "c"))
    ∃ op, grow .null [.clauses .must [.ofOperator a], .atLeast (.int 3),
          .clauses .filter [.ofOperator c], .atLeast (.int 1), .clauses .must [.ofOperator b]] =
        .ok op ∧
      grow .null [.clauses .filter [.ofOperator c],
          .clauses .must [.list [.ofOperator a, .ofOperator b]], .atLeast (.int 1)] = .ok op := by
  intro a b c
  refine grow_accumulates.2.1 none _ _
    [.gave .must [a], .needed (.int 3), .gave .filter [c], .needed (.int 1), .gave .must [b]]
    [.gave .filter [c], .gave .must [a, b], .needed (.int 1)] ?_ ?_ ?_ rfl
  · have arguments : ∀ op : Operator Value, Gives [.ofOperator op] [op] :=
      fun op => .arguments (List.cons_ne_nil op [])
    exact .cons (.clauses (arguments a)) (.cons (.atLeast (by decide))
      (.cons (.clauses (arguments c)) (.cons (.atLeast (by decide))
        (.cons (.clauses (arguments b)) .nil))))
  · have elements : Gives [.list [.ofOperator a, .ofOperator b]] [a, b] :=
      .elements (List.cons_ne_nil a [b]) rfl
    have arguments : Gives [.ofOperator c] [c] := .arguments (List.cons_ne_nil c [])
    exact .cons (.clauses arguments) (.cons (.clauses elements) (.cons (.atLeast (by decide)) .nil))
  · intro role
    cases role <;> rfl

end Compound

end SearchQuery
