/-!
# Outcomes

Laws of steps that either give a result or stop with a fault.
-/

namespace SearchQuery

namespace Outcome

/-- Two steps give a result when the first gives one that the second goes on from. -/
theorem bind_eq_ok {ε α β : Type} {first : Except ε α} {next : α → Except ε β} {b : β} :
    first >>= next = .ok b ↔ ∃ a, first = .ok a ∧ next a = .ok b := by
  cases first with
  | error fault => simp [Bind.bind, Except.bind]
  | ok a => simp [Bind.bind, Except.bind]

theorem map_eq_ok {ε α β : Type} {first : Except ε α} {f : α → β} {b : β} :
    first.map f = .ok b ↔ ∃ a, first = .ok a ∧ f a = b := by
  cases first with
  | error fault => simp [Except.map]
  | ok a => simp [Except.map]

/-- Only one element of a list is the first that does not have a property. -/
theorem first_unique {α : Type} {P : α → Prop} {items before after earlier later : List α}
    {a b : α} (split : items = before ++ a :: after) (pass : ∀ c ∈ before, P c) (fails : ¬ P a)
    (other : items = earlier ++ b :: later) (also : ∀ c ∈ earlier, P c) (stops : ¬ P b) :
    a = b := by
  classical
  have first : items.find? (fun c => !decide (P c)) = some a :=
    List.find?_eq_some_iff_append.mpr ⟨by simpa using fails, before, after, split, by simpa using pass⟩
  have second : items.find? (fun c => !decide (P c)) = some b :=
    List.find?_eq_some_iff_append.mpr ⟨by simpa using stops, earlier, later, other, by simpa using also⟩
  exact Option.some.inj (first.symm.trans second)

/-- A step that stops only with faults of some sort. -/
def FailsAs {ε α : Type} (sort : ε → Prop) (outcome : Except ε α) : Prop :=
  ∀ fault, outcome = .error fault → sort fault

namespace FailsAs

variable {ε α β : Type} {sort : ε → Prop}

theorem ok (a : α) : FailsAs sort (.ok a : Except ε α) := by
  intro fault stopped
  cases stopped

theorem error {fault : ε} (holds : sort fault) : FailsAs sort (.error fault : Except ε α) := by
  intro other stopped
  cases stopped
  exact holds

@[simp]
theorem ok_iff {a : α} : FailsAs sort (.ok a : Except ε α) ↔ True :=
  iff_true_intro (ok a)

@[simp]
theorem error_iff {fault : ε} : FailsAs sort (.error fault : Except ε α) ↔ sort fault :=
  ⟨fun fails => fails fault rfl, error⟩

/-- Two steps fail as the first does, or as the second does on what the first gave. -/
theorem bind {first : Except ε α} {next : α → Except ε β} (now : FailsAs sort first)
    (later : ∀ a, first = .ok a → FailsAs sort (next a)) : FailsAs sort (first >>= next) := by
  intro fault stopped
  cases outcome : first with
  | error other =>
      rw [outcome] at stopped
      cases stopped
      exact now _ outcome
  | ok a =>
      rw [outcome] at stopped
      exact later a outcome fault stopped

theorem bind_iff {first : Except ε α} {next : α → Except ε β} :
    FailsAs sort (first >>= next) ↔
      FailsAs sort first ∧ ∀ a, first = .ok a → FailsAs sort (next a) := by
  refine ⟨fun both => ⟨fun fault stopped => both fault ?_, fun a given fault stopped => both fault ?_⟩,
    fun ⟨now, later⟩ => bind now later⟩
  · rw [stopped]
    rfl
  · rw [given]
    exact stopped

theorem map {first : Except ε α} (f : α → β) (now : FailsAs sort first) :
    FailsAs sort (first.map f) := by
  intro fault stopped
  cases outcome : first with
  | error other =>
      rw [outcome] at stopped
      cases stopped
      exact now _ outcome
  | ok a =>
      rw [outcome] at stopped
      cases stopped

/-- A fold fails as its steps do. -/
theorem foldlM {step : β → α → Except ε β} (now : ∀ b a, FailsAs sort (step b a))
    (items : List α) (b : β) : FailsAs sort (items.foldlM step b) := by
  induction items generalizing b with
  | nil => exact .ok b
  | cons a rest ih =>
      rw [List.foldlM_cons]
      exact .bind (now b a) (fun next _ => ih next)

theorem of_map {first : Except ε α} {f : α → β} (mapped : FailsAs sort (first.map f)) :
    FailsAs sort first := by
  intro fault stopped
  refine mapped fault ?_
  rw [stopped]
  rfl

end FailsAs

end Outcome

end SearchQuery
