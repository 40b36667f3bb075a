import SearchQuery.Proofs.Staging

/-!
# Bounds that calls keep

A half-open range has methods for one side only, and each of them sets the bound
on that side, whether or not there was one.  The ranges that the staged
interface hands out have no bound there yet, but the kinds of half-open ranges
can be made with any bounds, and then a call puts the new bound in the place of
the old one.  So calls keep what a range has exactly when the side that its form
still takes is empty.
-/

namespace SearchQuery

namespace Range

/-- Whether a form of range has the methods of a side. -/
def Side.OpenIn : Side → RangeForm → Prop
  | .upper _, .lowerBounded => True
  | .lower _, .upperBounded => True
  | _, _ => False

/-- The bound that stands on the side a form of range leaves open. -/
def spare (form : RangeForm) (lower upper : Option (Bound Value)) : Option (Bound Value) :=
  match form with
  | .lowerBounded => upper
  | .upperBounded => lower
  | .complete => none

namespace Call

/-- The bound on the side of a call. -/
def there (call : Call) (lower upper : Option (Bound Value)) : Option (Bound Value) :=
  if call.side.isLower then lower else upper

/-- The lower bound after a call that sets a bound. -/
def lowerAfter (call : Call) (b : Bound Value) (lower : Option (Bound Value)) :
    Option (Bound Value) :=
  if call.side.isLower then some b else lower

/-- The upper bound after a call that sets a bound. -/
def upperAfter (call : Call) (b : Bound Value) (upper : Option (Bound Value)) :
    Option (Bound Value) :=
  if call.side.isLower then upper else some b

end Call

section

variable (form : RangeForm) (p : Path) (lower upper : Option (Bound Value)) (score : Option Score)
  (call : Call)

/-- A call on a range is refused. -/
def Refuses : Prop :=
  ∀ s, ∃ fault, (call.on (.ofOperator (.range form p lower upper score))).run s = (.error fault, s)

/-- A call on a range sets the bound on its side, whatever was there. -/
def Sets (b : Bound Value) : Prop :=
  ∀ s, (call.on (.ofOperator (.range form p lower upper score))).run s =
    (.ok (.ofOperator (.range .complete p (call.lowerAfter b lower) (call.upperAfter b upper)
      score)), s)

/-- A call on a range keeps what the range has: it is refused, or it gives a range with the same
path and score, with every bound that there was, and with its own bound on a side that had none. -/
def Keeps : Prop :=
  Refuses form p lower upper score call ∨
    ∃ b form' lower' upper', call.bound? = some b ∧
      (∀ s, (call.on (.ofOperator (.range form p lower upper score))).run s =
        (.ok (.ofOperator (.range form' p lower' upper' score)), s)) ∧
      (∀ x ∈ lower, lower' = some x) ∧ (∀ x ∈ upper, upper' = some x) ∧
      call.there lower upper = none ∧ call.there lower' upper' = some b

end

section

variable {form : RangeForm} {p : Path} {lower upper : Option (Bound Value)} {score : Option Score}
  {call : Call} {b : Bound Value}

/-- A range of another form has no method for a side. -/
theorem second?_eq_none (shut : ¬ call.side.OpenIn form) :
    second? form p lower upper score call.side call.value = none := by
  obtain ⟨side | side, v⟩ := call
  · cases form with
    | upperBounded => exact absurd trivial shut
    | _ => rfl
  · cases form with
    | lowerBounded => exact absurd trivial shut
    | _ => rfl

theorem refuses_of_shut (shut : ¬ call.side.OpenIn form) :
    Refuses form p lower upper score call := by
  intro s
  rw [on_range, second?_eq_none shut]
  exact ⟨_, rfl⟩

/-- The methods of a half-open range set the bound on its spare side. -/
theorem there_eq_spare (free : call.side.OpenIn form) :
    call.there lower upper = spare form lower upper := by
  obtain ⟨side | side, v⟩ := call
  · cases form with
    | upperBounded => rfl
    | _ => exact free.elim
  · cases form with
    | lowerBounded => rfl
    | _ => exact free.elim

/-- A method of a half-open range refuses what is no bound. -/
theorem second?_refused (free : call.side.OpenIn form) (other : call.bound? = none) :
    ∃ fault, second? form p lower upper score call.side call.value = some (.error fault) := by
  have low := @build_refused_lower p score .complete call (.ofBound upper) other
  have high := @build_refused_upper p score lower .complete call other
  obtain ⟨side | side, v⟩ := call
  · cases form with
    | upperBounded => exact ⟨_, congrArg some low⟩
    | _ => exact free.elim
  · cases form with
    | lowerBounded => exact ⟨_, congrArg some high⟩
    | _ => exact free.elim

/-- A method of a half-open range builds the range with its bound in the place of what was there. -/
theorem second?_eq_build (free : call.side.OpenIn form) (set : call.bound? = some b) :
    second? form p lower upper score call.side call.value =
      some (build .complete (.ofPath p) (.ofBound (call.lowerAfter b lower))
        (.ofBound (call.upperAfter b upper)) (.ofScore score)) := by
  have value := boundValue_eq set
  obtain ⟨side | side, v⟩ := call
  · cases form with
    | upperBounded => exact congrArg (fun low => some (build .complete _ low _ _)) value
    | _ => exact free.elim
  · cases form with
    | lowerBounded => exact congrArg (fun high => some (build .complete _ _ high _)) value
    | _ => exact free.elim

/-- What a call with a bound makes of a half-open range. -/
theorem build_after (call : Call) (b : Bound Value) (lower upper : Option (Bound Value)) :
    build .complete (.ofPath p) (.ofBound (call.lowerAfter b lower))
        (.ofBound (call.upperAfter b upper)) (.ofScore score) =
      if agree (call.lowerAfter b lower) (call.upperAfter b upper) then
        .ok (.range .complete p (call.lowerAfter b lower) (call.upperAfter b upper) score)
      else .error (.invalid "range" (.tuple [.ofBound (call.lowerAfter b lower),
        .ofBound (call.upperAfter b upper)]) .mixedBounds) := by
  apply build_ofBound
  unfold Call.lowerAfter Call.upperAfter
  cases call.side.isLower <;> simp

/-- A bound of the kind of the other one is set. -/
theorem sets_of_agree (free : call.side.OpenIn form) (set : call.bound? = some b)
    (agreed : agree (call.lowerAfter b lower) (call.upperAfter b upper) = true) :
    Sets form p lower upper score call b := by
  intro s
  rw [on_range, second?_eq_build free set, build_after, if_pos agreed]
  rfl

/-- A call on a range is refused, or sets the bound on its side. -/
theorem refuses_or_sets (form : RangeForm) (p : Path) (lower upper : Option (Bound Value))
    (score : Option Score) (call : Call) :
    Refuses form p lower upper score call ∨
      ∃ b, call.bound? = some b ∧ Sets form p lower upper score call b := by
  by_cases free : call.side.OpenIn form
  · cases set : call.bound? with
    | none =>
        left
        intro s
        obtain ⟨fault, refused⟩ := second?_refused free set
        rw [on_range, refused]
        exact ⟨fault, rfl⟩
    | some b =>
        cases agreed : agree (call.lowerAfter b lower) (call.upperAfter b upper) with
        | true => exact .inr ⟨b, rfl, sets_of_agree free set agreed⟩
        | false =>
            left
            intro s
            rw [on_range, second?_eq_build free set, build_after, agreed]
            exact ⟨_, rfl⟩
  · exact .inl (refuses_of_shut free)

/-- A call keeps what a range has when it is refused or finds no bound on its side. -/
theorem keeps_iff :
    Keeps form p lower upper score call ↔
      Refuses form p lower upper score call ∨ call.there lower upper = none := by
  constructor
  · rintro (refused | ⟨b, form', lower', upper', -, -, -, -, empty, -⟩)
    · exact .inl refused
    · exact .inr empty
  · rintro (refused | empty)
    · exact .inl refused
    · refine (refuses_or_sets form p lower upper score call).imp id ?_
      rintro ⟨b, set, sets⟩
      refine ⟨b, .complete, _, _, set, sets, ?_⟩
      unfold Call.there at empty ⊢
      unfold Call.lowerAfter Call.upperAfter
      cases side : call.side.isLower <;> simp_all

/-- On the side that the methods of a half-open range set, some call sets a bound. -/
theorem exists_sets {old : Bound Value} (taken : spare form lower upper = some old) :
    ∃ call b, call.there lower upper = some old ∧ Sets form p lower upper score call b := by
  have fits : ∀ other : Option (Bound Value), ∃ v : Value, ∃ limit : Limit,
      (∀ side, (Call.mk side v).bound? = some ⟨limit, .bool side.inclusive⟩) ∧
        ∀ x ∈ other, x.limit.sameKind limit = true ∧ limit.sameKind x.limit = true := by
    intro other
    rcases other with _ | ⟨x | t, inclusive⟩
    · exact ⟨.int 0, .number (.int 0), fun _ => rfl, nofun⟩
    · refine ⟨.number x, .number x, fun _ => rfl, ?_⟩
      rintro _ ⟨⟩
      exact ⟨rfl, rfl⟩
    · refine ⟨.dateTime t, .date t, fun _ => rfl, ?_⟩
      rintro _ ⟨⟩
      exact ⟨rfl, rfl⟩
  cases form with
  | complete => cases taken
  | lowerBounded =>
      obtain ⟨v, limit, set, same⟩ := fits lower
      refine ⟨⟨.upper true, v⟩, _, taken, sets_of_agree trivial (set _) ?_⟩
      cases lower with
      | none => rfl
      | some low => exact (same low rfl).1
  | upperBounded =>
      obtain ⟨v, limit, set, same⟩ := fits upper
      refine ⟨⟨.lower true, v⟩, _, taken, sets_of_agree trivial (set _) ?_⟩
      cases upper with
      | none => rfl
      | some high => exact (same high rfl).2

/-- All calls keep what a range has exactly when the side that its methods set is empty. -/
theorem keeps_all_iff :
    (∀ call, Keeps form p lower upper score call) ↔ spare form lower upper = none := by
  constructor
  · intro keeps
    by_contra given
    obtain ⟨old, taken⟩ := Option.ne_none_iff_exists'.mp given
    obtain ⟨call, b, there, sets⟩ := @exists_sets form p lower upper score old taken
    rcases keeps_iff.mp (keeps call) with refused | empty
    · obtain ⟨fault, stopped⟩ := refused (.start .empty .bare)
      rw [sets] at stopped
      cases stopped
    · rw [there] at empty
      cases empty
  · intro empty call
    by_cases free : call.side.OpenIn form
    · exact keeps_iff.mpr (.inr ((there_eq_spare free).trans empty))
    · exact .inl (refuses_of_shut free)

end

/-- Calls keep all that a range has, however this was made, exactly when it has no bound on the side
that its methods set.  A single call does so exactly when it is refused or finds no bound on its
side; for a call that is not refused sets the bound there, and leaves the path, the score and the
other bound as they are. -/
theorem bounds_kept_iff {form : RangeForm} {path lower upper score : Value} {op : Operator Value}
    (made : build form path lower upper score = .ok op) :
    ∃ p low high last, op = .range form p low high last ∧
      ((∀ call, Keeps form p low high last call) ↔ spare form low high = none) ∧
      ∀ call,
        (Keeps form p low high last call ↔
          Refuses form p low high last call ∨ call.there low high = none) ∧
        (Refuses form p low high last call ∨
          ∃ b, call.bound? = some b ∧ Sets form p low high last call b) := by
  obtain ⟨p, low, high, last, rfl, -⟩ := build_eq_ok made
  exact ⟨p, low, high, last, rfl, keeps_all_iff,
    fun call => ⟨keeps_iff, refuses_or_sets form p low high last call⟩⟩

def agePath : Path :=
  .single (.name (.plain "age"))

/-- Whatever is called on ages from 18 up, that bound stays. -/
theorem adults_bounds_kept :
    build .lowerBounded (.ofPath agePath) (boundValue (.int 18) true) .null .null =
        .ok (.range .lowerBounded agePath (some ⟨.number (.int 18), .bool true⟩) none none) ∧
      ∀ call,
        Keeps .lowerBounded agePath (some ⟨.number (.int 18), .bool true⟩) none none call := by
  have made : build .lowerBounded (.ofPath agePath) (boundValue (.int 18) true) .null .null =
      .ok (.range .lowerBounded agePath (some ⟨.number (.int 18), .bool true⟩) none none) := rfl
  obtain ⟨p, low, high, last, same, kept, -⟩ := bounds_kept_iff made
  cases same
  exact ⟨made, kept.mpr rfl⟩

/-- Ages from 1 up to 10 can be made a range with a lower bound, and then a call that asks for ages
below 20 drops the 10. -/
theorem children_bound_dropped :
    let low : Option (Bound Value) := some ⟨.number (.int 1), .bool true⟩
    let high : Option (Bound Value) := some ⟨.number (.int 10), .bool false⟩
    build .lowerBounded (.ofPath agePath) (boundValue (.int 1) true) (boundValue (.int 10) false)
        .null = .ok (.range .lowerBounded agePath low high none) ∧
      (∀ s, (Call.on (.ofOperator (.range .lowerBounded agePath low high none))
        ⟨.upper false, .int 20⟩).run s = (.ok (.ofOperator (.range .complete agePath low
          (some ⟨.number (.int 20), .bool false⟩) none)), s)) ∧
      ¬ Keeps .lowerBounded agePath low high none ⟨.upper false, .int 20⟩ := by
  intro low high
  have dropped : Sets .lowerBounded agePath low high none ⟨.upper false, .int 20⟩
      ⟨.number (.int 20), .bool false⟩ := sets_of_agree trivial rfl rfl
  refine ⟨rfl, dropped, ?_⟩
  intro keeps
  rcases keeps_iff.mp keeps with refused | empty
  · obtain ⟨fault, stopped⟩ := refused (.start .empty .bare)
    rw [dropped] at stopped
    cases stopped
  · cases empty

end Range

end SearchQuery
