import SearchQuery.Proofs.Alike
import SearchQuery.Proofs.OperatorBuilders
import SearchQuery.Script.Library

/-!
# Ranges in stages

A range is started from a path and perhaps a score, and gets its bounds from
calls of methods, each of which sets one side.  A side that is set has no
method any more.  A run of calls is described by its calls alone: it succeeds
when they are accepted together, and what it leads to are the bounds that they
set, in whatever order.
-/

namespace SearchQuery

namespace Range

namespace Side

def method : Side → String
  | .lower false => "gt"
  | .lower true => "gte"
  | .upper false => "lt"
  | .upper true => "lte"

def isLower : Side → Bool
  | .lower _ => true
  | .upper _ => false

def inclusive : Side → Bool
  | .lower taken => taken
  | .upper taken => taken

def argument : Side → String
  | .lower _ => "lower"
  | .upper _ => "upper"

end Side

/-- A call of the method of a side with the value of its bound. -/
structure Call where
  side : Side
  value : Value

namespace Call

/-- A call on a range, as a script makes it. -/
def on (v : Value) (call : Call) : Action Value := do
  let found ← Method.find v call.side.method
  Method.call v found [call.value] []

/-- The bound that a call sets, if its value is a number or a date-time. -/
def bound? (call : Call) : Option (Bound Value) :=
  match call.value with
  | .number x => some ⟨.number x, .bool call.side.inclusive⟩
  | .dateTime t => some ⟨.date t, .bool call.side.inclusive⟩
  | _ => none

/-- The entry of a call in a document: its value under its method. -/
def entry (call : Call) : String × Value :=
  (call.side.method, call.value)

end Call

/-- A script's calls on the start of a range, one after the other. -/
def run (start : Start) (calls : List Call) : Action Value :=
  calls.foldlM Call.on (Library.rangeStart start)

/-- Calls that succeed together: at most two, on different sides, with numbers only or with
date-times only. -/
def Accepted : List Call → Prop
  | [] => True
  | [a] => a.value.isNumber ∨ a.value.isDate
  | [a, b] => a.side.isLower ≠ b.side.isLower ∧
      (a.value.isNumber ∧ b.value.isNumber ∨ a.value.isDate ∧ b.value.isDate)
  | _ => False

def boundOn (lower : Bool) (calls : List Call) : Option (Bound Value) :=
  (calls.find? (fun call => call.side.isLower == lower)).bind Call.bound?

/-- The range with some bounds, or its start when there are none; its form tells which bounds
may still be set. -/
def stage (start : Start) (lower upper : Option (Bound Value)) : Value :=
  match lower, upper with
  | none, none => Library.rangeStart start
  | some _, none => .ofOperator (.range .lowerBounded start.path lower upper start.score)
  | none, some _ => .ofOperator (.range .upperBounded start.path lower upper start.score)
  | some _, some _ => .ofOperator (.range .complete start.path lower upper start.score)

/-- The range after some calls. -/
def reached (start : Start) (calls : List Call) : Value :=
  stage start (boundOn true calls) (boundOn false calls)

/-- Why the last of some calls is refused after the others were accepted. -/
def refusal (start : Start) (before : List Call) (call : Call) : Fault Value :=
  if before.any (fun earlier => earlier.side.isLower == call.side.isLower) then
    .noAttribute (.absent (reached start before).kind call.side.method)
  else
    match call.bound? with
    | none => .invalid call.side.argument call.value (.expectedBound call.value.kind)
    | some _ =>
      .invalid "range"
        (.tuple [.ofBound (boundOn true (before ++ [call])),
          .ofBound (boundOn false (before ++ [call]))])
        .mixedBounds

/-! ## One call -/

section

variable {p : Path} {score : Option Score} {lower upper : Option (Bound Value)}

theorem bound_ofBound_eq (argument : String) (found : Option (Bound Value)) :
    bound argument (.ofBound found) = .ok found := by
  rcases found with _ | ⟨limit, inclusive⟩
  · rfl
  · cases limit <;> rfl

/-- A value that is neither a number nor a date-time is no bound. -/
theorem bound_refused {call : Call} (argument : String) (other : call.bound? = none) :
    bound argument (boundValue call.value call.side.inclusive) =
      .error (.invalid argument call.value (.expectedBound call.value.kind)) := by
  have checked : (LooseBound.mk call.value (.bool call.side.inclusive)).check argument =
      .error (.invalid argument call.value (.expectedBound call.value.kind)) := by
    obtain ⟨side, given⟩ := call
    cases given with
    | number x => cases other
    | dateTime t => cases other
    | _ => rfl
  have found : bound argument (boundValue call.value call.side.inclusive) =
      ((LooseBound.mk call.value (.bool call.side.inclusive)).check argument).map some := rfl
  rw [found, checked]
  rfl

/-- A range with bounds is built when they are of one kind. -/
theorem build_ofBound (form : RangeForm) (given : lower ≠ none ∨ upper ≠ none) :
    build form (.ofPath p) (.ofBound lower) (.ofBound upper) (.ofScore score) =
      if agree lower upper then .ok (.range form p lower upper score)
      else .error (.invalid "range" (.tuple [.ofBound lower, .ofBound upper]) .mixedBounds) := by
  have scored : Guard.score (.ofScore score) = .ok score := Guard.score_eq_ok.mpr rfl
  have checked : build form (.ofPath p) (.ofBound lower) (.ofBound upper) (.ofScore score) =
      (do
        let low ← bound "lower" (.ofBound lower)
        let high ← bound "upper" (.ofBound upper)
        if !agree low high then
          throw (.invalid "range" (.tuple [.ofBound lower, .ofBound upper]) .mixedBounds)
        let s ← Guard.score (.ofScore score)
        return .range form p low high s) := by
    cases lower with
    | some low => rfl
    | none =>
        cases upper with
        | some high => rfl
        | none => exact absurd rfl (given.elim id id)
  rw [checked, bound_ofBound_eq, bound_ofBound_eq, scored]
  dsimp only [Bind.bind, Except.bind]
  cases agree lower upper <;> rfl

theorem build_refused_lower {form : RangeForm} {call : Call} {v : Value}
    (other : call.bound? = none) :
    build form (.ofPath p) (boundValue call.value call.side.inclusive) v (.ofScore score) =
      .error (.invalid "lower" call.value (.expectedBound call.value.kind)) := by
  have refused := bound_refused "lower" other
  unfold build
  rw [refused]
  rfl

theorem build_refused_upper {form : RangeForm} {call : Call} (other : call.bound? = none) :
    build form (.ofPath p) (.ofBound lower) (boundValue call.value call.side.inclusive)
        (.ofScore score) =
      .error (.invalid "upper" call.value (.expectedBound call.value.kind)) := by
  have refused := bound_refused "upper" other
  unfold build
  rw [refused, bound_ofBound_eq]
  cases lower <;> rfl

theorem boundValue_eq {call : Call} {b : Bound Value} (found : call.bound? = some b) :
    boundValue call.value call.side.inclusive = .ofBound (some b) := by
  obtain ⟨side, v⟩ := call
  unfold Call.bound? at found
  split at found
  · rename_i x same
    cases found
    rw [show v = .number x from same]
    rfl
  · rename_i t same
    cases found
    rw [show v = .dateTime t from same]
    rfl
  · cases found

end

theorem wrapped_run (wrap : Operator Value → Value) (outcome : Checked (Operator Value))
    (s : Session) : (Action.wrapped wrap outcome).run s = (outcome.map wrap, s) := by
  cases outcome <;> rfl

/-- The first call sets a bound or is refused for its value, whatever the session. -/
theorem on_start (start : Start) (call : Call) (s : Session) :
    (call.on (Library.rangeStart start)).run s =
      ((first start call.side call.value).map .ofOperator, s) := by
  have found : (call.on (Library.rangeStart start)).run s =
      (Action.wrapped .ofOperator (first start call.side call.value)).run s := by
    obtain ⟨side, v⟩ := call
    cases side with
    | lower inclusive => cases inclusive <;> rfl
    | upper inclusive => cases inclusive <;> rfl
  rw [found, wrapped_run]

/-- A later call finds the method of a side only while that side is open. -/
theorem on_range (form : RangeForm) (p : Path) (lower upper : Option (Bound Value))
    (score : Option Score) (call : Call) (s : Session) :
    (call.on (.ofOperator (.range form p lower upper score))).run s =
      match second? form p lower upper score call.side call.value with
      | some outcome => (outcome.map .ofOperator, s)
      | none => (.error (.noAttribute (.absent form.kind call.side.method)), s) := by
  obtain ⟨side, v⟩ := call
  have found : ∀ outcome, second? form p lower upper score side v = some outcome →
      (Call.on (.ofOperator (.range form p lower upper score)) ⟨side, v⟩).run s =
        (Action.wrapped .ofOperator outcome).run s := by
    intro outcome accepted
    cases form with
    | complete => cases accepted
    | lowerBounded =>
        cases side with
        | lower inclusive => cases accepted
        | upper inclusive =>
            cases accepted
            cases inclusive <;> rfl
    | upperBounded =>
        cases side with
        | upper inclusive => cases accepted
        | lower inclusive =>
            cases accepted
            cases inclusive <;> rfl
  cases accepted : second? form p lower upper score side v with
  | some outcome => rw [found outcome accepted, wrapped_run]
  | none =>
      cases form with
      | complete =>
          cases side with
          | lower inclusive => cases inclusive <;> rfl
          | upper inclusive => cases inclusive <;> rfl
      | lowerBounded =>
          cases side with
          | lower inclusive => cases inclusive <;> rfl
          | upper inclusive => cases accepted
      | upperBounded =>
          cases side with
          | upper inclusive => cases inclusive <;> rfl
          | lower inclusive => cases accepted

section

variable {start : Start} {lower upper : Option (Bound Value)} {call : Call}

/-- What is left of a range when its lower side gets a bound. -/
theorem on_open_lower (s : Session) (side : call.side.isLower = true) :
    (call.on (stage start none upper)).run s =
      match call.bound? with
      | none => (.error (.invalid "lower" call.value (.expectedBound call.value.kind)), s)
      | some b =>
        (if agree (some b) upper then .ok (stage start (some b) upper)
          else .error (.invalid "range" (.tuple [.ofBound (some b), .ofBound upper]) .mixedBounds),
          s) := by
  have ran : (call.on (stage start none upper)).run s =
      ((build (if upper.isSome then .complete else .lowerBounded) (.ofPath start.path)
        (boundValue call.value call.side.inclusive) (.ofBound upper)
        (.ofScore start.score)).map .ofOperator, s) := by
    obtain ⟨side | side, v⟩ := call
    · cases upper with
      | none => exact on_start start _ s
      | some high => exact on_range .upperBounded start.path none (some high) start.score _ s
    · cases side
  rw [ran]
  cases found : call.bound? with
  | none => rw [build_refused_lower found]; rfl
  | some b =>
      rw [boundValue_eq found, build_ofBound _ (.inl (Option.some_ne_none b))]
      dsimp only
      cases agree (some b) upper with
      | false => rfl
      | true => cases upper <;> rfl

/-- What is left of a range when its upper side gets a bound. -/
theorem on_open_upper (s : Session) (side : call.side.isLower = false) :
    (call.on (stage start lower none)).run s =
      match call.bound? with
      | none => (.error (.invalid "upper" call.value (.expectedBound call.value.kind)), s)
      | some b =>
        (if agree lower (some b) then .ok (stage start lower (some b))
          else .error (.invalid "range" (.tuple [.ofBound lower, .ofBound (some b)]) .mixedBounds),
          s) := by
  have ran : (call.on (stage start lower none)).run s =
      ((build (if lower.isSome then .complete else .upperBounded) (.ofPath start.path)
        (.ofBound lower) (boundValue call.value call.side.inclusive)
        (.ofScore start.score)).map .ofOperator, s) := by
    obtain ⟨side | side, v⟩ := call
    · cases side
    · cases lower with
      | none => exact on_start start _ s
      | some low => exact on_range .lowerBounded start.path (some low) none start.score _ s
  rw [ran]
  cases found : call.bound? with
  | none => rw [build_refused_upper found]; rfl
  | some b =>
      rw [boundValue_eq found, build_ofBound _ (.inr (Option.some_ne_none b))]
      dsimp only
      cases agree lower (some b) with
      | false => rfl
      | true => cases lower <;> rfl

/-- A side that has a bound has no method any more. -/
theorem on_closed (s : Session)
    (closed : (if call.side.isLower then lower else upper).isSome = true) :
    (call.on (stage start lower upper)).run s =
      (.error (.noAttribute (.absent (stage start lower upper).kind call.side.method)), s) := by
  obtain ⟨side | side, v⟩ := call
  · cases lower with
    | none => cases closed
    | some low =>
        cases upper with
        | none => exact on_range .lowerBounded start.path (some low) none start.score _ s
        | some high => exact on_range .complete start.path (some low) (some high) start.score _ s
  · cases upper with
    | none => cases closed
    | some high =>
        cases lower with
        | none => exact on_range .upperBounded start.path none (some high) start.score _ s
        | some low => exact on_range .complete start.path (some low) (some high) start.score _ s

end

/-! ## Calls that are accepted together -/

theorem bound?_isSome (call : Call) :
    call.bound?.isSome = true ↔ call.value.isNumber = true ∨ call.value.isDate = true := by
  obtain ⟨side, v⟩ := call
  cases v <;> simp [Call.bound?, Value.isNumber, Value.asNumber?, Value.isDate]

theorem agree_iff {a b : Call} {x y : Bound Value} (first : a.bound? = some x)
    (second : b.bound? = some y) :
    agree (some x) (some y) = true ↔
      a.value.isNumber = true ∧ b.value.isNumber = true ∨
        a.value.isDate = true ∧ b.value.isDate = true := by
  obtain ⟨side, v⟩ := a
  obtain ⟨other, w⟩ := b
  cases v with
  | number n =>
      cases first
      cases w with
      | number m => cases second; simp [agree, Limit.sameKind, Value.isNumber, Value.asNumber?]
      | dateTime t =>
          cases second
          simp [agree, Limit.sameKind, Value.isNumber, Value.asNumber?, Value.isDate]
      | _ => cases second
  | dateTime t =>
      cases first
      cases w with
      | number m =>
          cases second
          simp [agree, Limit.sameKind, Value.isNumber, Value.asNumber?, Value.isDate]
      | dateTime t => cases second; simp [agree, Limit.sameKind, Value.isDate]
      | _ => cases second
  | _ => cases first

theorem agree_comm (x y : Bound Value) : agree (some x) (some y) = agree (some y) (some x) := by
  obtain ⟨limit, inclusive⟩ := x
  obtain ⟨other, taken⟩ := y
  cases limit <;> cases other <;> rfl

/-- One call is accepted when it sets a bound. -/
theorem accepted_one {a : Call} : Accepted [a] ↔ ∃ x, a.bound? = some x := by
  rw [← Option.isSome_iff_exists, bound?_isSome]
  rfl

/-- Two calls are accepted when they set bounds of one kind on different sides. -/
theorem accepted_two {a b : Call} :
    Accepted [a, b] ↔ a.side.isLower ≠ b.side.isLower ∧
      ∃ x y, a.bound? = some x ∧ b.bound? = some y ∧ agree (some x) (some y) = true := by
  constructor
  · rintro ⟨apart, alike⟩
    have set : ∀ c : Call, c.value.isNumber = true ∨ c.value.isDate = true →
        ∃ x, c.bound? = some x :=
      fun c held => Option.isSome_iff_exists.mp ((bound?_isSome c).mpr held)
    obtain ⟨x, first⟩ := set a (alike.imp And.left And.left)
    obtain ⟨y, second⟩ := set b (alike.imp And.right And.right)
    exact ⟨apart, x, y, first, second, (agree_iff first second).mpr alike⟩
  · rintro ⟨apart, x, y, first, second, agreed⟩
    exact ⟨apart, (agree_iff first second).mp agreed⟩

/-- Calls are accepted only after calls that are. -/
theorem Accepted.of_append {before after : List Call} (accepted : Accepted (before ++ after)) :
    Accepted before := by
  match before, after with
  | [], _ => trivial
  | [a], [] => exact accepted
  | [a], [b] =>
      obtain ⟨-, x, y, first, -⟩ := accepted_two.mp accepted
      exact accepted_one.mpr ⟨x, first⟩
  | [a], _ :: _ :: _ => exact accepted.elim
  | [a, b], [] => exact accepted
  | [a, b], _ :: _ => exact accepted.elim
  | _ :: _ :: _ :: _, _ => exact accepted.elim

/-- One more call after accepted ones is accepted with them and adds its bound, or it is
refused; the session stays as it is. -/
def Continues (start : Start) (before : List Call) (call : Call) (s : Session) : Prop :=
  Accepted (before ++ [call]) ∧
      (call.on (reached start before)).run s = (.ok (reached start (before ++ [call])), s) ∨
    ¬ Accepted (before ++ [call]) ∧
      (call.on (reached start before)).run s = (.error (refusal start before call), s)

section

variable {start : Start} {before : List Call} {call : Call} {s : Session}

/-- A call on the open lower side is accepted when its bound agrees with the upper one. -/
theorem continues_lower (side : call.side.isLower = true) (free : boundOn true before = none)
    (fresh : before.any (fun earlier => earlier.side.isLower == call.side.isLower) = false)
    (low : boundOn true (before ++ [call]) = call.bound?)
    (high : boundOn false (before ++ [call]) = boundOn false before)
    (accepts : Accepted (before ++ [call]) ↔
      ∃ b, call.bound? = some b ∧ agree (some b) (boundOn false before) = true) :
    Continues start before call s := by
  have ran : (call.on (stage start none (boundOn false before))).run s = _ := on_open_lower s side
  have argument : call.side.argument = "lower" := by
    cases same : call.side with
    | lower => rfl
    | upper =>
        rw [same] at side
        cases side
  unfold Continues refusal reached
  rw [free, ran, accepts, fresh, low, high, argument]
  cases found : call.bound? with
  | none =>
      refine .inr ⟨?_, rfl⟩
      rintro ⟨b, set, -⟩
      cases set
  | some b =>
      dsimp only
      cases agreed : agree (some b) (boundOn false before) with
      | true => exact .inl ⟨⟨b, rfl, agreed⟩, rfl⟩
      | false =>
          refine .inr ⟨?_, rfl⟩
          rintro ⟨other, set, agrees⟩
          cases set
          rw [agreed] at agrees
          cases agrees

/-- A call on the open upper side is accepted when its bound agrees with the lower one. -/
theorem continues_upper (side : call.side.isLower = false) (free : boundOn false before = none)
    (fresh : before.any (fun earlier => earlier.side.isLower == call.side.isLower) = false)
    (low : boundOn true (before ++ [call]) = boundOn true before)
    (high : boundOn false (before ++ [call]) = call.bound?)
    (accepts : Accepted (before ++ [call]) ↔
      ∃ b, call.bound? = some b ∧ agree (boundOn true before) (some b) = true) :
    Continues start before call s := by
  have ran : (call.on (stage start (boundOn true before) none)).run s = _ := on_open_upper s side
  have argument : call.side.argument = "upper" := by
    cases same : call.side with
    | upper => rfl
    | lower =>
        rw [same] at side
        cases side
  unfold Continues refusal reached
  rw [free, ran, accepts, fresh, low, high, argument]
  cases found : call.bound? with
  | none =>
      refine .inr ⟨?_, rfl⟩
      rintro ⟨b, set, -⟩
      cases set
  | some b =>
      dsimp only
      cases agreed : agree (boundOn true before) (some b) with
      | true => exact .inl ⟨⟨b, rfl, agreed⟩, rfl⟩
      | false =>
          refine .inr ⟨?_, rfl⟩
          rintro ⟨other, set, agrees⟩
          cases set
          rw [agreed] at agrees
          cases agrees

/-- A call on a side that is set is refused: the method is gone. -/
theorem continues_closed
    (closed :
      (if call.side.isLower then boundOn true before else boundOn false before).isSome = true)
    (stale : before.any (fun earlier => earlier.side.isLower == call.side.isLower) = true)
    (rejects : ¬ Accepted (before ++ [call])) : Continues start before call s := by
  refine .inr ⟨rejects, ?_⟩
  have ran : (call.on (reached start before)).run s = _ := on_closed s closed
  unfold refusal
  rw [ran, stale]
  rfl

/-- What one more call does after accepted ones. -/
theorem Accepted.continues (accepted : Accepted before) : Continues start before call s := by
  match before, accepted with
  | [], _ =>
      obtain ⟨side | side, v⟩ := call
      · refine continues_lower rfl rfl rfl rfl rfl (accepted_one.trans ?_)
        exact ⟨fun ⟨b, set⟩ => ⟨b, set, rfl⟩, fun ⟨b, set, _⟩ => ⟨b, set⟩⟩
      · refine continues_upper rfl rfl rfl rfl rfl (accepted_one.trans ?_)
        exact ⟨fun ⟨b, set⟩ => ⟨b, set, rfl⟩, fun ⟨b, set, _⟩ => ⟨b, set⟩⟩
  | [a], accepted =>
      obtain ⟨x, set⟩ := accepted_one.mp accepted
      have held : a.bound?.isSome = true := by rw [set]; rfl
      by_cases same : a.side.isLower = call.side.isLower
      · have rejects : ¬ Accepted ([a] ++ [call]) :=
          fun both => (accepted_two.mp both).1 same
        obtain ⟨side | side, v⟩ := a
        · obtain ⟨other | other, w⟩ := call
          · exact continues_closed held rfl rejects
          · cases same
        · obtain ⟨other | other, w⟩ := call
          · cases same
          · exact continues_closed held rfl rejects
      · obtain ⟨side | side, v⟩ := a
        · obtain ⟨other | other, w⟩ := call
          · exact absurd rfl same
          · have low : boundOn true [⟨.lower side, v⟩] = some x := set
            refine continues_upper rfl rfl rfl rfl rfl (accepted_two.trans ?_)
            rw [low]
            constructor
            · rintro ⟨-, z, b, first, second, agreed⟩
              rw [set] at first
              cases first
              exact ⟨b, second, agreed⟩
            · rintro ⟨b, second, agreed⟩
              exact ⟨same, x, b, set, second, agreed⟩
        · obtain ⟨other | other, w⟩ := call
          · have high : boundOn false [⟨.upper side, v⟩] = some x := set
            refine continues_lower rfl rfl rfl rfl rfl (accepted_two.trans ?_)
            rw [high]
            constructor
            · rintro ⟨-, z, b, first, second, agreed⟩
              rw [set] at first
              cases first
              exact ⟨b, second, agree_comm b x ▸ agreed⟩
            · rintro ⟨b, second, agreed⟩
              exact ⟨same, x, b, set, second, agree_comm b x ▸ agreed⟩
          · exact absurd rfl same
  | [a, b], accepted =>
      obtain ⟨apart, x, y, first, second, -⟩ := accepted_two.mp accepted
      have one : a.bound?.isSome = true := by rw [first]; rfl
      have two : b.bound?.isSome = true := by rw [second]; rfl
      -- Each side is set, whichever came first.
      obtain ⟨side | side, v⟩ := a
      · obtain ⟨other | other, w⟩ := b
        · exact absurd rfl apart
        · obtain ⟨last | last, u⟩ := call
          · exact continues_closed one rfl id
          · exact continues_closed two rfl id
      · obtain ⟨other | other, w⟩ := b
        · obtain ⟨last | last, u⟩ := call
          · exact continues_closed two rfl id
          · exact continues_closed one rfl id
        · exact absurd rfl apart

end

/-! ## Runs -/

/-- A step goes on from what the step before it gives. -/
theorem run_bind {α β : Type} (first : Action α) (next : α → Action β) (s : Session) :
    (first >>= next).run s =
      match first.run s with
      | (.ok a, t) => (next a).run t
      | (.error fault, t) => (.error fault, t) := by
  have both : (first >>= next).run s =
      match first.run s with
      | (outcome, t) => ExceptT.bindCont next outcome t := rfl
  rw [both]
  rcases first.run s with ⟨fault | a, t⟩ <;> rfl

/-- What a run of calls does after accepted ones: all of them are accepted, or the first that is
not is refused. -/
theorem Accepted.run_reached {before : List Call} (accepted : Accepted before) (start : Start)
    (calls : List Call) (s : Session) :
    Accepted (before ++ calls) ∧
        (calls.foldlM Call.on (reached start before)).run s =
          (.ok (reached start (before ++ calls)), s) ∨
      ∃ earlier call later, calls = earlier ++ call :: later ∧ Accepted (before ++ earlier) ∧
        ¬ Accepted (before ++ earlier ++ [call]) ∧
        (calls.foldlM Call.on (reached start before)).run s =
          (.error (refusal start (before ++ earlier) call), s) := by
  induction calls generalizing before with
  | nil =>
      rw [List.append_nil]
      exact .inl ⟨accepted, rfl⟩
  | cons call rest ih =>
      have one : Continues start before call s := accepted.continues
      have shift : ∀ more, before ++ [call] ++ more = before ++ call :: more :=
        fun more => (List.append_cons before call more).symm
      rw [List.foldlM_cons, run_bind]
      rcases one with ⟨longer, ran⟩ | ⟨rejected, ran⟩
      · rw [ran]
        rcases ih longer with ⟨all, done⟩ | ⟨earlier, last, later, rfl, kept, rejected, stopped⟩
        · rw [shift] at all done
          exact .inl ⟨all, done⟩
        · rw [shift] at kept rejected stopped
          exact .inr ⟨call :: earlier, last, later, rfl, kept, rejected, stopped⟩
      · rw [ran]
        refine .inr ⟨[], call, rest, rfl, ?_, ?_, ?_⟩
        · rw [List.append_nil]
          exact accepted
        · rw [List.append_nil]
          exact rejected
        · rw [List.append_nil]

/-! ## What accepted calls lead to -/

section

variable {start : Start} {calls : List Call}

theorem Accepted.sets (accepted : Accepted calls) {call : Call} (held : call ∈ calls) :
    ∃ x, call.bound? = some x := by
  match calls, accepted with
  | [a], accepted =>
      rw [List.mem_singleton.mp held]
      exact accepted_one.mp accepted
  | [a, b], accepted =>
      obtain ⟨-, x, y, first, second, -⟩ := accepted_two.mp accepted
      rcases List.mem_cons.mp held with rfl | later
      · exact ⟨x, first⟩
      · rw [List.mem_singleton.mp later]
        exact ⟨y, second⟩

/-- Accepted calls have at most one on each side. -/
theorem Accepted.filter_eq (accepted : Accepted calls) (lower : Bool) :
    calls.filter (fun call => call.side.isLower == lower) =
      (calls.find? (fun call => call.side.isLower == lower)).toList := by
  match calls, accepted with
  | [], _ => rfl
  | [a], _ => cases same : a.side.isLower == lower <;> simp [same]
  | [a, b], accepted =>
      have apart := (accepted_two.mp accepted).1
      cases first : a.side.isLower <;> cases second : b.side.isLower <;> cases lower <;>
        simp_all

/-- The entries of the bounds on a side are those of the calls that set them. -/
theorem Accepted.entries (accepted : Accepted calls) {lower : Bool}
    {write : Bound Value → String × Value}
    (one : ∀ (call : Call) (x : Bound Value), call.side.isLower = lower →
      call.bound? = some x → write x = call.entry) :
    (boundOn lower calls).toList.map write =
      (calls.filter (fun call => call.side.isLower == lower)).map Call.entry := by
  rw [accepted.filter_eq lower, boundOn]
  cases found : calls.find? (fun call => call.side.isLower == lower) with
  | none => rfl
  | some call =>
      obtain ⟨x, set⟩ := accepted.sets (List.mem_of_find?_eq_some found)
      have same := List.find?_some found
      have side : call.side.isLower = lower := eq_of_beq same
      rw [Option.bind_some, set]
      exact congrArg (fun entry => [entry]) (one call x side set)

theorem lowerEntry_eq (call : Call) (x : Bound Value) (side : call.side.isLower = true)
    (set : call.bound? = some x) : x.lowerEntry = call.entry := by
  obtain ⟨lower | upper, v⟩ := call
  · cases v with
    | number n => cases set; cases lower <;> rfl
    | dateTime t => cases set; cases lower <;> rfl
    | _ => cases set
  · cases side

theorem upperEntry_eq (call : Call) (x : Bound Value) (side : call.side.isLower = false)
    (set : call.bound? = some x) : x.upperEntry = call.entry := by
  obtain ⟨lower | upper, v⟩ := call
  · cases side
  · cases v with
    | number n => cases set; cases upper <;> rfl
    | dateTime t => cases set; cases upper <;> rfl
    | _ => cases set

/-- Accepted calls, at least one, lead to a range with the bounds that they set. -/
theorem Accepted.reached_eq (accepted : Accepted calls) (some : calls ≠ []) :
    ∃ form, reached start calls = .ofOperator
      (.range form start.path (boundOn true calls) (boundOn false calls) start.score) := by
  have ranges : ∀ lower upper, lower ≠ none ∨ upper ≠ none → ∃ form,
      stage start lower upper = .ofOperator (.range form start.path lower upper start.score) := by
    intro lower upper given
    cases lower with
    | none =>
        cases upper with
        | none => exact absurd rfl (given.elim id id)
        | some high => exact ⟨_, rfl⟩
    | some low => cases upper <;> exact ⟨_, rfl⟩
  apply ranges
  obtain ⟨call, rest, rfl⟩ := List.exists_cons_of_ne_nil some
  obtain ⟨x, set⟩ := accepted.sets List.mem_cons_self
  cases side : call.side.isLower with
  | true =>
      left
      rw [boundOn, List.find?_cons_of_pos (by rw [side]; rfl), Option.bind_some, set]
      exact Option.some_ne_none x
  | false =>
      right
      rw [boundOn, List.find?_cons_of_pos (by rw [side]; rfl), Option.bind_some, set]
      exact Option.some_ne_none x

end

/-- The document of the range that calls on a start lead to: the path, the lower bound, the
upper bound and the score, each bound under the method that set it. -/
def Documented (resolve : Resolver) (start : Start) (calls : List Call) (v : Value) : Prop :=
  ∃ name last, start.path.render resolve = .ok name ∧ Score.Written resolve start.score last ∧
    v = .object [("range", .object (("path", name) ::
      ((calls.filter (fun call => call.side.isLower == true)).map Call.entry ++
        (calls.filter (fun call => call.side.isLower == false)).map Call.entry ++
        Slot.present [("score", last)])))]

theorem render_range_eq_ok {resolve : Resolver} {form : RangeForm} {p : Path}
    {lower upper : Option (Bound Value)} {score : Option Score} {v : Value} :
    (Operator.range form p lower upper score).render resolve = .ok v ↔
      ∃ name last, p.render resolve = .ok name ∧ Score.Written resolve score last ∧
        v = .object [("range", .object (("path", name) :: (lower.toList.map Bound.lowerEntry ++
          upper.toList.map Bound.upperEntry ++ Slot.present [("score", last)])))] := by
  constructor
  · intro written
    obtain ⟨name, found, more⟩ := Outcome.bind_eq_ok.mp written
    obtain ⟨entries, foundScore, made⟩ := Outcome.bind_eq_ok.mp more
    obtain ⟨last, scored, rfl⟩ := Score.entries_eq_ok foundScore
    exact ⟨name, last, found, scored, (Except.ok.inj made).symm⟩
  · rintro ⟨name, last, found, scored, rfl⟩
    exact Outcome.bind_eq_ok.mpr ⟨name, found,
      Outcome.bind_eq_ok.mpr ⟨_, Score.entries_of_written scored, rfl⟩⟩

/-- What accepted calls lead to is written with their values under their methods. -/
theorem Accepted.documented {start : Start} {calls : List Call} (accepted : Accepted calls)
    (some : calls ≠ []) : ∃ op, reached start calls = .ofOperator op ∧
      ∀ resolve v, op.render resolve = .ok v ↔ Documented resolve start calls v := by
  obtain ⟨form, made⟩ : ∃ form, reached start calls = .ofOperator
      (.range form start.path (boundOn true calls) (boundOn false calls) start.score) :=
    accepted.reached_eq some
  refine ⟨_, made, ?_⟩
  intro resolve v
  rw [render_range_eq_ok, accepted.entries lowerEntry_eq, accepted.entries upperEntry_eq]
  rfl

/-! ## The order of two calls -/

section

variable {start : Start} {a b : Call}

theorem accepted_swap (accepted : Accepted [a, b]) : Accepted [b, a] := by
  obtain ⟨apart, x, y, first, second, agreed⟩ := accepted_two.mp accepted
  exact accepted_two.mpr ⟨apart.symm, y, x, second, first, agree_comm x y ▸ agreed⟩

theorem reached_swap (accepted : Accepted [a, b]) :
    reached start [a, b] = reached start [b, a] := by
  have apart := (accepted_two.mp accepted).1
  obtain ⟨side | side, v⟩ := a
  · obtain ⟨other | other, w⟩ := b
    · exact absurd rfl apart
    · rfl
  · obtain ⟨other | other, w⟩ := b
    · rfl
    · exact absurd rfl apart

end

/-- What accepted calls lead to equals itself. -/
theorem Accepted.equal_self {start : Start} {calls : List Call} (accepted : Accepted calls)
    (some : calls ≠ []) : (reached start calls).equal (reached start calls) = true := by
  obtain ⟨form, made⟩ : ∃ form, reached start calls = .ofOperator
      (.range form start.path (boundOn true calls) (boundOn false calls) start.score) :=
    accepted.reached_eq some
  rw [made]
  exact Term.equal_of_alike (Term.alike_self _) rfl

/-! ## The staged interface -/

section

variable (start : Start) {calls : List Call}

theorem Accepted.run_eq (accepted : Accepted calls) (s : Session) :
    (run start calls).run s = (.ok (reached start calls), s) := by
  have began : Accepted [] := trivial
  rcases began.run_reached start calls s with ⟨-, ran⟩ | ⟨before, call, after, rfl, -, rejected, -⟩
  · exact ran
  · rw [List.append_cons] at accepted
    exact absurd accepted.of_append rejected

theorem run_refused (rejected : ¬ Accepted calls) (s : Session) :
    ∃ before call after, calls = before ++ call :: after ∧ Accepted before ∧
      ¬ Accepted (before ++ [call]) ∧
      (run start calls).run s = (.error (refusal start before call), s) := by
  have began : Accepted [] := trivial
  rcases began.run_reached start calls s with ⟨accepted, -⟩ | stopped
  · exact absurd accepted rejected
  · exact stopped

/-- A run gives something exactly when its calls are accepted. -/
theorem run_eq_ok (s : Session) :
    (∃ v, (run start calls).run s = (.ok v, s)) ↔ Accepted calls := by
  constructor
  · rintro ⟨v, ran⟩
    by_contra rejected
    obtain ⟨before, call, after, -, -, -, stopped⟩ := run_refused start rejected s
    rw [ran] at stopped
    cases stopped
  · intro accepted
    exact ⟨_, accepted.run_eq start s⟩

end

/-- Calls of bound methods on the start of a range succeed together exactly when they are at
most two, on different sides, with numbers only or with date-times only; otherwise the first
call that is too much is refused, for the method that its side has no longer, for its value, or
for the kinds that do not go together.  What accepted calls lead to is written with every value
under the method that was given it, the lower bound first, and two calls lead to the same range
in either order or fail in both. -/
theorem staged (start : Start) :
    make (.ofPath start.path) (.ofScore start.score) = .ok start ∧
    (∀ (calls : List Call) (s : Session),
      (∃ v, (run start calls).run s = (.ok v, s)) ↔ Accepted calls) ∧
    (∀ (calls : List Call) (s : Session), Accepted calls →
      (run start calls).run s = (.ok (reached start calls), s)) ∧
    (∀ (calls : List Call) (s : Session), ¬ Accepted calls →
      ∃ before call after, calls = before ++ call :: after ∧ Accepted before ∧
        ¬ Accepted (before ++ [call]) ∧
        (run start calls).run s = (.error (refusal start before call), s)) ∧
    (∀ calls : List Call, Accepted calls → calls ≠ [] →
      ∃ op, reached start calls = .ofOperator op ∧
        ∀ resolve v, op.render resolve = .ok v ↔ Documented resolve start calls v) ∧
    ∀ (a b : Call) (s : Session),
      (∃ v w, (run start [a, b]).run s = (.ok v, s) ∧ (run start [b, a]).run s = (.ok w, s) ∧
        v = w ∧ v.equal w = true) ∨
      ∃ f g, (run start [a, b]).run s = (.error f, s) ∧
        (run start [b, a]).run s = (.error g, s) := by
  refine ⟨?_, fun _ s => run_eq_ok start s, fun _ s accepted => accepted.run_eq start s,
    fun _ s rejected => run_refused start rejected s,
    fun _ accepted some => accepted.documented some, ?_⟩
  · obtain ⟨path, score⟩ := start
    cases score <;> rfl
  · intro a b s
    by_cases accepted : Accepted [a, b]
    · left
      have other : (run start [b, a]).run s = _ := (accepted_swap accepted).run_eq start s
      refine ⟨_, _, accepted.run_eq start s, other, reached_swap accepted, ?_⟩
      rw [← reached_swap accepted]
      exact accepted.equal_self (List.cons_ne_nil a [b])
    · right
      have other : ¬ Accepted [b, a] := fun swapped => accepted (accepted_swap swapped)
      obtain ⟨_, _, _, -, -, -, first⟩ := run_refused start accepted s
      obtain ⟨_, _, _, -, -, -, second⟩ := run_refused start other s
      exact ⟨_, _, first, second⟩

/-- A half-open range from two bounds, and a second lower bound that finds no method. -/
theorem staged_ages :
    let start : Start := ⟨.single (.name (.plain "age")), none⟩
    let adult : Call := ⟨.lower true, .int 18⟩
    let s := Session.start .empty .bare
    (run start [adult, ⟨.upper false, .int 65⟩]).run s =
        (.ok (reached start [adult, ⟨.upper false, .int 65⟩]), s) ∧
      ¬ Accepted [adult, adult] := by
  intro start adult s
  have ages : Accepted [adult, ⟨.upper false, .int 65⟩] := ⟨nofun, .inl ⟨rfl, rfl⟩⟩
  refine ⟨(staged start).2.2.1 _ s ages, ?_⟩
  rintro ⟨apart, -⟩
  exact apart rfl

end Range

end SearchQuery
