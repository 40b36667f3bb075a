import Mathlib.Data.List.Chain
import SearchQuery.Proofs.NumericDomains

/-!
# Boundaries of facets

Only neighbours are compared when boundaries are checked, and a pair is refused
when it is known not to increase.  For date-times this orders the whole list,
since comparing is transitive and the kind of the first is handed on to the
last.  For numbers it orders every block of the list that holds no NaN: one
that stands between two blocks is accepted, and leaves them unrelated.
-/

namespace SearchQuery

open Outcome (FailsAs)

/-- Being less is transitive, and nothing is less than a NaN or more than one. -/
theorem Extended.lt_trans {a b c : Extended} (first : a.lt b = true) (second : b.lt c = true) :
    a.lt c = true := by
  cases a <;> cases b <;> cases c
  case finite.finite.finite p q r =>
    simp only [lt, decide_eq_true_eq] at *
    exact Std.lt_trans first second
  all_goals simp_all [lt]

namespace Number

theorem not_isNan_of_lt {low high : Number} (below : low.lt high = true) :
    ¬ low.IsNan ∧ ¬ high.IsNan := by
  constructor
  · intro nan
    rw [lt_nan_left nan] at below
    cases below
  · intro nan
    rw [lt_nan_right nan] at below
    cases below

end Number

namespace DateTime

/-- Earlier by the wall clock when no offset is known, and by universal time
when both are. -/
def Earlier (a b : DateTime) : Prop :=
  match a.offset, b.offset with
  | none, none => a.wall < b.wall
  | some x, some y => a.wall - x < b.wall - y
  | _, _ => False

theorem earlier_iff {a b : DateTime} :
    a.Earlier b ↔ a.comparable b = true ∧ a.before b = true := by
  unfold Earlier comparable isAware before instant
  cases a.offset <;> cases b.offset <;> simp

theorem Earlier.trans {a b c : DateTime} (first : a.Earlier b) (second : b.Earlier c) :
    a.Earlier c := by
  rw [earlier_iff] at *
  refine ⟨?_, before_trans first.2 second.2⟩
  unfold comparable at *
  rw [beq_iff_eq] at *
  exact first.1.trans second.1

/-- What is earlier than a date-time has an offset exactly when that one has. -/
theorem Earlier.offset_iff {a b : DateTime} (earlier : a.Earlier b) :
    a.offset = none ↔ b.offset = none := by
  unfold Earlier at earlier
  split at earlier
  · simp_all
  · simp_all
  · exact earlier.elim

/-- Either no date-time of a list has an offset, or every one has. -/
def Alike (ts : List DateTime) : Prop :=
  (∀ t ∈ ts, t.offset = none) ∨ ∀ t ∈ ts, t.offset ≠ none

/-- Date-times that follow each other in time are of one kind. -/
theorem alike_of_earlier {ts : List DateTime} (rising : ts.Pairwise Earlier) : Alike ts := by
  cases rising with
  | nil => exact .inl (fun t held => absurd held List.not_mem_nil)
  | @cons first rest later _ =>
      by_cases naive : first.offset = none
      · refine .inl (List.forall_mem_cons.mpr ⟨naive, fun t held => ?_⟩)
        exact (later t held).offset_iff.mp naive
      · refine .inr (List.forall_mem_cons.mpr ⟨naive, fun t held none => naive ?_⟩)
        exact (later t held).offset_iff.mpr none

end DateTime

namespace Facet

/-! ## What the scan of neighbours says of a list -/

/-- Every block of numbers without a NaN is strictly increasing. -/
def Climbs (xs : List Number) : Prop :=
  ∀ block, block <:+: xs → (∀ x ∈ block, ¬ x.IsNan) → block.Pairwise (fun a b => a.lt b = true)

/-- Values that are at least two numbers, each one strictly less than every later one. -/
def Ascending (items : List Value) : Prop :=
  ∃ xs : List Number, items = xs.map .number ∧ 2 ≤ xs.length ∧
    xs.Pairwise (fun low high => low.lt high = true)

theorem numbers_ordered_iff {xs : List Number} :
    firstDisorder (fun _ _ => true) (fun low high => Number.le high low) xs = none ↔
      Climbs xs := by
  rw [firstDisorder_eq_none]
  constructor
  · intro chain block within proper
    have inner := List.IsChain.infix chain within
    have ordered := inner.imp_of_mem_imp (fun low high here there both =>
      (Number.le_eq_false_iff.mp both.2).resolve_right
        (not_or.mpr ⟨proper low here, proper high there⟩))
    have _ : IsTrans Number (fun a b => a.lt b = true) := ⟨fun _ _ _ => Extended.lt_trans⟩
    exact List.isChain_iff_pairwise.mp ordered
  · intro climbs
    rw [List.isChain_iff_forall_rel_of_append_cons_cons]
    rintro low high before after rfl
    refine ⟨rfl, Number.le_eq_false_iff.mpr ?_⟩
    by_cases proper : low.IsNan ∨ high.IsNan
    · exact .inr proper
    · obtain ⟨first, second⟩ := not_or.mp proper
      have within : [low, high] <:+: before ++ low :: high :: after :=
        ⟨before, after, by simp⟩
      have pair := climbs _ within (by simp [first, second])
      exact .inl (List.rel_of_pairwise_cons pair List.mem_cons_self)

theorem dates_ordered_iff {ts : List DateTime} :
    firstDisorder DateTime.comparable (fun low high => !low.before high) ts = none ↔
      ts.Pairwise DateTime.Earlier := by
  have _ : IsTrans DateTime DateTime.Earlier := ⟨fun _ _ _ => DateTime.Earlier.trans⟩
  rw [firstDisorder_eq_none, ← List.isChain_iff_pairwise]
  have same : (fun low high : DateTime => low.comparable high = true ∧
      (!low.before high) = false) = DateTime.Earlier := by
    funext low high
    rw [Bool.not_eq_false', ← DateTime.earlier_iff]
  rw [same]

/-- Numbers that climb and hold no NaN increase from each one to every later one. -/
theorem Climbs.pairwise {xs : List Number} (climbs : Climbs xs) (proper : ∀ x ∈ xs, ¬ x.IsNan) :
    xs.Pairwise (fun a b => a.lt b = true) :=
  climbs xs List.infix_rfl proper

theorem climbs_of_pairwise {xs : List Number} (rising : xs.Pairwise (fun a b => a.lt b = true)) :
    Climbs xs :=
  fun _ within _ => rising.sublist within.sublist

/-- In at least two numbers that increase throughout there is no NaN. -/
theorem not_isNan_of_pairwise {xs : List Number} (several : 2 ≤ xs.length)
    (rising : xs.Pairwise (fun a b => a.lt b = true)) : ∀ x ∈ xs, ¬ x.IsNan := by
  match xs, several, rising with
  | first :: second :: rest, _, rising =>
      have above := (List.pairwise_cons.mp rising).1
      refine List.forall_mem_cons.mpr ⟨(Number.not_isNan_of_lt (above _ List.mem_cons_self)).1, ?_⟩
      intro x held
      exact (Number.not_isNan_of_lt (above x held)).2

/-! ## What is accepted -/

section

variable {α : Type} {facet : String} {select : Value → Option α} {wrap : α → Value}
  {items : List Value} {found : List α}

/-- The boundaries of a tuple are the values in it, when they are at least two of the right kind. -/
theorem boundaries_tuple_eq_ok (one : ∀ v a, select v = some a ↔ v = wrap a) :
    boundaries facet select (.tuple items) = .ok found ↔
      items = found.map wrap ∧ 2 ≤ items.length := by
  constructor
  · intro passed
    obtain ⟨same, enough⟩ := boundaries_eq_ok (fun v a => (one v a).mp) passed
    cases same
    exact ⟨rfl, by simpa using enough⟩
  · rintro ⟨rfl, enough⟩
    refine Outcome.bind_eq_ok.mpr ⟨found.map wrap, rfl, ?_⟩
    dsimp only
    rw [if_neg (by omega)]
    refine Guard.each_eq_ok.mpr ?_
    rw [List.forall₂_map_left_iff, List.forall₂_same]
    intro a _
    rw [(one _ a).mpr rfl]

/-- A fault that reports boundaries. -/
def AboutBoundaries (fault : Fault Value) : Prop :=
  ∃ v reason, fault = .invalid "boundaries" v reason

theorem boundaries_fails :
    FailsAs AboutBoundaries (boundaries facet select (.tuple items)) := by
  refine .bind (.ok items) (fun kept _ => ?_)
  dsimp only
  split
  · exact .error ⟨_, _, rfl⟩
  · refine Guard.each_fails (fun item => ?_) kept
    split
    · exact .ok _
    · exact .error ⟨_, _, rfl⟩

/-- What is made of the values of a tuple when the scan finds no fault in them. -/
def ofScanned (facet : String) (select : Value → Option α) (scan : List α → Option Reason)
    (make : List α → Facet) (items : List Value) : Checked Facet := do
  let found ← boundaries facet select (.tuple items)
  match scan found with
  | some reason => throw (.invalid "boundaries" (.tuple items) reason)
  | none => return make found

variable {scan : List α → Option Reason} {make : List α → Facet} {f : Facet}

theorem ofScanned_eq_ok (one : ∀ v a, select v = some a ↔ v = wrap a) :
    ofScanned facet select scan make items = .ok f ↔
      ∃ found, items = found.map wrap ∧ 2 ≤ found.length ∧ scan found = none ∧ f = make found := by
  unfold ofScanned
  rw [Outcome.bind_eq_ok]
  constructor
  · rintro ⟨found, passed, more⟩
    obtain ⟨rfl, enough⟩ := (boundaries_tuple_eq_ok one).mp passed
    split at more
    · cases more
    · rename_i ordered
      cases more
      exact ⟨found, rfl, by simpa using enough, ordered, rfl⟩
  · rintro ⟨found, rfl, enough, ordered, rfl⟩
    refine ⟨found, (boundaries_tuple_eq_ok one).mpr ⟨rfl, by simpa using enough⟩, ?_⟩
    rw [ordered]
    rfl

theorem ofScanned_fails : FailsAs AboutBoundaries (ofScanned facet select scan make items) := by
  refine .bind boundaries_fails (fun found _ => ?_)
  split
  · exact .error ⟨_, _, rfl⟩
  · exact .ok _

/-- What is not made is reported for its boundaries. -/
theorem reported_of_not_made {outcome : Checked Facet} (fails : FailsAs AboutBoundaries outcome)
    (refused : ¬ ∃ f, outcome = .ok f) : ∃ v reason, outcome = .error (.invalid "boundaries" v reason) := by
  cases found : outcome with
  | ok f => exact absurd ⟨f, found⟩ refused
  | error fault =>
      obtain ⟨v, reason, rfl⟩ := fails fault found
      exact ⟨v, reason, rfl⟩

end

section

variable {name path bounds outside : Value} {n : Words} {p : Path} {o : Option Words}
  {items : List Value}

theorem makeNumbers_eq (named : Guard.text "name" name = .ok n) (led : Path.coerce path = .ok p)
    (gathered : bounds.toItems = .ok items) (closed : outsideName outside = .ok o) :
    makeNumbers name path bounds outside = ofScanned "number" Value.asNumber?
      (firstDisorder (fun _ _ => true) (fun low high => Number.le high low))
      (fun xs => .number n p xs o) items := by
  unfold makeNumbers ofNumbers ofScanned
  rw [led, gathered, named, closed]
  rfl

def dateTime? : Value → Option DateTime
  | .dateTime t => some t
  | _ => none

theorem dateTime?_eq_some {v : Value} {t : DateTime} : dateTime? v = some t ↔ v = .dateTime t := by
  cases v <;> simp [dateTime?]

theorem makeDates_eq (named : Guard.text "name" name = .ok n) (led : Path.coerce path = .ok p)
    (gathered : bounds.toItems = .ok items) (closed : outsideName outside = .ok o) :
    makeDates name path bounds outside = ofScanned "date" dateTime?
      (firstDisorder DateTime.comparable (fun low high => !low.before high))
      (fun ts => .date n p ts o) items := by
  unfold makeDates ofDates ofScanned
  rw [led, gathered, named, closed]
  rfl

/-- Boundaries of numbers are accepted exactly when they are at least two numbers and each block of
them without a NaN increases; so they increase throughout exactly when they are accepted and hold no
NaN.  They are written as they are given, and others are reported. -/
theorem numbers_accepted_iff (named : Guard.text "name" name = .ok n)
    (led : Path.coerce path = .ok p) (gathered : bounds.toItems = .ok items)
    (closed : outsideName outside = .ok o) :
    (Ascending items ↔ (∃ f, makeNumbers name path bounds outside = .ok f) ∧
      ∀ x, .number x ∈ items → ¬ x.IsNan) ∧
    (∀ f, makeNumbers name path bounds outside = .ok f ↔
      ∃ xs, items = xs.map .number ∧ 2 ≤ xs.length ∧ Climbs xs ∧ f = .number n p xs o) ∧
    ((¬ ∃ f, makeNumbers name path bounds outside = .ok f) →
      ∃ v reason, makeNumbers name path bounds outside =
        .error (.invalid "boundaries" v reason)) ∧
    ∀ f resolve, makeNumbers name path bounds outside = .ok f →
      f.render resolve = (p.render resolve).map (fun written => .object
        ([("type", .text "number"), ("path", written), ("boundaries", .list items)] ++
          optionalEntry "default" .ofWords o)) := by
  have accepts : ∀ f, makeNumbers name path bounds outside = .ok f ↔
      ∃ xs, items = xs.map .number ∧ 2 ≤ xs.length ∧ Climbs xs ∧ f = .number n p xs o := by
    intro f
    rw [makeNumbers_eq named led gathered closed,
      ofScanned_eq_ok (fun _ _ => Value.asNumber?_eq_some)]
    simp only [numbers_ordered_iff]
  have fails : FailsAs AboutBoundaries (makeNumbers name path bounds outside) := by
    rw [makeNumbers_eq named led gathered closed]
    exact ofScanned_fails
  refine ⟨⟨?_, ?_⟩, accepts, reported_of_not_made fails, ?_⟩
  · rintro ⟨xs, rfl, enough, rising⟩
    refine ⟨⟨_, (accepts _).mpr ⟨xs, rfl, enough, climbs_of_pairwise rising, rfl⟩⟩, ?_⟩
    intro x held
    obtain ⟨y, among, same⟩ := List.mem_map.mp held
    cases same
    exact not_isNan_of_pairwise enough rising _ among
  · rintro ⟨⟨f, made⟩, proper⟩
    obtain ⟨xs, rfl, enough, climbs, -⟩ := (accepts f).mp made
    exact ⟨xs, rfl, enough, climbs.pairwise (fun x held => proper x (List.mem_map_of_mem held))⟩
  · intro f resolve made
    obtain ⟨xs, rfl, -, -, rfl⟩ := (accepts f).mp made
    show (p.render resolve >>= _) = _
    cases p.render resolve <;> rfl

/-- One, two as a 64-bit integer and three as a double increase, so they are accepted. -/
theorem mixed_numbers_accepted :
    (∃ f, makeNumbers (.text "n") (.text "x")
      (.list [.int 1, .whole (.long 2), .number (.double (.finite false 3))]) .null = .ok f) ∧
      ∃ v reason, makeNumbers (.text "n") (.text "x") (.list [.int 1, .bool true]) .null =
        .error (.invalid "boundaries" v reason) := by
  constructor
  · have rising : Ascending [.int 1, .whole (.long 2), .number (.double (.finite false 3))] :=
      ⟨[.int 1, .whole (.long 2), .double (.finite false 3)], rfl, by decide, by decide⟩
    exact ((numbers_accepted_iff rfl rfl rfl rfl).1.mp rising).1
  · obtain ⟨-, accepts, reports, -⟩ := @numbers_accepted_iff (.text "n") (.text "x")
      (.list [.int 1, .bool true]) .null _ _ _ _ rfl rfl rfl rfl
    refine reports ?_
    rintro ⟨f, made⟩
    obtain ⟨xs, same, -⟩ := (accepts f).mp made
    have flag : Value.bool true ∈ xs.map Value.number := by
      rw [← same]
      exact List.mem_cons_of_mem _ List.mem_cons_self
    obtain ⟨x, -, other⟩ := List.mem_map.mp flag
    cases other

/-- Two, NaN and one are accepted as boundaries, although the last is less than the first. -/
theorem broken_numbers_accepted :
    (∃ f, makeNumbers (.text "n") (.text "x")
      (.list [.int 2, .number (.double (.nan 0)), .int 1]) .null = .ok f) ∧
      ¬ Ascending [.int 2, .number (.double (.nan 0)), .int 1] := by
  refine ⟨⟨_, rfl⟩, ?_⟩
  rintro ⟨xs, same, -, rising⟩
  have known : xs = [.int 2, .double (.nan 0), .int 1] :=
    List.map_injective_iff.mpr (fun _ _ => Value.number.inj) same.symm
  rw [known] at rising
  exact absurd rising (by decide)

/-- Boundaries in time are accepted exactly when they are at least two, all with an offset or all
without, and each is earlier than every later one; others are reported. -/
theorem dates_accepted_iff {ts : List DateTime} (named : Guard.text "name" name = .ok n)
    (led : Path.coerce path = .ok p) (gathered : bounds.toItems = .ok (ts.map .dateTime))
    (closed : outsideName outside = .ok o) :
    (∀ f, makeDates name path bounds outside = .ok f ↔
      (2 ≤ ts.length ∧ DateTime.Alike ts ∧ ts.Pairwise DateTime.Earlier) ∧ f = .date n p ts o) ∧
    (¬ (2 ≤ ts.length ∧ DateTime.Alike ts ∧ ts.Pairwise DateTime.Earlier) →
      ∃ v reason, makeDates name path bounds outside =
        .error (.invalid "boundaries" v reason)) := by
  have accepts : ∀ f, makeDates name path bounds outside = .ok f ↔
      (2 ≤ ts.length ∧ DateTime.Alike ts ∧ ts.Pairwise DateTime.Earlier) ∧ f = .date n p ts o := by
    intro f
    rw [makeDates_eq named led gathered closed, ofScanned_eq_ok (fun _ _ => dateTime?_eq_some)]
    simp only [dates_ordered_iff]
    constructor
    · rintro ⟨found, same, enough, rising, rfl⟩
      cases List.map_injective_iff.mpr (fun _ _ => Value.dateTime.inj) same
      exact ⟨⟨enough, DateTime.alike_of_earlier rising, rising⟩, rfl⟩
    · rintro ⟨⟨enough, -, rising⟩, rfl⟩
      exact ⟨ts, rfl, enough, rising, rfl⟩
  have fails : FailsAs AboutBoundaries (makeDates name path bounds outside) := by
    rw [makeDates_eq named led gathered closed]
    exact ofScanned_fails
  refine ⟨accepts, fun disordered => reported_of_not_made fails ?_⟩
  rintro ⟨f, made⟩
  exact disordered ((accepts f).mp made).1

/-- The first of January 2000 at midnight, with an offset or without one. -/
def newYear (offset : Option Int) : DateTime :=
  ⟨⟨2000, 1, 1⟩, 0, 0, 0, 0, offset⟩

/-- Midnight is earlier in the east than in Greenwich, and compares with no midnight that lacks an
offset. -/
theorem midnights_accepted :
    makeDates (.text "n") (.text "x")
      (.tuple [.dateTime (newYear (some 19800000000)), .dateTime (newYear (some 0))]) .null =
        .ok (.date (.plain "n") (.single (.name "x"))
          [newYear (some 19800000000), newYear (some 0)] none) ∧
      ∃ v reason, makeDates (.text "n") (.text "x")
        (.tuple [.dateTime (newYear none), .dateTime (newYear (some 0))]) .null =
          .error (.invalid "boundaries" v reason) := by
  constructor
  · refine ((@dates_accepted_iff _ _ _ _ _ _ _ [newYear (some 19800000000), newYear (some 0)]
      rfl rfl rfl rfl).1 _).mpr ⟨⟨by decide, ?_, ?_⟩, rfl⟩
    · right
      simp [newYear]
    · rw [List.pairwise_pair]
      show (_ : Int) < _
      decide
  · refine (@dates_accepted_iff _ _ _ _ _ _ _ [newYear none, newYear (some 0)]
      rfl rfl rfl rfl).2 ?_
    rintro ⟨-, -, rising⟩
    exact List.pairwise_pair.mp rising

end

end Facet

end SearchQuery
