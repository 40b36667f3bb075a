import Mathlib.Data.List.Forall2
import SearchQuery.Proofs.Outcome
import SearchQuery.Proofs.Admissible

/-!
# What constructors make

Guards let through what they say, so that what a constructor makes is
admissible.
-/

namespace SearchQuery

/-!
## What guards accept

Each guard is described by the values that it lets pass: a number guard passes
numbers, a range guard those in its range, and a guard for parts of definitions
passes the nodes of that part.
-/

namespace Extended

theorem le_finite (a b : Rat) : le (.finite a) (.finite b) = decide (a ≤ b) := by
  simp only [le, lt, same]
  rw [Bool.eq_iff_iff]
  simp only [Bool.or_eq_true, decide_eq_true_eq, beq_iff_eq]
  exact Rat.le_iff_lt_or_eq.symm

end Extended

namespace Number

/-- Integers compare as integers. -/
theorem le_int_right (w : Whole) (n : Int) :
    le (.whole w) (.int n) = decide (w.value ≤ n) := by
  rw [le, extended, extended, Extended.le_finite, Bool.eq_iff_iff, decide_eq_true_eq,
    decide_eq_true_eq]
  exact Rat.intCast_le_intCast

theorem le_int_left (n : Int) (w : Whole) :
    le (.int n) (.whole w) = decide (n ≤ w.value) := by
  rw [le, extended, extended, Extended.le_finite, Bool.eq_iff_iff, decide_eq_true_eq,
    decide_eq_true_eq]
  exact Rat.intCast_le_intCast

theorem lt_int_right (w : Whole) (n : Int) :
    lt (.whole w) (.int n) = decide (w.value < n) := by
  rw [lt, extended, extended, Extended.lt, Bool.eq_iff_iff, decide_eq_true_eq,
    decide_eq_true_eq]
  exact Rat.intCast_lt_intCast

end Number

namespace Value

theorem asNumber?_eq_some {v : Value} {x : Number} : v.asNumber? = some x ↔ v = .number x := by
  cases v <;> simp [asNumber?]

theorem asWhole?_eq_some {v : Value} {w : Whole} :
    v.asWhole? = some w ↔ v = .number (.whole w) := by
  unfold asWhole?
  split
  · simp
  · rename_i other
    constructor
    · intro impossible
      cases impossible
    · intro same
      exact absurd same (other w)

end Value

namespace Guard

variable {argument : String} {v : Value}

theorem notNull_eq_ok {w : Value} (passed : notNull argument v = .ok w) : w = v := by
  unfold notNull at passed
  split at passed
  · cases passed
  · exact (Except.ok.inj passed).symm

theorem number_eq_ok {x : Number} : number argument v = .ok x ↔ v = .number x := by
  rw [← Value.asNumber?_eq_some]
  unfold number
  cases v.asNumber? <;> simp

theorem integer_eq_ok {w : Whole} : integer argument v = .ok w ↔ v = .number (.whole w) := by
  rw [← Value.asWhole?_eq_some]
  unfold integer
  cases v.asWhole? <;> simp

theorem positive_eq_ok {x : Number} :
    positive argument v = .ok x ↔ v = .number x ∧ x.le (.int 0) = false := by
  unfold positive
  rw [Outcome.bind_eq_ok]
  constructor
  · rintro ⟨y, found, kept⟩
    cases below : y.le (.int 0) with
    | true =>
        rw [below] at kept
        cases kept
    | false =>
        rw [below] at kept
        cases kept
        exact ⟨number_eq_ok.mp found, below⟩
  · rintro ⟨same, above⟩
    refine ⟨x, number_eq_ok.mpr same, ?_⟩
    rw [above]
    rfl

theorem notNegative_eq_ok {x : Number} :
    notNegative argument v = .ok x ↔ v = .number x ∧ x.lt (.int 0) = false := by
  unfold notNegative
  rw [Outcome.bind_eq_ok]
  constructor
  · rintro ⟨y, found, kept⟩
    cases below : y.lt (.int 0) with
    | true =>
        rw [below] at kept
        cases kept
    | false =>
        rw [below] at kept
        cases kept
        exact ⟨number_eq_ok.mp found, below⟩
  · rintro ⟨same, above⟩
    refine ⟨x, number_eq_ok.mpr same, ?_⟩
    rw [above]
    rfl

theorem between_eq_ok {low high x : Number} :
    between low high argument v = .ok x ↔
      v = .number x ∧ low.le x = true ∧ x.le high = true := by
  unfold between
  rw [Outcome.bind_eq_ok]
  constructor
  · rintro ⟨y, found, kept⟩
    split at kept
    · rename_i inside
      cases kept
      exact ⟨number_eq_ok.mp found, Bool.and_eq_true_iff.mp inside⟩
    · cases kept
  · rintro ⟨same, inside⟩
    refine ⟨x, number_eq_ok.mpr same, ?_⟩
    rw [if_pos (Bool.and_eq_true_iff.mpr inside)]
    rfl

theorem positiveInteger_eq_ok {w : Whole} (passed : positiveInteger argument v = .ok w) :
    v = .number (.whole w) ∧ 0 < w.value := by
  obtain ⟨n, found, more⟩ := Outcome.bind_eq_ok.mp passed
  obtain ⟨x, above, made⟩ := Outcome.bind_eq_ok.mp more
  cases made
  have same := integer_eq_ok.mp found
  obtain ⟨number, positive⟩ := positive_eq_ok.mp above
  rw [same] at number
  cases number
  rw [Number.le_int_right] at positive
  exact ⟨same, by simpa using positive⟩

theorem naturalInteger_eq_ok {w : Whole} (passed : naturalInteger argument v = .ok w) :
    v = .number (.whole w) ∧ 0 ≤ w.value := by
  obtain ⟨n, found, more⟩ := Outcome.bind_eq_ok.mp passed
  obtain ⟨x, above, made⟩ := Outcome.bind_eq_ok.mp more
  cases made
  have same := integer_eq_ok.mp found
  obtain ⟨number, natural⟩ := notNegative_eq_ok.mp above
  rw [same] at number
  cases number
  rw [Number.lt_int_right] at natural
  exact ⟨same, by simpa using natural⟩

theorem integerBetween_eq_ok {low high : Int} {w : Whole}
    (passed : integerBetween low high argument v = .ok w) :
    v = .number (.whole w) ∧ low ≤ w.value ∧ w.value ≤ high := by
  obtain ⟨n, found, more⟩ := Outcome.bind_eq_ok.mp passed
  obtain ⟨x, within, made⟩ := Outcome.bind_eq_ok.mp more
  cases made
  have same := integer_eq_ok.mp found
  obtain ⟨number, above, below⟩ := between_eq_ok.mp within
  rw [same] at number
  cases number
  rw [Number.le_int_left] at above
  rw [Number.le_int_right] at below
  exact ⟨same, by simpa using above, by simpa using below⟩

theorem text_eq_ok {w : Words} :
    text argument v = .ok w ↔ v.asWords? = some w ∧ w.text ≠ "" := by
  unfold text
  cases v.asWords? with
  | none => simp
  | some words =>
      by_cases empty : words.text = ""
      · simp only [empty, if_true, Option.some.injEq]
        constructor
        · intro impossible
          cases impossible
        · rintro ⟨rfl, nonempty⟩
          exact absurd empty nonempty
      · simp only [empty, if_false, Except.ok.injEq, Option.some.injEq]
        constructor
        · rintro rfl
          exact ⟨rfl, empty⟩
        · exact And.left

/-- What a selecting guard passes is what it selects. -/
theorem expect_eq_ok {α : Type} {kinds : List String} {select : Value → Option α} {a : α}
    (passed : expect kinds select argument v = .ok a) : select v = some a := by
  unfold expect at passed
  split at passed
  · cases passed
  · cases found : select v with
    | none =>
        simp only [found] at passed
        cases passed
    | some b =>
        simp only [found] at passed
        rw [Except.ok.inj passed]

theorem countType_eq_ok {type : CountType} :
    expect ["CountType"] Count.type? argument v = .ok type ↔ v = .node (.choice (.count type)) := by
  constructor
  · intro passed
    have selected := expect_eq_ok passed
    unfold Count.type? at selected
    split at selected
    · cases selected
      rfl
    · cases selected
  · rintro rfl
    rfl

/-- An optional guard passes null as nothing, and anything else that its guard passes. -/
theorem optional_eq_ok {α : Type} {guard : String → Value → Checked α} {found : Option α}
    (passed : optional guard argument v = .ok found) :
    (v = .null ∧ found = none) ∨ ∃ a, found = some a ∧ guard argument v = .ok a := by
  unfold optional at passed
  split at passed
  · exact .inl ⟨rfl, (Except.ok.inj passed).symm⟩
  · obtain ⟨a, inner, made⟩ := Outcome.bind_eq_ok.mp passed
    exact .inr ⟨a, (Except.ok.inj made).symm, inner⟩

/-- A guard for every item passes the items one by one. -/
theorem each_eq_ok {α : Type} {guard : Value → Checked α} {items : List Value} {found : List α} :
    each guard items = .ok found ↔ List.Forall₂ (fun v a => guard v = .ok a) items found := by
  induction items generalizing found with
  | nil =>
      constructor
      · intro passed
        cases passed
        exact .nil
      · intro none
        cases none
        rfl
  | cons v rest ih =>
      unfold each
      rw [Outcome.bind_eq_ok]
      constructor
      · rintro ⟨a, first, more⟩
        obtain ⟨others, passed, made⟩ := Outcome.bind_eq_ok.mp more
        cases made
        exact .cons first (ih.mp passed)
      · intro both
        cases both with
        | @cons _ a _ others first passed =>
            exact ⟨a, first, Outcome.bind_eq_ok.mpr ⟨others, ih.mpr passed, rfl⟩⟩

/-- Applying a guard to every value of a list fails as the guard does. -/
theorem each_fails {α : Type} {sort : Fault Value → Prop} {guard : Value → Checked α}
    (one : ∀ v, Outcome.FailsAs sort (guard v)) (items : List Value) :
    Outcome.FailsAs sort (each guard items) := by
  induction items with
  | nil => exact .ok _
  | cons v rest ih => exact .bind (one v) (fun _ _ => .bind ih (fun _ _ => .ok _))

/-- What every item is after a guard, when the guard says it of one. -/
theorem each_all {α : Type} {guard : Value → Checked α} {holds : Value → Prop} {P : α → Prop}
    {items : List Value} {found : List α} (passed : each guard items = .ok found)
    (given : ∀ v ∈ items, holds v) (one : ∀ v a, holds v → guard v = .ok a → P a) :
    ∀ a ∈ found, P a := by
  have both := each_eq_ok.mp passed
  clear passed
  induction both with
  | nil => exact fun a held => absurd held List.not_mem_nil
  | @cons v a rest others first _ ih =>
      intro b held
      rcases List.mem_cons.mp held with rfl | later
      · exact one v b (given v List.mem_cons_self) first
      · exact ih (fun w there => given w (List.mem_cons_of_mem _ there)) b later

/-- A guard for every item passes each of them. -/
theorem each_mem {α : Type} {guard : Value → Checked α} {items : List Value} {found : List α}
    (passed : each guard items = .ok found) {v : Value} (held : v ∈ items) :
    ∃ a, guard v = .ok a := by
  have both := each_eq_ok.mp passed
  clear passed
  induction both with
  | nil => cases held
  | cons first _ ih =>
      rcases List.mem_cons.mp held with rfl | later
      · exact ⟨_, first⟩
      · exact ih later

theorem each_length {α : Type} {guard : Value → Checked α} {items : List Value} {found : List α}
    (passed : each guard items = .ok found) : found.length = items.length :=
  (each_eq_ok.mp passed).length_eq.symm

end Guard

/-!
## Sound values

A value is sound when the definitions in it are admissible: it may be one, or
a container whose elements are sound.  Guards that pass a part of a definition
out of a sound value pass an admissible one.
-/

/-- A node is admissible when it is the part of a definition that a factory may
give out; code must be faithful, and nothing is asked of other objects. -/
@[simp] def Node.Admissible : Node Value → Prop
  | .query q => q.Admissible
  | .path p => p.Admissible
  | .fuzzy f => f.Admissible
  | .expression f => f.Admissible
  | .score s => s.Admissible
  | .span s => s.Admissible
  | .facet f => f.Admissible
  | .box b => b.Admissible
  | .circle c => c.Admissible
  | .rangeStart p given => p.Admissible ∧ ∀ s ∈ given, s.Admissible
  | .operator op => op.Admissible
  | .code _ scope => scope.toTerm.Faithful
  | _ => True

namespace Value

mutual

/-- The definitions in a value are admissible. -/
@[simp] def Sound : Value → Prop
  | .list items => AllSound items
  | .tuple items => AllSound items
  | .set items => AllSound items
  | .stream _ items => AllSound items
  | .dict entries => KeysSound entries
  | .node n => n.Admissible
  | _ => True

/-- The definitions in several values are admissible. -/
@[simp] def AllSound : List Value → Prop
  | [] => True
  | v :: rest => Sound v ∧ AllSound rest

/-- The definitions in the keys of entries are admissible. -/
@[simp] def KeysSound : List (Value × Value) → Prop
  | [] => True
  | (key, _) :: rest => Sound key ∧ KeysSound rest

end

theorem allSound_iff {items : List Value} : AllSound items ↔ ∀ v ∈ items, v.Sound := by
  induction items with
  | nil => simp [AllSound]
  | cons v rest ih => simp [AllSound, ih]

theorem keysSound_iff {entries : List (Value × Value)} :
    KeysSound entries ↔ ∀ entry ∈ entries, entry.1.Sound := by
  induction entries with
  | nil => simp [KeysSound]
  | cons entry rest ih => simp [KeysSound, ih]

theorem sound_text (s : String) : (text s).Sound := by
  simp only [Sound]

theorem sound_tuple {items : List Value} (sound : AllSound items) : (tuple items).Sound := by
  simpa only [Sound] using sound

/-- The elements of a sound value are sound. -/
theorem Sound.elements {v : Value} {items : List Value} (sound : v.Sound)
    (found : v.elements? = some items) : ∀ item ∈ items, item.Sound := by
  have texts : ∀ s : String,
      ∀ item ∈ s.toList.map (fun c => Value.text (String.singleton c)), item.Sound := by
    intro s item held
    obtain ⟨c, -, rfl⟩ := List.mem_map.mp held
    exact sound_text _
  have bytes : ∀ b : List UInt8,
      ∀ item ∈ b.map (fun byte => Value.int byte.toNat), item.Sound := by
    intro b item held
    obtain ⟨byte, -, rfl⟩ := List.mem_map.mp held
    simp only [Sound]
  unfold elements? at found
  split at found
  · cases found
    exact texts _
  · cases found
    exact bytes _
  · cases found
    exact bytes _
  · cases found
    simp only [Sound] at sound
    exact allSound_iff.mp sound
  · cases found
    simp only [Sound] at sound
    exact allSound_iff.mp sound
  · cases found
    simp only [Sound] at sound
    exact allSound_iff.mp sound
  · cases found
    simp only [Sound] at sound
    intro item held
    obtain ⟨entry, there, rfl⟩ := List.mem_map.mp held
    exact keysSound_iff.mp sound entry there
  · cases found
    simp only [Sound] at sound
    exact allSound_iff.mp sound
  · cases found
    exact texts _
  · split at found
    · cases found
    · cases found
      intro item held
      obtain ⟨c, -, rfl⟩ := List.mem_map.mp held
      simp only [Sound, Node.Admissible]
  · split at found
    · cases found
      simp only [List.mem_singleton, forall_eq, Sound, Node.Admissible]
    · cases found
  · cases found

/-- The elements of a sound value, in a tuple of their own, are sound. -/
theorem Sound.tuple {v : Value} {items : List Value} (sound : v.Sound)
    (found : v.elements? = some items) : (Value.tuple items).Sound := by
  simp only [Sound]
  exact allSound_iff.mpr (sound.elements found)

theorem Sound.toItems {v : Value} {items : List Value} (sound : v.Sound)
    (found : v.toItems = .ok items) : (Value.tuple items).Sound := by
  unfold Value.toItems at found
  split at found
  · rename_i elements
    cases found
    exact sound.tuple elements
  · split at found <;> cases found

/-- The words of a sound value are faithful. -/
theorem Sound.asWords? {v : Value} {w : Words} (sound : v.Sound) (found : v.asWords? = some w) :
    w.Faithful := by
  unfold Value.asWords? at found
  split at found
  · cases found
    intro scope none
    cases none
  · cases found
    intro scope given
    cases given
    simpa only [Sound, Node.Admissible] using sound
  · cases found

end Value

namespace Guard

variable {argument : String} {v : Value}

theorem text_proper {w : Words} (sound : v.Sound) (passed : text argument v = .ok w) :
    w.Proper := by
  obtain ⟨found, nonempty⟩ := text_eq_ok.mp passed
  exact ⟨nonempty, sound.asWords? found⟩

theorem anyText_faithful {w : Words} (sound : v.Sound) (passed : anyText argument v = .ok w) :
    w.Faithful :=
  sound.asWords? (expect_eq_ok passed)

theorem field_admissible {f : Field} (sound : v.Sound) (passed : field argument v = .ok f) :
    f.Admissible := by
  unfold field at passed
  split at passed
  · cases passed
    trivial
  · cases passed
    unfold Field.ofTerms
    split <;> trivial
  · obtain ⟨given, kept, more⟩ := Outcome.bind_eq_ok.mp passed
    obtain ⟨s, found, made⟩ := Outcome.bind_eq_ok.mp more
    cases made
    rw [notNull_eq_ok kept] at found
    exact text_proper sound found

theorem path_eq_ok {p : Path} (passed : path argument v = .ok p) : v = .node (.path p) := by
  have selected := expect_eq_ok passed
  split at selected
  · cases selected
    rfl
  · cases selected

theorem query_eq_ok {q : Query} (passed : query argument v = .ok q) : v = .node (.query q) := by
  have selected := expect_eq_ok passed
  split at selected
  · cases selected
    rfl
  · cases selected

theorem operator_eq_ok {op : Operator Value} (passed : operator argument v = .ok op) :
    v = .node (.operator op) := by
  have selected := expect_eq_ok passed
  split at selected
  · cases selected
    rfl
  · cases selected

theorem tuple_eq_ok {items : List Value} (passed : tuple argument v = .ok items) :
    v = .tuple items := by
  have selected := expect_eq_ok passed
  split at selected
  · cases selected
    rfl
  · cases selected

theorem score_eq_ok {score : Option Score} : Guard.score v = .ok score ↔ v = .ofScore score := by
  constructor
  · intro passed
    rcases optional_eq_ok passed with ⟨rfl, rfl⟩ | ⟨s, rfl, inner⟩
    · rfl
    · have selected := expect_eq_ok inner
      split at selected
      · cases selected
        rfl
      · cases selected
  · rintro rfl
    cases score <;> rfl

theorem path_admissible {p : Path} (sound : v.Sound) (passed : path argument v = .ok p) :
    p.Admissible := by
  rw [path_eq_ok passed] at sound
  simpa only [Value.Sound, Node.Admissible] using sound

theorem query_admissible {q : Query} (sound : v.Sound) (passed : query argument v = .ok q) :
    q.Admissible := by
  rw [query_eq_ok passed] at sound
  simpa only [Value.Sound, Node.Admissible] using sound

theorem operator_admissible {op : Operator Value} (sound : v.Sound)
    (passed : operator argument v = .ok op) : op.Admissible := by
  rw [operator_eq_ok passed] at sound
  simpa only [Value.Sound, Node.Admissible] using sound

theorem tuple_sound {items : List Value} (sound : v.Sound) (passed : tuple argument v = .ok items) :
    ∀ item ∈ items, item.Sound := by
  rw [tuple_eq_ok passed] at sound
  simp only [Value.Sound] at sound
  exact Value.allSound_iff.mp sound

/-- What an optional guard finds has what its guard promises. -/
theorem optional_all {α : Type} {guard : String → Value → Checked α} {found : Option α}
    {P : α → Prop} (passed : optional guard argument v = .ok found)
    (one : ∀ a, guard argument v = .ok a → P a) : ∀ a ∈ found, P a := by
  rcases optional_eq_ok passed with ⟨-, rfl⟩ | ⟨b, rfl, inner⟩
  · intro a held
    cases held
  · intro a held
    cases held
    exact one b inner

theorem score_admissible {score : Option Score} (sound : v.Sound)
    (passed : Guard.score v = .ok score) : ∀ s ∈ score, s.Admissible := by
  refine optional_all passed (fun s inner => ?_)
  have selected := expect_eq_ok inner
  split at selected
  · cases selected
    simpa only [Value.Sound, Node.Admissible] using sound
  · cases selected

theorem fuzzy_admissible {fuzzy : Option Fuzzy} (sound : v.Sound)
    (passed : Guard.fuzzy v = .ok fuzzy) : ∀ f ∈ fuzzy, f.Admissible := by
  refine optional_all passed (fun f inner => ?_)
  have selected := expect_eq_ok inner
  split at selected
  · cases selected
    simpa only [Value.Sound, Node.Admissible] using sound
  · cases selected

end Guard

end SearchQuery
