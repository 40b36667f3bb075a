import Mathlib.Algebra.Order.Group.Nat
import Mathlib.Tactic.IntervalCases
import SearchQuery.Time

/-!
# Dates and their numbers

A date is found again from its number, and a date-time from its wall clock.
Years are counted from March, in cycles of four hundred: the leap day then is
the last one of its year, and the months before it have fixed lengths.
-/

namespace SearchQuery

namespace Date

/-! ## Years -/

section Cycle

variable {c q r day cycle : Nat}

/-- The century of a day of the cycle; only the very last day would begin a fifth. -/
theorem century_eq (number : cycle = 36524 * c + 1461 * q + 365 * r + day) (hundreds : c < 4)
    (fours : q < 25) (ones : r < 4) (within : day ≤ 365)
    (leap : day = 365 → r = 3 ∧ (q = 24 → c = 3)) : cycle / 36524 = c + cycle / 146096 := by
  by_cases last : cycle = 146096
  · obtain rfl : c = 3 := by omega
    subst last
    rfl
  · have none : cycle / 146096 = 0 := Nat.div_eq_of_lt (by omega)
    rw [none, Nat.add_zero]
    exact Nat.div_eq_of_lt_le (by omega) (by omega)

/-- The year of a day of the cycle, counted from its first. -/
theorem yearOfCycle_eq (number : cycle = 36524 * c + 1461 * q + 365 * r + day) (hundreds : c < 4)
    (fours : q < 25) (ones : r < 4) (within : day ≤ 365)
    (leap : day = 365 → r = 3 ∧ (q = 24 → c = 3)) :
    (cycle - cycle / 1460 + cycle / 36524 - cycle / 146096) / 365 = 100 * c + 4 * q + r := by
  rw [century_eq number hundreds fours ones within leap]
  have below : cycle / 1460 < 25 * c + q + day + 1 := by
    rw [Nat.div_lt_iff_lt_mul (by decide)]
    omega
  have above : 25 * c + q + day ≤ cycle / 1460 + 364 := by
    have whole := Nat.div_add_mod cycle 1460
    have rest := Nat.mod_lt cycle (show 1460 > 0 by decide)
    generalize cycle / 1460 = leaps at *
    omega
  generalize cycle / 1460 = leaps at *
  generalize cycle / 146096 = fifth at *
  exact Nat.div_eq_of_lt_le (by omega) (by omega)

end Cycle

/-- A year has one leap day more before its end than before its beginning, if it is a leap year. -/
theorem leaps_step {year : Nat} (some : 1 ≤ year) :
    year / 4 - year / 100 + year / 400 =
      (year - 1) / 4 - (year - 1) / 100 + (year - 1) / 400 + (if isLeap year then 1 else 0) := by
  obtain ⟨past, rfl⟩ : ∃ past, year = past + 1 := ⟨year - 1, by omega⟩
  rw [Nat.add_sub_cancel]
  have leap : isLeap (past + 1) = true ↔ 4 ∣ past + 1 ∧ (¬ 100 ∣ past + 1 ∨ 400 ∣ past + 1) := by
    simp [isLeap, Nat.dvd_iff_mod_eq_zero]
  have fewer : past / 100 ≤ past / 4 := Nat.div_le_div_left (by decide) (by decide)
  have within : 400 ∣ past + 1 → 100 ∣ past + 1 := fun divides => dvd_trans (by decide) divides
  have inside : 100 ∣ past + 1 → 4 ∣ past + 1 := fun divides => dvd_trans (by decide) divides
  rw [Nat.succ_div, Nat.succ_div, Nat.succ_div]
  generalize past / 4 = fourths at *
  generalize past / 100 = centuries at *
  by_cases fourth : 4 ∣ past + 1 <;> by_cases century : 100 ∣ past + 1 <;>
    by_cases cycle : 400 ∣ past + 1 <;> simp_all <;> omega

/-! ## Months -/

/-- The days before a month, counted from March. -/
def daysFromMarch (month : Nat) : Nat :=
  (153 * month + 2) / 5

theorem daysBeforeMonth_eq {year month : Nat} (first : 1 ≤ month) (last : month ≤ 12) :
    daysBeforeMonth year month =
      if month ≤ 2 then daysFromMarch (month + 9) - 306
      else 59 + (if isLeap year then 1 else 0) + daysFromMarch (month - 3) := by
  unfold daysFromMarch daysBeforeMonth
  cases leap : isLeap year <;> interval_cases month <;>
    simp [List.range_succ, daysInMonth, leap]

theorem valid_iff {d : Date} : d.valid = true ↔
    1 ≤ d.year ∧ d.year ≤ 9999 ∧ 1 ≤ d.month ∧ d.month ≤ 12 ∧ 1 ≤ d.day ∧
      d.day ≤ daysInMonth d.year d.month := by
  simp [valid, and_assoc]

/-- The year that a date falls in when years begin in March. -/
def marchYear (d : Date) : Nat :=
  if d.month ≤ 2 then d.year - 1 else d.year

def marchMonth (d : Date) : Nat :=
  if d.month ≤ 2 then d.month + 9 else d.month - 3

def marchDay (d : Date) : Nat :=
  daysFromMarch d.marchMonth + d.day - 1

/-- The days before the March of a year, from that of the year zero. -/
def daysBeforeMarch (year : Nat) : Nat :=
  365 * year + (year / 4 - year / 100 + year / 400)

theorem ordinal_march {d : Date} (valid : d.valid = true) :
    d.ordinal + 305 = daysBeforeMarch d.marchYear + d.marchDay := by
  obtain ⟨someYear, -, first, last, someDay, -⟩ := valid_iff.mp valid
  have step := leaps_step someYear
  have fewer : (d.year - 1) / 100 ≤ (d.year - 1) / 4 :=
    Nat.div_le_div_left (by decide) (by decide)
  unfold ordinal daysBeforeYear marchDay daysBeforeMarch marchYear marchMonth
  rw [daysBeforeMonth_eq first last]
  dsimp only
  by_cases early : d.month ≤ 2
  · have long : 306 ≤ daysFromMarch (d.month + 9) := by
      unfold daysFromMarch
      omega
    simp only [early, if_true]
    generalize daysFromMarch (d.month + 9) = months at *
    generalize (d.year - 1) / 4 = fourths at *
    generalize (d.year - 1) / 100 = centuries at *
    generalize (d.year - 1) / 400 = cycles at *
    omega
  · simp only [early, if_false]
    rw [step]
    generalize daysFromMarch (d.month - 3) = months at *
    generalize (d.year - 1) / 4 = fourths at *
    generalize (d.year - 1) / 100 = centuries at *
    generalize (d.year - 1) / 400 = cycles at *
    omega

/-- No month is longer than in a leap year. -/
theorem daysInMonth_le (year month : Nat) : daysInMonth year month ≤ daysInMonth 4 month := by
  have leap : isLeap 4 = true := rfl
  unfold daysInMonth
  simp only [leap, if_true]
  split_ifs <;> omega

/-- The day of the year, counted from March, tells the month and the day. -/
theorem march_of_day {d : Date} (valid : d.valid = true) :
    (5 * d.marchDay + 2) / 153 = d.marchMonth ∧
      d.marchDay - daysFromMarch d.marchMonth + 1 = d.day := by
  obtain ⟨-, -, first, last, someDay, within⟩ := valid_iff.mp valid
  have bound := within.trans (daysInMonth_le d.year d.month)
  unfold marchDay marchMonth daysFromMarch
  generalize d.day = day at *
  generalize d.month = month at *
  interval_cases month <;> simp [daysInMonth, isLeap] at bound ⊢ <;> omega

/-- A year that begins in March has at most 366 days, and so many only before a leap year. -/
theorem marchDay_le {d : Date} (valid : d.valid = true) :
    d.marchDay ≤ 365 ∧ (d.marchDay = 365 → isLeap (d.marchYear + 1) = true) := by
  obtain ⟨someYear, -, first, last, someDay, within⟩ := valid_iff.mp valid
  have bound := within.trans (daysInMonth_le d.year d.month)
  by_cases leapDay : d.month = 2 ∧ d.day = 29
  · obtain ⟨february, late⟩ := leapDay
    have leap : isLeap d.year = true := by
      by_contra other
      simp [daysInMonth, february, late, other] at within
    have next : d.marchYear + 1 = d.year := by
      unfold marchYear
      rw [february, if_pos le_rfl]
      omega
    refine ⟨?_, fun _ => next ▸ leap⟩
    simp [marchDay, marchMonth, daysFromMarch, february, late]
  · have less : d.marchDay < 365 := by
      unfold marchDay marchMonth daysFromMarch
      generalize d.day = day at *
      generalize d.month = month at *
      interval_cases month <;> simp [daysInMonth, isLeap] at bound leapDay ⊢ <;> omega
    exact ⟨less.le, fun same => absurd same less.ne⟩

/-- The days before a year by the parts of its number. -/
theorem daysBeforeMarch_eq {e c q r : Nat} (hundreds : c < 4) (fours : q < 25) (ones : r < 4) :
    daysBeforeMarch (400 * e + 100 * c + 4 * q + r) =
      146097 * e + (36524 * c + 1461 * q + 365 * r) := by
  have fourths : (400 * e + 100 * c + 4 * q + r) / 4 = 100 * e + 25 * c + q := by omega
  have centuries : (400 * e + 100 * c + 4 * q + r) / 100 = 4 * e + c := by omega
  have cycles : (400 * e + 100 * c + 4 * q + r) / 400 = e := by omega
  rw [daysBeforeMarch, fourths, centuries, cycles]
  omega

/-- Only the last of four years comes before a leap year, and of the last four of a century only
those of the fourth. -/
theorem parts_of_leap {e c q r : Nat} (ones : r < 4)
    (hundreds : c < 4) (leap : isLeap (400 * e + 100 * c + 4 * q + r + 1) = true) :
    r = 3 ∧ (q = 24 → c = 3) := by
  simp only [isLeap, Bool.and_eq_true, Bool.or_eq_true, beq_iff_eq, bne_iff_ne] at leap
  obtain ⟨fourth, rest⟩ := leap
  obtain rfl : r = 3 := by omega
  refine ⟨rfl, ?_⟩
  rintro rfl
  have century : (400 * e + 100 * c + 4 * 24 + 3 + 1) % 100 = 0 := by omega
  have cycle := rest.resolve_left (fun other => other century)
  omega

/-- A date is found again from its number. -/
theorem ofOrdinal_ordinal {d : Date} (valid : d.valid = true) : ofOrdinal d.ordinal = d := by
  have number := ordinal_march valid
  obtain ⟨within, leap⟩ := marchDay_le valid
  obtain ⟨sameMonth, sameDay⟩ := march_of_day valid
  obtain ⟨e, c, q, r, hundreds, fours, ones, year⟩ : ∃ e c q r, c < 4 ∧ q < 25 ∧ r < 4 ∧
      d.marchYear = 400 * e + 100 * c + 4 * q + r :=
    ⟨d.marchYear / 400, d.marchYear % 400 / 100, d.marchYear % 100 / 4, d.marchYear % 4,
      by omega, by omega, by omega, by omega⟩
  have longest : d.marchDay = 365 → r = 3 ∧ (q = 24 → c = 3) := by
    intro full
    have divisible := leap full
    rw [year] at divisible
    exact parts_of_leap ones hundreds divisible
  rw [year, daysBeforeMarch_eq hundreds fours ones] at number
  obtain ⟨cycle, place⟩ : ∃ cycle, cycle = 36524 * c + 1461 * q + 365 * r + d.marchDay := ⟨_, rfl⟩
  have short : cycle < 146097 := by omega
  have yearOfCycle := yearOfCycle_eq place hundreds fours ones within longest
  unfold ofOrdinal
  extract_lets shifted era dayOfEra yearOfEra dayOfYear shiftedMonth day month year'
  have sameShift : shifted = 146097 * e + cycle := by
    simp only [shifted, number, place]
    exact Nat.add_assoc _ _ _
  have sameEra : era = e := by
    simp only [era, sameShift]
    rw [Nat.mul_add_div (by decide), Nat.div_eq_of_lt short, Nat.add_zero]
  have sameCycle : dayOfEra = cycle := by
    simp only [dayOfEra, sameShift]
    rw [Nat.mul_add_mod, Nat.mod_eq_of_lt short]
  have sameYear : yearOfEra = 100 * c + 4 * q + r := by
    simp only [yearOfEra, sameCycle, yearOfCycle]
  have fourths : (100 * c + 4 * q + r) / 4 = 25 * c + q := by omega
  have centuries : (100 * c + 4 * q + r) / 100 = c := by omega
  have sameDayOfYear : dayOfYear = d.marchDay := by
    simp only [dayOfYear, sameCycle, sameYear, fourths, centuries, place]
    generalize d.marchDay = days
    clear * -
    omega
  have sameShifted : shiftedMonth = d.marchMonth := by
    simp only [shiftedMonth, sameDayOfYear, sameMonth]
  have sameDate : day = d.day := by
    simp only [day, sameDayOfYear, sameShifted]
    exact sameDay
  obtain ⟨someYear, -, first, last, -⟩ := valid_iff.mp valid
  have monthOf : month = d.month := by
    simp only [month, sameShifted, marchMonth]
    split_ifs <;> omega
  have yearOf : year' = d.year := by
    simp only [year', sameYear, sameEra, monthOf]
    unfold marchYear at year
    split_ifs at year ⊢ <;> omega
  rw [monthOf, sameDate, yearOf]

theorem ordinal_lt {d : Date} (valid : d.valid = true) : d.ordinal < 4000000 := by
  have shifted := ordinal_march valid
  have day := (marchDay_le valid).1
  have year : d.marchYear ≤ 9999 := by
    have last := (valid_iff.mp valid).2.1
    unfold marchYear
    split_ifs <;> omega
  unfold daysBeforeMarch at shifted
  omega

end Date

namespace DateTime

/-- A date-time exists when its date does and its clock shows a time of day. -/
structure Exists (t : DateTime) : Prop where
  date : t.date.valid = true
  hour : t.hour < 24
  minute : t.minute < 60
  second : t.second < 60
  microsecond : t.microsecond < 1000000

def sinceMidnight (t : DateTime) : Nat :=
  ((t.hour * 60 + t.minute) * 60 + t.second) * 1000000 + t.microsecond

theorem Exists.sinceMidnight_lt {t : DateTime} (there : t.Exists) :
    t.sinceMidnight < 86400000000 := by
  obtain ⟨-, hour, minute, second, microsecond⟩ := there
  unfold sinceMidnight
  omega

theorem wall_eq (t : DateTime) :
    t.wall = ((86400000000 * t.date.ordinal + t.sinceMidnight : Nat) : Int) := by
  unfold wall sinceMidnight
  push_cast
  omega

/-- A date-time is found again from its wall clock. -/
theorem ofWall?_wall {t : DateTime} (there : t.Exists) : ofWall? t.wall t.offset = some t := by
  have short := there.sinceMidnight_lt
  obtain ⟨date, hour, minute, second, microsecond⟩ := there
  have length : dayLength = (86400000000 : Nat) := rfl
  have days : t.wall.fdiv dayLength = t.date.ordinal := by
    rw [wall_eq, length, ← Int.ofNat_fdiv, Nat.mul_add_div (by decide), Nat.div_eq_of_lt short,
      Nat.add_zero]
  have rest : (t.wall.fmod dayLength).toNat = t.sinceMidnight := by
    rw [wall_eq, length, ← Int.ofNat_fmod, Nat.mul_add_mod, Nat.mod_eq_of_lt short,
      Int.toNat_natCast]
  have some : 1 ≤ t.date.ordinal := by
    have day := (Date.valid_iff.mp date).2.2.2.2.1
    unfold Date.ordinal
    omega
  have year := (Date.valid_iff.mp date).2.1
  unfold ofWall?
  simp only [days, rest, Int.toNat_natCast, Date.ofOrdinal_ordinal date]
  rw [if_neg (by omega)]
  obtain ⟨d, h, m, s, micro, offset⟩ := t
  unfold sinceMidnight
  simp only [Option.some.injEq, DateTime.mk.injEq, true_and, and_true]
  dsimp only at hour minute second microsecond
  omega

end DateTime

end SearchQuery
