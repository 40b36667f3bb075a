import Mathlib.Data.List.TakeWhile
import SearchQuery.ExtendedJson.Encode
import SearchQuery.Proofs.Calendar
import SearchQuery.Proofs.JsonNumbers

/-!
# Dates are read back

The text of a date-time to the millisecond is read as the date-time.  Its
fraction goes through two roundings, to a double and, scaled to microseconds,
to another; for each of the thousand fractions they lead back to the integer.
-/

namespace SearchQuery

namespace Double

/-! ## Thousandths -/

def thousandthScale (m : Nat) : Nat :=
  Nat.log2 (1999 / m) + 52

def thousandthDigits (m : Nat) : Nat :=
  (2 * m * 2 ^ thousandthScale m + 1000) / 2000

def millionthScale (m : Nat) : Nat :=
  52 - Nat.log2 (1000 * m)

/-- The double nearest to a count of thousandths, in millionths, lies next to the count. -/
theorem thousandths_close : ∀ m < 1000, 0 < m →
    Close m 1000 (thousandthDigits m) (thousandthScale m) ∧
      Close (thousandthDigits m * 1000000) (2 ^ thousandthScale m)
        (1000 * m * 2 ^ millionthScale m) (millionthScale m) := by
  decide +kernel

/-- A count of thousandths is read as a double that rounds to the count in millionths. -/
theorem ofScientific_thousandths {m : Nat} (small : m < 1000) (some : 0 < m) :
    ∃ q, ofScientific false m (-3) = .finite false q ∧
      ofMagnitude false (q * 1000000) = .finite false (1000 * m : Nat) := by
  obtain ⟨first, second⟩ := thousandths_close m small some
  refine ⟨thousandthDigits m / 2 ^ thousandthScale m, ?_, ?_⟩
  · have value : (m * pow10 (-3) : Rat) = (m : Rat) / (1000 : Nat) := by
      norm_num [pow10]
      ring
    rw [ofScientific_eq false some.ne', value, ofMagnitude, first.roundMagnitude]
  · have value : ((thousandthDigits m : Rat) / 2 ^ thousandthScale m * 1000000) =
        ((thousandthDigits m * 1000000 : Nat) : Rat) / ((2 ^ thousandthScale m : Nat) : Rat) := by
      push_cast
      ring
    rw [value, ofMagnitude, second.roundMagnitude]
    push_cast
    rw [mul_div_assoc, div_self (by positivity), mul_one]

end Double

namespace Number

/-! ## Numbers by hand -/

/-- Plain characters without white space are read as they are. -/
theorem plainChars_ofList {chars : List Char}
    (bare : ∀ c ∈ chars, c.toNat < 128 ∧ isBlank c = false) :
    plainChars (String.ofList chars) = chars := by
  have plain : chars.map plainChar = chars := by
    have same : ∀ c ∈ chars, plainChar c = id c := by
      intro c held
      have small := (bare c held).1
      have narrow : isWideBlank c = false := by
        simp only [isWideBlank, Bool.or_eq_false_iff, Bool.and_eq_false_iff, beq_eq_false_iff_ne,
          decide_eq_false_iff_not]
        omega
      rw [plainChar, narrow, Text.plainDigit_of_lt small]
      rfl
    rw [List.map_congr_left same, List.map_id]
  have dropped : ∀ others : List Char, (∀ c ∈ others, isBlank c = false) →
      others.dropWhile isBlank = others := by
    intro others none
    cases others with
    | nil => rfl
    | cons c rest => exact List.dropWhile_cons_of_neg (by simp [none c List.mem_cons_self])
  rw [plainChars, String.toList_ofList, plain, trim, dropped _ (fun c held => (bare c held).2),
    dropped _ (fun c held => (bare c (List.mem_reverse.mp held)).2), List.reverse_reverse]

theorem bare_of_isDigit {c : Char} (digit : c.isDigit = true) :
    c.toNat < 128 ∧ isBlank c = false := by
  have bounds : 48 ≤ c.toNat ∧ c.toNat ≤ 57 := by
    simpa [Char.isDigit, ← Char.toNat_val, UInt32.le_iff_toNat_le] using digit
  refine ⟨by omega, ?_⟩
  simp only [isBlank, Bool.or_eq_false_iff, Bool.and_eq_false_iff, beq_eq_false_iff_ne,
    decide_eq_false_iff_not]
  omega

/-- A text without underscores has none to drop. -/
theorem dropUnderscores?_absent {isDigit : Char → Bool} {chars : List Char}
    (absent : '_' ∉ chars) (after : Bool) : dropUnderscores? isDigit after chars = some chars := by
  induction chars generalizing after with
  | nil => rfl
  | cons c rest ih =>
      rw [List.mem_cons, not_or] at absent
      rw [dropUnderscores?.eq_4 _ _ _ _ (by rintro _ _ rfl; exact absurd rfl absent.1)
        (by rintro rfl; exact absurd rfl absent.1), ih absent.2]
      rfl

theorem takeSign_signed (negative : Bool) {digits : List Char}
    (all : ∀ c ∈ digits, c.isDigit = true) :
    Decimal.takeSign (Json.signed negative digits) = (negative, digits) := by
  cases negative with
  | true => rfl
  | false =>
      cases digits with
      | nil => rfl
      | cons c rest =>
          have digit := all c List.mem_cons_self
          unfold Decimal.takeSign Json.signed
          split
          · simp_all
          · simp_all
          · rfl

/-- An integer is read from its text, if it has not too many digits. -/
theorem readInt?_toString {n : Int} (few : (Nat.toDigits 10 n.natAbs).length ≤ maxDigits) :
    readInt? (toString n) = some n := by
  have digits := toDigits_isDigit n.natAbs
  have bare : ∀ c ∈ (toString n).toList, c.toNat < 128 ∧ isBlank c = false := by
    intro c held
    rw [Json.toString_eq_signed, Json.signed] at held
    split at held
    · rcases List.mem_cons.mp held with rfl | inside
      · decide
      · exact bare_of_isDigit (digits c inside)
    · exact bare_of_isDigit (digits c held)
  have read := plainChars_ofList bare
  rw [String.ofList_toList, Json.toString_eq_signed] at read
  have absent : '_' ∉ Nat.toDigits 10 n.natAbs := fun held => absurd (digits _ held) (by decide)
  have all : (Nat.toDigits 10 n.natAbs).all Char.isDigit = true := List.all_eq_true.mpr digits
  have some : (Nat.toDigits 10 n.natAbs).isEmpty = false :=
    List.isEmpty_eq_false_iff.mpr Nat.toDigits_ne_nil
  have value : (if n < 0 then -(n.natAbs : Int) else n.natAbs) = n := by
    split_ifs <;> omega
  unfold readInt?
  rw [read, takeSign_signed _ digits]
  simp only [dropUnderscores?_absent absent, all, some, Decimal.digitsValue_toDigits, value,
    Option.bind_eq_bind, Option.bind_some, Bool.not_true, Bool.or_self, Bool.false_or,
    decide_eq_true_eq, if_neg (Nat.not_lt.mpr few)]

end Number

/-! ## Fields -/

namespace Date

theorem padded_toList (width n : Nat) : (padded width n).toList =
    List.replicate (width - (Nat.toDigits 10 n).length) '0' ++ Nat.toDigits 10 n := by
  unfold padded
  dsimp only
  rw [String.toList_append, String.toList_ofList, Nat.toList_repr, ← String.length_toList,
    Nat.toList_repr]

theorem padded_isDigit (width n : Nat) : ∀ c ∈ (padded width n).toList, c.isDigit = true := by
  rw [padded_toList]
  exact List.forall_mem_append.mpr ⟨Json.zeros_isDigit _, toDigits_isDigit n⟩

theorem padded_value (width n : Nat) : Decimal.digitsValue (padded width n).toList = n := by
  rw [padded_toList, Decimal.digitsValue_append, Decimal.digitsValue_zeros,
    Decimal.digitsValue_toDigits]
  omega

/-- A number is padded to the width, unless it has more digits. -/
theorem padded_length {width n : Nat} (some : 0 < width) (fits : n < 10 ^ width) :
    (padded width n).toList.length = width := by
  have short := (Nat.length_toDigits_le_iff (b := 10) (by decide) some).mpr fits
  rw [padded_toList, List.length_append, List.length_replicate]
  omega

end Date

namespace ExtendedJson

/-- The value of plain digits. -/
theorem mapM_digit? {chars : List Char} (all : ∀ c ∈ chars, c.isDigit = true) :
    chars.mapM digit? = some (chars.map (fun c => c.toNat - '0'.toNat)) := by
  induction chars with
  | nil => rfl
  | cons c rest ih =>
      rw [List.forall_mem_cons] at all
      have plain : Text.plainDigit c = c := by
        refine Text.plainDigit_of_lt ?_
        have bounds := all.1
        simp only [Char.isDigit, Bool.and_eq_true, decide_eq_true_eq] at bounds
        exact Nat.lt_of_le_of_lt bounds.2 (by decide)
      have digit : digit? c = some (c.toNat - '0'.toNat) := by
        simp [digit?, plain, all.1]
      simp [List.mapM_cons, digit, ih all.2]

theorem readYear?_padded {n : Nat} (fits : n < 10000) :
    readYear? (Date.padded 4 n).toList = some n := by
  have length : (Date.padded 4 n).toList.length = 4 := Date.padded_length (by decide) fits
  have value : ((Date.padded 4 n).toList.map (fun c => c.toNat - '0'.toNat)).foldl
      (fun total d => total * 10 + d) 0 = n := by
    rw [List.foldl_map]
    exact Date.padded_value 4 n
  unfold readYear?
  rw [mapM_digit? (Date.padded_isDigit 4 n)]
  simpa [length] using value

/-- Months, days, hours, minutes and seconds are read from two digits. -/
theorem read_padded :
    (∀ n < 13, 1 ≤ n → readMonth? (Date.padded 2 n).toList = some n) ∧
    (∀ n < 32, 1 ≤ n → readDay? (Date.padded 2 n).toList = some n) ∧
    (∀ n < 24, readHour? (Date.padded 2 n).toList = some n) ∧
    ∀ n < 60, readSixty? (Date.padded 2 n).toList = some n := by
  decide

/-- A text is cut at a character that is not before. -/
theorem cut?_append {c : Char} {chars rest : List Char} (absent : c ∉ chars) :
    cut? c (chars ++ c :: rest) = some (chars, rest) := by
  have before : ∀ d ∈ chars, (d != c) = true := by
    intro d held
    refine bne_iff_ne.mpr ?_
    rintro rfl
    exact absent held
  unfold cut?
  rw [List.dropWhile_append_of_pos before, List.takeWhile_append_of_pos before]
  simp

/-- No digit is another character. -/
theorem padded_absent {c : Char} (other : c.isDigit = false) (width n : Nat) :
    c ∉ (Date.padded width n).toList := by
  intro held
  rw [Date.padded_isDigit width n c held] at other
  cases other

/-! ## Texts -/

def clockChars (t : DateTime) : List Char :=
  (Date.padded 4 t.date.year).toList ++ '-' :: ((Date.padded 2 t.date.month).toList ++ '-' ::
    ((Date.padded 2 t.date.day).toList ++ 'T' :: ((Date.padded 2 t.hour).toList ++ ':' ::
      ((Date.padded 2 t.minute).toList ++ ':' :: (Date.padded 2 t.second).toList))))

/-- A count of thousandths is read from three digits after the point. -/
theorem readDouble?_thousandths {m : Nat} (small : m < 1000) :
    Number.readDouble? 0 (String.ofList ('.' :: (Date.padded 3 m).toList)) =
      some (Double.ofScientific false m (-3)) := by
  have digits := Date.padded_isDigit 3 m
  have bare : ∀ c ∈ '.' :: (Date.padded 3 m).toList, c.toNat < 128 ∧ Number.isBlank c = false := by
    rw [List.forall_mem_cons]
    exact ⟨by decide, fun c held => Number.bare_of_isDigit (digits c held)⟩
  have absent : '_' ∉ '.' :: (Date.padded 3 m).toList := by
    rw [List.mem_cons, not_or]
    exact ⟨by decide, padded_absent rfl 3 m⟩
  have length : (Date.padded 3 m).toList.length = 3 := Date.padded_length (by decide) small
  have spanned : Decimal.spanDigits (Date.padded 3 m).toList = ((Date.padded 3 m).toList, []) := by
    have ends : ∀ c ∈ ([] : List Char).head?, c.isDigit = false := nofun
    have ended := Decimal.spanDigits_append digits ends
    rwa [List.append_nil] at ended
  have some : (Date.padded 3 m).toList.isEmpty = false := by
    rw [List.isEmpty_eq_false_iff, ← List.length_pos_iff, length]
    decide
  have pointed : Decimal.spanDigits ('.' :: (Date.padded 3 m).toList) =
      ([], '.' :: (Date.padded 3 m).toList) := rfl
  have read : Decimal.readUnsigned? ('.' :: (Date.padded 3 m).toList) = Option.some ⟨m, -3⟩ := by
    unfold Decimal.readUnsigned?
    rw [pointed]
    simp [spanned, some, length, Date.padded_value, Decimal.readExponent?]
  have unsigned : Decimal.takeSign ('.' :: (Date.padded 3 m).toList) =
      (false, '.' :: (Date.padded 3 m).toList) := rfl
  have lower : ('.' :: (Date.padded 3 m).toList).map Char.toLower =
      '.' :: (Date.padded 3 m).toList.map Char.toLower := rfl
  unfold Number.readDouble?
  rw [Number.plainChars_ofList bare, unsigned]
  simp [lower, Number.dropUnderscores?_absent absent, read]

theorem readMicros_thousandths {m : Nat} (small : m < 1000) (some : 0 < m) :
    readMicros ('.' :: (Date.padded 3 m).toList) = .ok (1000 * m) := by
  obtain ⟨q, read, scaled⟩ := Double.ofScientific_thousandths small some
  unfold readMicros
  rw [readDouble?_thousandths small, read]
  dsimp only
  rw [scaled]
  rfl

theorem readClockDate?_clockChars {t : DateTime} (there : t.Exists) :
    readClockDate? (clockChars t) = some ⟨t.date, t.hour, t.minute, t.second, 0, none⟩ := by
  obtain ⟨-, lastYear, firstMonth, lastMonth, firstDay, lastDay⟩ := Date.valid_iff.mp there.date
  have days : t.date.day < 32 := by
    have bound := lastDay.trans (Date.daysInMonth_le _ _)
    unfold Date.daysInMonth at bound
    split_ifs at bound <;> omega
  -- a small letter between date and time would do as well, but there is none
  have upper : ∀ chars : List Char, (∀ c ∈ chars, c ≠ 't') →
      chars.map (fun c => if c = 't' then 'T' else c) = chars := by
    intro chars none
    rw [List.map_congr_left (fun c held => if_neg (none c held)), List.map_id']
  have small : ∀ n, ∀ c ∈ (Date.padded 2 n).toList, c ≠ 't' := by
    rintro n c held rfl
    exact padded_absent rfl 2 n held
  have rest := upper ((Date.padded 2 t.date.day).toList ++ 'T' :: ((Date.padded 2 t.hour).toList ++
    ':' :: ((Date.padded 2 t.minute).toList ++ ':' :: (Date.padded 2 t.second).toList))) (by
      simp only [List.forall_mem_append, List.forall_mem_cons]
      exact ⟨small _, by decide, small _, by decide, small _, by decide, small _⟩)
  have valid : Date.valid ⟨t.date.year, t.date.month, t.date.day⟩ = true := there.date
  have hyphen : ∀ width n rest, cut? '-' ((Date.padded width n).toList ++ '-' :: rest) =
      some ((Date.padded width n).toList, rest) :=
    fun width n _ => cut?_append (padded_absent rfl width n)
  have letter : ∀ n rest, cut? 'T' ((Date.padded 2 n).toList ++ 'T' :: rest) =
      some ((Date.padded 2 n).toList, rest) :=
    fun n _ => cut?_append (padded_absent rfl 2 n)
  have colon : ∀ n rest, cut? ':' ((Date.padded 2 n).toList ++ ':' :: rest) =
      some ((Date.padded 2 n).toList, rest) :=
    fun n _ => cut?_append (padded_absent rfl 2 n)
  have year : readYear? (Date.padded 4 t.date.year).toList = some t.date.year :=
    readYear?_padded (by omega)
  obtain ⟨months, ofDays, hours, sixties⟩ := read_padded
  have month := months _ (by omega : t.date.month < 13) firstMonth
  have day := ofDays _ days firstDay
  have hour := hours _ there.hour
  have minute := sixties _ there.minute
  have second := sixties _ there.second
  unfold readClockDate? clockChars
  simp only [hyphen, rest, letter, colon, year, month, day, hour, minute, second, valid,
    Option.bind_eq_bind, Option.bind_some, Bool.not_true, Bool.false_eq_true, if_false]

/-- The characters of the fraction of a second to the millisecond, which is left out when it is zero. -/
def fractionChars (t : DateTime) : List Char :=
  if t.microsecond / 1000 = 0 then [] else '.' :: (Date.padded 3 (t.microsecond / 1000)).toList

theorem dateText_toList {t : DateTime} (naive : t.offset = none) :
    (dateText t).toList = clockChars t ++ fractionChars t ++ ['Z'] := by
  unfold dateText fractionChars clockChars Date.isoText DateTime.clockText
  rw [naive]
  have hyphen : "-".toList = ['-'] := rfl
  have letter : "T".toList = ['T'] := rfl
  have colon : ":".toList = [':'] := rfl
  have point : ".".toList = ['.'] := rfl
  have empty : "".toList = [] := rfl
  have zone : "Z".toList = ['Z'] := rfl
  by_cases zero : t.microsecond / 1000 = 0
  · simp only [String.toList_append, List.append_assoc, List.cons_append, List.nil_append, hyphen,
      letter, colon, empty, zone, zero, if_true]
  · simp only [String.toList_append, List.append_assoc, List.cons_append, List.nil_append, hyphen,
      letter, colon, point, zone, zero, if_false]

theorem clockChars_absent (t : DateTime) {c : Char} (other : c.isDigit = false)
    (mark : c ∉ ['-', 'T', ':']) : c ∉ clockChars t := by
  simp only [List.mem_cons, List.not_mem_nil, or_false, not_or] at mark
  simp [clockChars, padded_absent other, mark]

theorem cutFraction_none {chars : List Char} (absent : '.' ∉ chars) :
    cutFraction chars = (chars, none) := by
  have all : ∀ c ∈ chars.reverse, (c != '.') = true := by
    intro c held
    refine bne_iff_ne.mpr ?_
    rintro rfl
    exact absent (List.mem_reverse.mp held)
  unfold cutFraction
  rw [List.takeWhile_eq_self_iff.mpr all]
  simp

/-- A fraction begins with the last point. -/
theorem cutFraction_point (clock : List Char) {digits : List Char} (absent : '.' ∉ digits) :
    cutFraction (clock ++ '.' :: digits) = (clock, some ('.' :: digits)) := by
  have all : ∀ c ∈ digits.reverse, (c != '.') = true := by
    intro c held
    refine bne_iff_ne.mpr ?_
    rintro rfl
    exact absent (List.mem_reverse.mp held)
  have last : ((clock ++ '.' :: digits).reverse.takeWhile (· != '.')).reverse = digits := by
    rw [List.reverse_append, List.reverse_cons, List.append_assoc,
      List.takeWhile_append_of_pos all]
    simp
  have longer : digits.length ≠ (clock ++ '.' :: digits).length := by
    rw [List.length_append, List.length_cons]
    omega
  unfold cutFraction
  dsimp only
  have before : (clock ++ '.' :: digits).length - digits.length - 1 = clock.length := by
    rw [List.length_append, List.length_cons]
    omega
  rw [last, if_neg longer, before, List.take_left]

/-- The microseconds of a fraction, which may be left out. -/
def countedMicros : Option (List Char) → Except DateError Nat
  | none => .ok 0
  | some digits => readMicros digits

/-- A date is read when its parts are: the clock, the fraction of a second and the offset. -/
theorem readDate_parts {s : String} {length : Nat} {clock : List Char}
    {fraction : Option (List Char)} {micros : Nat} {t u : DateTime} {offset : Int}
    (ends : offsetLength s.toList = .ok length)
    (cut : cutFraction (s.toList.take (s.toList.length - length)) = (clock, fraction))
    (counted : countedMicros fraction = .ok micros) (found : readClockDate? clock = some t)
    (checked : checkMicros micros = .ok micros)
    (zone : readOffset? (s.toList.drop (s.toList.length - length)) = some offset)
    (placed : DateTime.ofWall? (t.wall + micros - offset) none = some u) :
    readDate s = .ok u := by
  unfold readDate
  cases fraction with
  | none =>
      cases counted
      simp only [ends, cut, found, checked, zone, placed, bind, pure, Except.bind, Except.pure]
  | some digits =>
      unfold countedMicros at counted
      simp only [ends, cut, found, counted, checked, zone, placed, bind, pure, Except.bind,
        Except.pure]

/-- The text of a date-time to the millisecond is read as that date-time. -/
theorem readDate_dateText {t : DateTime} (there : t.Exists) (naive : t.offset = none)
    (whole : t.microsecond % 1000 = 0) : readDate (dateText t) = .ok t := by
  have text := dateText_toList naive
  have ends : offsetLength (dateText t).toList = .ok 1 := by
    have last : fromEnd? (dateText t).toList 1 = some 'Z' := by
      simp [fromEnd?, text]
    unfold offsetLength
    rw [last]
    rfl
  have length : (dateText t).toList.length - 1 = (clockChars t ++ fractionChars t).length := by
    rw [text, List.length_append, List.length_singleton, Nat.add_sub_cancel]
  have before : (dateText t).toList.take ((dateText t).toList.length - 1) =
      clockChars t ++ fractionChars t := by
    rw [length, text, List.take_left]
  have zone : readOffset? ((dateText t).toList.drop ((dateText t).toList.length - 1)) = some 0 := by
    rw [length, text, List.drop_left]
    rfl
  obtain ⟨fraction, cut, counted⟩ : ∃ fraction,
      cutFraction (clockChars t ++ fractionChars t) = (clockChars t, fraction) ∧
        countedMicros fraction = .ok t.microsecond := by
    unfold fractionChars
    split_ifs with zero
    · have none : t.microsecond = 0 := by omega
      rw [List.append_nil, none]
      exact ⟨_, cutFraction_none (clockChars_absent t rfl (by decide)), rfl⟩
    · refine ⟨_, cutFraction_point _ (padded_absent rfl 3 _), ?_⟩
      have second := there.microsecond
      have thousands : 1000 * (t.microsecond / 1000) = t.microsecond := by omega
      rw [countedMicros, readMicros_thousandths (by omega) (by omega), thousands]
  have checked : checkMicros t.microsecond = .ok t.microsecond := if_pos there.microsecond
  have wall : (DateTime.mk t.date t.hour t.minute t.second 0 none).wall + t.microsecond - 0 =
      t.wall := by
    unfold DateTime.wall
    dsimp only
    omega
  refine readDate_parts ends (before ▸ cut) counted (readClockDate?_clockChars there) checked zone ?_
  rw [wall]
  exact naive ▸ DateTime.ofWall?_wall there

/-- A date-time to the millisecond is found from its milliseconds since 1970. -/
theorem dateOfMillis?_epochMillis {t : DateTime} (there : t.Exists) (naive : t.offset = none)
    (whole : t.microsecond % 1000 = 0) : dateOfMillis? t.epochMillis = some t := by
  have instant : t.instant = t.wall := by
    rw [DateTime.instant, naive]
    exact Int.sub_zero _
  have millis : DateTime.epoch + t.epochMillis * 1000 = t.wall := by
    rw [DateTime.epochMillis, instant, Int.fdiv_eq_ediv_of_nonneg _ (by decide)]
    unfold DateTime.wall DateTime.epoch
    omega
  unfold dateOfMillis?
  rw [millis]
  exact naive ▸ DateTime.ofWall?_wall there

end ExtendedJson

end SearchQuery
