import Mathlib.Data.List.Basic
import Mathlib.Tactic.Ring
import SearchQuery.Json
import SearchQuery.Proofs.Doubles

/-!
# Numbers are read back

An integer is read from its digits, and a finite double from the text of its
shortest decimal, whether that stands around a point or has an exponent: what
is read has the value of the decimal, and so rounds to the double again.  The
text must end there, before a character that would not go on with the number.
-/

namespace SearchQuery

namespace Decimal

theorem digitsValue_append (first second : List Char) :
    digitsValue (first ++ second) = digitsValue first * 10 ^ second.length + digitsValue second := by
  have shifted : ∀ (chars : List Char) (total : Nat),
      chars.foldl (fun total c => total * 10 + (c.toNat - '0'.toNat)) total =
        total * 10 ^ chars.length + digitsValue chars := by
    intro chars
    induction chars with
    | nil => simp [digitsValue]
    | cons c rest ih =>
        intro total
        unfold digitsValue
        rw [List.foldl_cons, List.foldl_cons, ih, ih (0 * 10 + _), List.length_cons]
        ring
  unfold digitsValue
  rw [List.foldl_append, shifted]
  rfl

theorem digitsValue_toDigits (n : Nat) : digitsValue (Nat.toDigits 10 n) = n := by
  have same : digitsValue (Nat.toDigits 10 n) = Nat.ofDigitChars 10 (Nat.toDigits 10 n) 0 := by
    unfold digitsValue Nat.ofDigitChars
    congr 1
    funext total c
    rw [Nat.mul_comm]
  rw [same, Nat.ofDigitChars_ten_toDigits]

theorem digitsValue_zeros (count : Nat) : digitsValue (List.replicate count '0') = 0 := by
  induction count with
  | zero => rfl
  | succ count ih =>
      rw [List.replicate_succ', digitsValue_append, ih]
      rfl

/-- Digits are split off up to a character that is none. -/
theorem spanDigits_append {digits rest : List Char} (all : ∀ c ∈ digits, c.isDigit = true)
    (ends : ∀ c ∈ rest.head?, c.isDigit = false) : spanDigits (digits ++ rest) = (digits, rest) := by
  unfold spanDigits
  rw [List.takeWhile_append_of_pos all, List.dropWhile_append_of_pos all]
  cases rest with
  | nil => simp
  | cons c others => simp [ends c rfl]

end Decimal

/-- The digits of a number are digits. -/
theorem toDigits_isDigit (n : Nat) : ∀ c ∈ Nat.toDigits 10 n, c.isDigit = true :=
  fun _ held => Nat.isDigit_of_mem_toDigits (by decide) (by decide) held

/-- The digits of a positive number do not begin with a zero. -/
theorem toDigits_head (n : Nat) (positive : 0 < n) : (Nat.toDigits 10 n).head? ≠ some '0' := by
  induction n using Nat.strongRecOn with
  | ind n ih =>
      rw [Nat.toDigits_eq_if (by decide)]
      split_ifs with small
      · have nonzero : ∀ d < 10, 0 < d → [Nat.digitChar d].head? ≠ some '0' := by decide
        exact nonzero n small positive
      · have shorter := ih (n / 10) (by omega) (by omega)
        rw [List.head?_append_of_ne_nil _ Nat.toDigits_ne_nil]
        exact shorter

namespace Json

/-- A text that does not go on with a number. -/
def Stops (rest : List Char) : Prop :=
  ∀ c ∈ rest.head?, c.isDigit = false ∧ c ≠ '.' ∧ c ≠ 'e' ∧ c ≠ 'E'

namespace Stops

variable {rest : List Char}

theorem nil : Stops [] := by
  intro c held
  cases held

theorem isDigit (stops : Stops rest) : ∀ c ∈ rest.head?, c.isDigit = false :=
  fun c held => (stops c held).1

end Stops

/-! ## Parts -/

/-- Digits begin with no sign. -/
theorem head?_digits {digits rest : List Char} (some : digits ≠ [])
    (all : ∀ c ∈ digits, c.isDigit = true) : (digits ++ rest).head? ≠ .some '-' := by
  rw [List.head?_append_of_ne_nil _ some]
  intro sign
  have digit := all _ (List.mem_of_mem_head? sign)
  exact absurd digit (by decide)

/-- Digits are read as those before the point, unless a zero comes first and is not alone. -/
theorem readIntegral_digits {digits rest : List Char} (some : digits ≠ [])
    (all : ∀ c ∈ digits, c.isDigit = true) (first : digits = ['0'] ∨ digits.head? ≠ .some '0')
    (ends : ∀ c ∈ rest.head?, c.isDigit = false) :
    readIntegral (digits ++ rest) = .some (digits, rest) := by
  have read := Decimal.spanDigits_append all ends
  rcases first with rfl | first
  · rfl
  · cases digits with
    | nil => exact absurd rfl some
    | cons c others =>
        have nonzero : c ≠ '0' := by simpa using first
        simp only [List.cons_append] at read ⊢
        simp [readIntegral, nonzero, read]

/-- The digits of a number are a zero alone, or do not begin with one. -/
theorem toDigits_leading (n : Nat) :
    Nat.toDigits 10 n = ['0'] ∨ (Nat.toDigits 10 n).head? ≠ some '0' := by
  rcases Nat.eq_zero_or_pos n with rfl | positive
  · exact .inl rfl
  · exact .inr (toDigits_head n positive)

theorem readFraction_digits {digits rest : List Char} (some : digits ≠ [])
    (all : ∀ c ∈ digits, c.isDigit = true) (ends : ∀ c ∈ rest.head?, c.isDigit = false) :
    readFraction ('.' :: (digits ++ rest)) = (digits, rest) := by
  have read := Decimal.spanDigits_append all ends
  cases digits with
  | nil => exact absurd rfl some
  | cons c others =>
      rw [List.cons_append] at read ⊢
      simp [readFraction, read]

theorem readFraction_none {rest : List Char} (point : ∀ c ∈ rest.head?, c ≠ '.') :
    readFraction rest = ([], rest) := by
  cases rest with
  | nil => rfl
  | cons c others => simp [readFraction, point c rfl]

theorem readExponent_none {rest : List Char} (stops : Stops rest) :
    readExponent rest = (none, rest) := by
  cases rest with
  | nil => rfl
  | cons c others =>
      have other := stops c rfl
      simp [readExponent, other.2.2.1, other.2.2.2]

theorem readExponent_signed (negative : Bool) {digits rest : List Char} (some : digits ≠ [])
    (all : ∀ c ∈ digits, c.isDigit = true) (ends : ∀ c ∈ rest.head?, c.isDigit = false) :
    readExponent ('e' :: (if negative then '-' else '+') :: (digits ++ rest)) =
      (.some (if negative then -(Decimal.digitsValue digits : Int) else Decimal.digitsValue digits),
        rest) := by
  have read := Decimal.spanDigits_append all ends
  cases digits with
  | nil => exact absurd rfl some
  | cons c others =>
      rw [List.cons_append] at read ⊢
      cases negative <;> simp [readExponent, Decimal.takeSign, read]

/-! ## Numbers -/

def signed (negative : Bool) (chars : List Char) : List Char :=
  if negative then '-' :: chars else chars

/-- A text begins with a double of some value, and goes on with the rest. -/
inductive Begins (chars rest : List Char) (value : Rat) : Prop where
  | parts {whole afterWhole fraction afterFraction : List Char} {exponent : Option Int}
      (plain : chars.head? ≠ some '-')
      (integral : readIntegral chars = some (whole, afterWhole))
      (fractional : readFraction afterWhole = (fraction, afterFraction))
      (scaled : readExponent afterFraction = (exponent, rest))
      (proper : (fraction.isEmpty && exponent.isNone) = false)
      (valued : Decimal.digitsValue (whole ++ fraction) *
        Double.pow10 (exponent.getD 0 - fraction.length) = value)

section

variable {α ε : Type} (maker : Maker α ε)

theorem readNumber_signed (negative : Bool) {chars : List Char}
    (plain : chars.head? ≠ some '-') {whole afterWhole fraction afterFraction rest : List Char}
    {exponent : Option Int} (integral : readIntegral chars = some (whole, afterWhole))
    (fractional : readFraction afterWhole = (fraction, afterFraction))
    (scaled : readExponent afterFraction = (exponent, rest)) :
    readNumber maker (signed negative chars) =
      if fraction.isEmpty && exponent.isNone then
        if maxDigits < whole.length then none
        else
          some (maker.whole (if negative then -(Decimal.digitsValue whole : Int)
            else Decimal.digitsValue whole), rest)
      else
        some (maker.double (Double.ofScientific negative (Decimal.digitsValue (whole ++ fraction))
          (exponent.getD 0 - fraction.length)), rest) := by
  cases negative with
  | true =>
      simp only [signed, if_true, readNumber, integral, fractional, scaled]
  | false =>
      cases chars with
      | nil => cases integral
      | cons c others =>
          have other : c ≠ '-' := by simpa using plain
          simp [signed, readNumber, other, integral, fractional, scaled]

/-- The digits of an integer are read as the integer, if they are not too many. -/
theorem readNumber_toDigits (negative : Bool) {n : Nat}
    (few : (Nat.toDigits 10 n).length ≤ maxDigits) {rest : List Char} (stops : Stops rest) :
    readNumber maker (signed negative (Nat.toDigits 10 n ++ rest)) =
      some (maker.whole (if negative then -(n : Int) else n), rest) := by
  rw [readNumber_signed maker negative (head?_digits Nat.toDigits_ne_nil (toDigits_isDigit n)) 
    (readIntegral_digits Nat.toDigits_ne_nil (toDigits_isDigit n) (toDigits_leading n)
      stops.isDigit)
    (readFraction_none (fun c held => (stops c held).2.1)) (readExponent_none stops)]
  simp [not_lt.mpr few, Decimal.digitsValue_toDigits]

theorem Begins.readNumber {chars rest : List Char} {value : Rat} (begins : Begins chars rest value)
    (negative : Bool) : ∃ digits exponent,
      Json.readNumber maker (signed negative chars) =
        some (maker.double (Double.ofScientific negative digits exponent), rest) ∧
      digits * Double.pow10 exponent = value := by
  obtain ⟨plain, integral, fractional, scaled, proper, valued⟩ := begins
  refine ⟨_, _, ?_, valued⟩
  rw [readNumber_signed maker negative plain integral fractional scaled, proper]
  simp

end

/-! ## Doubles -/

/-- Digits around a point are a double of their value. -/
theorem begins_point {whole fraction rest : List Char} (stops : Stops rest) (someWhole : whole ≠ [])
    (digitsWhole : ∀ c ∈ whole, c.isDigit = true) (first : whole = ['0'] ∨ whole.head? ≠ some '0')
    (someFraction : fraction ≠ []) (digitsFraction : ∀ c ∈ fraction, c.isDigit = true) {n : Nat}
    (value : Decimal.digitsValue (whole ++ fraction) = n) {exponent : Int}
    (power : -(fraction.length : Int) = exponent) :
    Begins (whole ++ '.' :: (fraction ++ rest)) rest (n * Double.pow10 exponent) := by
  refine .parts (head?_digits someWhole digitsWhole)
    (readIntegral_digits someWhole digitsWhole first (by simp))
    (readFraction_digits someFraction digitsFraction stops.isDigit) (readExponent_none stops) ?_ ?_
  · cases fraction with
    | nil => exact absurd rfl someFraction
    | cons c others => rfl
  · rw [Option.getD_none, Int.zero_sub, value, power]

section

variable {n : Nat} {rest : List Char}

theorem zeros_isDigit (count : Nat) : ∀ c ∈ List.replicate count '0', c.isDigit = true := by
  intro c held
  rw [List.eq_of_mem_replicate held]
  rfl

/-- The positional text of digits has the value of the digits, with a point after the first
`before` of them. -/
theorem begins_positional (positive : 0 < n) {before exponent : Int}
    (place : before - (Nat.toDigits 10 n).length = exponent) (stops : Stops rest) :
    Begins (Double.positional (Nat.toDigits 10 n) before ++ rest) rest
      (n * Double.pow10 exponent) := by
  have some := @Nat.toDigits_ne_nil n 10
  have digits := toDigits_isDigit n
  have first := toDigits_head n positive
  have value := Decimal.digitsValue_toDigits n
  generalize Nat.toDigits 10 n = ds at *
  unfold Double.positional
  split_ifs with small
  · -- a zero, the point, more zeros and the digits
    have zero : ∀ c ∈ ['0'], c.isDigit = true := zeros_isDigit 1
    refine begins_point stops (by decide) zero (.inl rfl) (by simp [some])
      (List.forall_mem_append.mpr ⟨zeros_isDigit _, digits⟩) ?_ ?_
    · rw [Decimal.digitsValue_append, Decimal.digitsValue_append, Decimal.digitsValue_zeros, value]
      simp [Decimal.digitsValue]
    · rw [List.length_append, List.length_replicate]
      omega
  · dsimp only
    split_ifs with short
    · -- the digits, zeros, the point and another zero
      have whole : ∀ c ∈ ds ++ List.replicate (before.toNat - ds.length) '0', c.isDigit = true :=
        List.forall_mem_append.mpr ⟨digits, zeros_isDigit _⟩
      have scaled : Decimal.digitsValue
          (ds ++ List.replicate (before.toNat - ds.length) '0' ++ ['0']) =
            n * 10 ^ (before.toNat - ds.length) * 10 := by
        rw [Decimal.digitsValue_append, Decimal.digitsValue_append, Decimal.digitsValue_zeros,
          value, List.length_replicate]
        rfl
      have tenth : -((['0'] : List Char).length : Int) = -1 := rfl
      have begins := begins_point stops (by simp [some]) whole
        (.inr (by rwa [List.head?_append_of_ne_nil _ some])) (by decide) (zeros_isDigit 1) scaled tenth
      have same : ((n * 10 ^ (before.toNat - ds.length) * 10 : Nat) : Rat) * Double.pow10 (-1) =
          n * Double.pow10 exponent := by
        have power : exponent = (before.toNat - ds.length : Nat) := by omega
        rw [power, Double.pow10_nat]
        push_cast
        norm_num [Double.pow10]
        ring
      rw [same] at begins
      rwa [List.append_assoc, List.append_assoc, ← List.append_assoc ds]
    · -- the digits with the point among them
      rw [List.append_assoc, List.cons_append]
      refine begins_point stops ?_ (fun c held => digits c (List.mem_of_mem_take held)) (.inr ?_) ?_
        (fun c held => digits c (List.mem_of_mem_drop held)) ?_ ?_
      · rw [Ne, List.take_eq_nil_iff, or_iff_left some]
        omega
      · rw [List.head?_take, if_neg (by omega)]
        exact first
      · rw [Ne, List.drop_eq_nil_iff]
        omega
      · rw [List.take_append_drop, value]
      · rw [List.length_drop]
        omega

def padded (exponent : Int) : List Char :=
  let power := (Nat.repr exponent.natAbs).toList
  if power.length < 2 then '0' :: power else power

theorem padded_value (exponent : Int) : Decimal.digitsValue (padded exponent) = exponent.natAbs := by
  unfold padded
  dsimp only
  rw [Nat.toList_repr]
  split_ifs
  · rw [← List.singleton_append, Decimal.digitsValue_append, Decimal.digitsValue_toDigits]
    simp [Decimal.digitsValue]
  · exact Decimal.digitsValue_toDigits _

theorem padded_isDigit (exponent : Int) : ∀ c ∈ padded exponent, c.isDigit = true := by
  unfold padded
  dsimp only
  rw [Nat.toList_repr]
  split_ifs
  · exact List.forall_mem_cons.mpr ⟨rfl, toDigits_isDigit _⟩
  · exact toDigits_isDigit _

theorem padded_ne_nil (exponent : Int) : padded exponent ≠ [] := by
  unfold padded
  dsimp only
  rw [Nat.toList_repr]
  split_ifs
  · exact List.cons_ne_nil _ _
  · exact Nat.toDigits_ne_nil

/-- The exponential text of digits has the value of the digits, with a point after the first. -/
theorem begins_exponential (positive : 0 < n) {leading exponent : Int}
    (place : leading + 1 - (Nat.toDigits 10 n).length = exponent) (stops : Stops rest) :
    Begins (Double.exponential (Nat.toDigits 10 n) leading ++ rest) rest
      (n * Double.pow10 exponent) := by
  have some := @Nat.toDigits_ne_nil n 10
  have digits := toDigits_isDigit n
  have first := toDigits_head n positive
  have value := Decimal.digitsValue_toDigits n
  have power : (if leading < 0 then -(Decimal.digitsValue (padded leading) : Int)
      else Decimal.digitsValue (padded leading)) = leading := by
    rw [padded_value]
    split_ifs <;> omega
  have scaled := readExponent_signed (decide (leading < 0)) (padded_ne_nil leading)
    (padded_isDigit leading) stops.isDigit
  simp only [decide_eq_true_eq] at scaled
  rw [power] at scaled
  generalize Nat.toDigits 10 n = ds at *
  rcases ds with - | ⟨c, - | ⟨d, others⟩⟩
  · exact absurd rfl some
  · -- a digit alone has no point
    have text : Double.exponential [c] leading ++ rest =
        [c] ++ 'e' :: (if leading < 0 then '-' else '+') :: (padded leading ++ rest) := rfl
    rw [text]
    refine .parts (head?_digits some digits)
      (readIntegral_digits some digits (.inr first) (by simp)) (readFraction_none (by simp)) scaled
      rfl ?_
    rw [List.append_nil, value, ← place]
    simp
  · have text : Double.exponential (c :: d :: others) leading ++ rest = [c] ++ '.' ::
        (d :: others ++ 'e' :: (if leading < 0 then '-' else '+') :: (padded leading ++ rest)) := by
      simp [Double.exponential, padded]
    rw [text]
    rw [List.forall_mem_cons] at digits
    have alone : ∀ a ∈ [c], a.isDigit = true := by simpa using digits.1
    refine .parts (head?_digits (List.cons_ne_nil c []) alone)
      (readIntegral_digits (List.cons_ne_nil c []) alone (.inr (by simpa using first)) (by simp))
      (readFraction_digits (List.cons_ne_nil d others) digits.2 (by simp)) scaled rfl ?_
    rw [List.singleton_append, value, Option.getD_some, ← place]
    congr 2
    simp only [List.length_cons]
    omega

/-- The text of a positive magnitude has the value of its shortest decimal. -/
theorem begins_magnitude {q : Rat} (held : Double.Representable q) (positive : 0 < q)
    (stops : Stops rest) : Begins (Double.magnitudeText q ++ rest) rest (Double.shortest q).value := by
  have some := held.digits_pos positive
  have length : 0 < (Nat.toDigits 10 (Double.shortest q).digits).length := Nat.length_toDigits_pos
  unfold Double.magnitudeText
  rw [if_neg positive.ne']
  dsimp only
  rw [Nat.toList_repr]
  split_ifs
  · exact begins_positional some (by omega) stops
  · exact begins_exponential some (by omega) stops

end

/-! ## Whole texts -/

/-- The text of an integer is its digits with its sign. -/
theorem toString_eq_signed (n : Int) :
    (toString n).toList = signed (decide (n < 0)) (Nat.toDigits 10 n.natAbs) := by
  cases n with
  | ofNat n => exact Nat.toList_repr
  | negSucc n =>
      show ("-" ++ Nat.repr (n + 1)).toList = _
      have below : decide (Int.negSucc n < 0) = true := decide_eq_true (Int.negSucc_lt_zero n)
      rw [String.toList_append, Nat.toList_repr, below]
      rfl

/-- The text of a finite double is that of its magnitude with its sign. -/
theorem doubleText_eq_signed (negative : Bool) (q : Rat) :
    doubleText (.finite negative q) = signed negative (Double.magnitudeText q) := by
  have plain : doubleText (.finite negative q) = (Double.text (.finite negative q)).toList := by
    cases negative <;> rfl
  rw [plain, Double.text, String.toList_ofList]
  cases negative <;> rfl

theorem signed_append (negative : Bool) (chars rest : List Char) :
    signed negative chars ++ rest = signed negative (chars ++ rest) := by
  cases negative <;> rfl

/-- A text begins with a digit, after a sign or without one. -/
def Numeral (chars : List Char) : Prop :=
  ∃ negative c rest, c.isDigit = true ∧ chars = signed negative (c :: rest)

theorem numeral_of_digits (negative : Bool) {digits : List Char} (some : digits ≠ [])
    (all : ∀ c ∈ digits, c.isDigit = true) (rest : List Char) :
    Numeral (signed negative (digits ++ rest)) := by
  cases digits with
  | nil => exact absurd rfl some
  | cons c others => exact ⟨negative, c, others ++ rest, all c List.mem_cons_self, rfl⟩

/-- What begins with a double begins with a digit. -/
theorem Begins.numeral {chars rest : List Char} {value : Rat} (begins : Begins chars rest value)
    (negative : Bool) : Numeral (signed negative chars) := by
  obtain ⟨-, integral, -, -, -, -⟩ := begins
  cases chars with
  | nil => cases integral
  | cons c others =>
      cases digit : c.isDigit with
      | true => exact ⟨negative, c, others, digit, rfl⟩
      | false =>
          have other : c ≠ '0' := by
            rintro rfl
            exact absurd digit (by decide)
          simp [readIntegral, Decimal.spanDigits, digit, other] at integral

section

variable {α ε : Type} (maker : Maker α ε) {rest : List Char}

theorem numeral_whole (n : Int) (rest : List Char) : Numeral ((toString n).toList ++ rest) := by
  rw [toString_eq_signed, signed_append]
  exact numeral_of_digits _ Nat.toDigits_ne_nil (toDigits_isDigit _) rest

/-- An integer is read back, if it has not too many digits. -/
theorem readNumber_whole {n : Int} (few : (Nat.toDigits 10 n.natAbs).length ≤ maxDigits)
    (stops : Stops rest) :
    readNumber maker ((toString n).toList ++ rest) = some (maker.whole n, rest) := by
  have value : (if decide (n < 0) = true then -(n.natAbs : Int) else n.natAbs) = n := by
    simp only [decide_eq_true_eq]
    split_ifs <;> omega
  rw [toString_eq_signed, signed_append, readNumber_toDigits maker _ few stops, value]

/-- The text of a finite double begins with the value of a decimal that is read as its magnitude. -/
theorem exists_begins {q : Rat} (held : Double.Representable q) (stops : Stops rest) :
    ∃ value, Begins (Double.magnitudeText q ++ rest) rest value ∧
      ∀ (negative : Bool) (digits : Nat) (exponent : Int), digits * Double.pow10 exponent = value →
        Double.ofScientific negative digits exponent = .finite negative q := by
  rcases held.nonnegative.eq_or_lt with rfl | positive
  · have text : Double.magnitudeText 0 ++ rest = ['0'] ++ '.' :: (['0'] ++ rest) := rfl
    refine ⟨(0 : Nat) * Double.pow10 (-1), ?_, ?_⟩
    · rw [text]
      exact begins_point stops (by decide) (zeros_isDigit 1) (.inl rfl) (by decide) (zeros_isDigit 1)
        rfl rfl
    · intro negative digits exponent value
      rw [Nat.cast_zero, zero_mul, mul_eq_zero, or_iff_left (Double.pow10_pos _).ne',
        Nat.cast_eq_zero] at value
      rw [value]
      rfl
  · exact ⟨_, begins_magnitude held positive stops,
      fun negative _ _ value => held.ofScientific positive negative value⟩

theorem numeral_double (negative : Bool) {q : Rat} (held : Double.Representable q)
    (stops : Stops rest) : Numeral (doubleText (.finite negative q) ++ rest) := by
  obtain ⟨value, begins, -⟩ := exists_begins held stops
  rw [doubleText_eq_signed, signed_append]
  exact begins.numeral negative

/-- A finite double that is one is read back. -/
theorem readNumber_double (negative : Bool) {q : Rat} (held : Double.Representable q)
    (stops : Stops rest) :
    readNumber maker (doubleText (.finite negative q) ++ rest) =
      some (maker.double (.finite negative q), rest) := by
  obtain ⟨value, begins, same⟩ := exists_begins held stops
  obtain ⟨digits, exponent, read, valued⟩ := begins.readNumber maker negative
  rw [doubleText_eq_signed, signed_append, read, same negative digits exponent valued]

end

/-- The words for what is no number begin with no digit. -/
theorem Numeral.readScalar {α ε : Type} (maker : Maker α ε) {chars : List Char}
    (numeral : Numeral chars) : Json.readScalar maker chars = readNumber maker chars := by
  obtain ⟨negative, c, rest, digit, rfl⟩ := numeral
  cases negative with
  | false =>
      simp only [signed, Bool.false_eq_true, if_false]
      unfold Json.readScalar
      split
      all_goals simp_all
  | true =>
      simp only [signed, if_true]
      unfold Json.readScalar
      split
      all_goals simp_all

end Json

end SearchQuery
