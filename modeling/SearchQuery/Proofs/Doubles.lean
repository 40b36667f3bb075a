import Mathlib.Algebra.Order.Field.Power
import Mathlib.Data.Nat.Prime.Basic
import Mathlib.Data.Rat.Floor
import Mathlib.Tactic.FieldSimp
import Mathlib.Tactic.Linarith
import Mathlib.Tactic.Positivity
import SearchQuery.Number

/-!
# Doubles and their shortest decimals

A number beyond the largest double rounds to none, and one below half of the
smallest rounds to zero; so the two shortcuts of reading a decimal agree with
rounding its exact value.  The shortest decimal of a magnitude that a double
can hold rounds to that magnitude again.
-/

namespace SearchQuery

namespace Double

theorem pow2_pos (e : Int) : 0 < pow2 e :=
  zpow_pos (by norm_num) e

theorem pow10_pos (e : Int) : 0 < pow10 e :=
  zpow_pos (by norm_num) e

theorem pow2_le {d e : Int} (below : d ≤ e) : pow2 d ≤ pow2 e :=
  zpow_le_zpow_right₀ (by norm_num) below

theorem pow10_le {d e : Int} (below : d ≤ e) : pow10 d ≤ pow10 e :=
  zpow_le_zpow_right₀ (by norm_num) below

theorem pow2_add (d e : Int) : pow2 (d + e) = pow2 d * pow2 e :=
  zpow_add₀ (by norm_num) d e

theorem pow10_add (d e : Int) : pow10 (d + e) = pow10 d * pow10 e :=
  zpow_add₀ (by norm_num) d e

theorem pow10_nat (n : Nat) : pow10 n = 10 ^ n :=
  zpow_natCast 10 n

theorem pow2_nat (n : Nat) : pow2 n = 2 ^ n :=
  zpow_natCast 2 n

theorem pow2_sub (d e : Nat) : pow2 ((d : Int) - e) = 2 ^ d / 2 ^ e := by
  rw [eq_div_iff (by positivity), ← pow2_nat, ← pow2_nat, ← pow2_add]
  congr 1
  omega

/-- Three powers of two are less than one of ten. -/
theorem pow2_le_pow10 (n : Nat) : pow2 (3 * n : Nat) ≤ pow10 n := by
  rw [pow10_nat, pow2_nat, pow_mul]
  exact pow_le_pow_left₀ (by norm_num) (by norm_num) n

theorem pow10_neg_le (n : Nat) : pow10 (-n) ≤ pow2 (-(3 * n : Nat)) := by
  have positive := pow2_pos (3 * n : Nat)
  unfold pow10 pow2 at *
  rw [zpow_neg, zpow_neg]
  exact inv_anti₀ positive (pow2_le_pow10 n)

/-! ## Rounding -/

/-- A positive number is less than the next power of two after its logarithm. -/
theorem lt_pow2_floorLog2 {q : Rat} (positive : 0 < q) : q < pow2 (floorLog2 q + 1) := by
  unfold floorLog2
  dsimp only
  split_ifs with reached
  · have above : (q.num.toNat : Rat) < pow2 (Nat.log2 q.num.toNat + 1) := by
      have bound := @Nat.lt_log2_self q.num.toNat
      rw [← Nat.cast_succ, pow2_nat]
      exact_mod_cast bound
    have below : pow2 (Nat.log2 q.den) ≤ (q.den : Rat) := by
      rw [pow2_nat]
      exact_mod_cast Nat.log2_self_le q.den_nz
    have num : (q.num : Rat) = q.num.toNat := by
      exact_mod_cast (Int.toNat_of_nonneg (Rat.num_nonneg.mpr positive.le)).symm
    have split : pow2 ((Nat.log2 q.num.toNat : Int) - Nat.log2 q.den + 1) =
        pow2 (Nat.log2 q.num.toNat + 1) / pow2 (Nat.log2 q.den) := by
      rw [eq_div_iff (pow2_pos _).ne', ← pow2_add]
      congr 1
      omega
    calc q = q.num.toNat / q.den := by rw [← num, Rat.num_div_den]
      _ < pow2 (Nat.log2 q.num.toNat + 1) / pow2 (Nat.log2 q.den) :=
        div_lt_div₀ above below (pow2_pos _).le (pow2_pos _)
      _ = _ := split.symm
  · rw [Int.sub_add_cancel]
    exact not_le.mp reached

/-- The power of two of its logarithm is not more than a positive number. -/
theorem pow2_floorLog2_le {q : Rat} (positive : 0 < q) : pow2 (floorLog2 q) ≤ q := by
  unfold floorLog2
  dsimp only
  split_ifs with reached
  · exact reached
  · have below : pow2 (Nat.log2 q.num.toNat) ≤ (q.num.toNat : Rat) := by
      have nonzero : q.num.toNat ≠ 0 := by
        have := Rat.num_pos.mpr positive
        omega
      rw [pow2_nat]
      exact_mod_cast Nat.log2_self_le nonzero
    have above : (q.den : Rat) < pow2 (Nat.log2 q.den + 1) := by
      have bound := @Nat.lt_log2_self q.den
      rw [← Nat.cast_succ, pow2_nat]
      exact_mod_cast bound
    have num : (q.num : Rat) = q.num.toNat := by
      exact_mod_cast (Int.toNat_of_nonneg (Rat.num_nonneg.mpr positive.le)).symm
    have split : pow2 ((Nat.log2 q.num.toNat : Int) - Nat.log2 q.den - 1) =
        pow2 (Nat.log2 q.num.toNat) / pow2 (Nat.log2 q.den + 1) := by
      rw [eq_div_iff (pow2_pos _).ne', ← pow2_add]
      congr 1
      omega
    calc pow2 ((Nat.log2 q.num.toNat : Int) - Nat.log2 q.den - 1)
        = pow2 (Nat.log2 q.num.toNat) / pow2 (Nat.log2 q.den + 1) := split
      _ ≤ q.num.toNat / q.den :=
        div_le_div₀ (Nat.cast_nonneg _) below (Nat.cast_pos.mpr q.den_pos) above.le
      _ = q := by rw [← num, Rat.num_div_den]

/-- The nearest integer is not below a smaller integer. -/
theorem le_nearestEven {q : Rat} {n : Int} (below : (n : Rat) ≤ q) : n ≤ nearestEven q := by
  have floor : n ≤ q.floor := Rat.le_floor_iff.mpr below
  unfold nearestEven
  dsimp only
  split_ifs <;> omega

/-- An integer less than a half away is the nearest one. -/
theorem nearestEven_near {q : Rat} {n : Int} (near : |q - n| < 1 / 2) : nearestEven q = n := by
  obtain ⟨above, below⟩ := abs_lt.mp near
  unfold nearestEven
  dsimp only
  rcases le_or_gt (n : Rat) q with reached | missed
  · have floor : q.floor = n := by
      have low := Rat.le_floor_iff.mpr reached
      have high : q.floor < n + 1 := Rat.floor_lt_iff.mpr (by push_cast; linarith)
      omega
    rw [floor, if_pos below]
  · have floor : q.floor = n - 1 := by
      have low : n - 1 ≤ q.floor := Rat.le_floor_iff.mpr (by push_cast; linarith)
      have high : q.floor < n := Rat.floor_lt_iff.mpr missed
      omega
    rw [floor, if_neg (by push_cast; linarith), if_pos (by push_cast; linarith)]
    omega

/-- The logarithm of a number between two powers of two. -/
theorem floorLog2_eq {q : Rat} {e : Int} (low : pow2 e ≤ q) (high : q < pow2 (e + 1)) :
    floorLog2 q = e := by
  have positive : 0 < q := lt_of_lt_of_le (pow2_pos e) low
  have least : e < floorLog2 q + 1 := by
    by_contra under
    exact absurd (lt_of_le_of_lt low (lt_pow2_floorLog2 positive))
      (not_lt.mpr (pow2_le (not_lt.mp under)))
  have most : floorLog2 q < e + 1 := by
    by_contra above
    exact absurd (lt_of_le_of_lt (pow2_floorLog2_le positive) high)
      (not_lt.mpr (pow2_le (not_lt.mp above)))
  omega

/-- A number rounds to the multiple of its spacing that is less than half a spacing away. -/
theorem roundMagnitude_near {q : Rat} {e : Int} {n : Nat} (normal : -1022 ≤ e) (low : pow2 e ≤ q)
    (high : q < pow2 (e + 1)) (near : |q / pow2 (e - 52) - n| < 1 / 2)
    (fits : n * pow2 (e - 52) < pow2 1024) : roundMagnitude q = some (n * pow2 (e - 52)) := by
  have positive : 0 < q := lt_of_lt_of_le (pow2_pos e) low
  have spacing : spacingExponent q = e - 52 := by
    unfold spacingExponent
    rw [floorLog2_eq low high]
    omega
  have nearest : nearestEven (q / pow2 (e - 52)) = (n : Int) :=
    nearestEven_near (by exact_mod_cast near)
  unfold roundMagnitude
  rw [if_neg (not_le.mpr positive)]
  dsimp only
  rw [spacing, nearest, Int.cast_natCast, if_pos fits]

/-- A quotient of integers lies in the scale of a power of two, next to an integer of that scale. -/
structure Close (a b n scale : Nat) : Prop where
  positive : 0 < b
  normal : scale ≤ 1074
  low : 2 ^ 52 * b ≤ a * 2 ^ scale
  high : a * 2 ^ scale < 2 ^ 53 * b
  under : 2 * (a * 2 ^ scale) < (2 * n + 1) * b
  above : 2 * n * b < 2 * (a * 2 ^ scale) + b

instance (a b n scale : Nat) : Decidable (Close a b n scale) :=
  decidable_of_iff (0 < b ∧ scale ≤ 1074 ∧ 2 ^ 52 * b ≤ a * 2 ^ scale ∧
      a * 2 ^ scale < 2 ^ 53 * b ∧ 2 * (a * 2 ^ scale) < (2 * n + 1) * b ∧
        2 * n * b < 2 * (a * 2 ^ scale) + b)
    ⟨fun ⟨positive, normal, low, high, under, above⟩ =>
      ⟨positive, normal, low, high, under, above⟩,
     fun close => ⟨close.positive, close.normal, close.low, close.high, close.under, close.above⟩⟩

/-- A quotient of integers rounds to the integer next to it in its scale. -/
theorem Close.roundMagnitude {a b n scale : Nat} (close : Close a b n scale) :
    Double.roundMagnitude (a / b) = some ((n : Rat) / 2 ^ scale) := by
  have positive : (0 : Rat) < b := by exact_mod_cast close.positive
  have scaled : (0 : Rat) < 2 ^ scale := by positivity
  have low : (2 ^ 52 * b : Rat) ≤ a * 2 ^ scale := by exact_mod_cast close.low
  have high : (a * 2 ^ scale : Rat) < 2 ^ 53 * b := by exact_mod_cast close.high
  have under : (2 * (a * 2 ^ scale) : Rat) < (2 * n + 1) * b := by exact_mod_cast close.under
  have above : (2 * n * b : Rat) < 2 * (a * 2 ^ scale) + b := by exact_mod_cast close.above
  have first : pow2 (52 - (scale : Int)) = 2 ^ 52 / 2 ^ scale := pow2_sub 52 scale
  have next : pow2 (52 - (scale : Int) + 1) = 2 ^ 53 / 2 ^ scale := by
    rw [← pow2_sub 53 scale]
    congr 1
    omega
  have spacing : pow2 (52 - (scale : Int) - 52) = 1 / 2 ^ scale := by
    rw [show (1 : Rat) = 2 ^ 0 from rfl, ← pow2_sub 0 scale]
    congr 1
    omega
  have near : |(a / b / pow2 (52 - (scale : Int) - 52) : Rat) - n| < 1 / 2 := by
    rw [spacing, div_div_eq_mul_div, div_one, div_mul_eq_mul_div]
    refine abs_lt.mpr ⟨?_, ?_⟩
    · rw [neg_lt_sub_iff_lt_add, ← sub_lt_iff_lt_add', lt_div_iff₀ positive]
      linarith
    · rw [sub_lt_iff_lt_add, div_lt_iff₀ positive]
      linarith
  have fits : (n : Rat) * pow2 (52 - (scale : Int) - 52) < pow2 1024 := by
    have few : (n : Rat) < 2 ^ 54 := by
      have bound : (2 * n : Rat) * b < 2 ^ 55 * b := by linarith
      have := lt_of_mul_lt_mul_right bound positive.le
      linarith
    rw [spacing, mul_one_div]
    calc (n : Rat) / 2 ^ scale ≤ n := div_le_self (Nat.cast_nonneg n) (one_le_pow₀ one_le_two)
      _ < pow2 54 := few
      _ ≤ pow2 1024 := pow2_le (by decide)
  have normal := close.normal
  rw [roundMagnitude_near (by omega) (first ▸ (div_le_div_iff₀ scaled positive).mpr low)
    (next ▸ (div_lt_div_iff₀ positive scaled).mpr high) near fits, spacing, mul_one_div]

theorem roundMagnitude_huge {q : Rat} (huge : pow2 1024 ≤ q) : roundMagnitude q = none := by
  have positive : 0 < q := lt_of_lt_of_le (pow2_pos _) huge
  have logarithm : 1024 ≤ floorLog2 q := by
    by_contra less
    have under : q < pow2 1024 :=
      lt_of_lt_of_le (lt_pow2_floorLog2 positive) (pow2_le (by omega))
    exact absurd huge (not_le.mpr under)
  have spacing : spacingExponent q = floorLog2 q - 52 := by
    unfold spacingExponent
    omega
  have many : ((2 ^ 52 : Int) : Rat) ≤ q / pow2 (floorLog2 q - 52) := by
    have split : pow2 (floorLog2 q) = pow2 52 * pow2 (floorLog2 q - 52) := by
      rw [← pow2_add]
      congr 1
      omega
    have whole : ((2 ^ 52 : Int) : Rat) = pow2 52 := by norm_num [pow2]
    rw [le_div_iff₀ (pow2_pos _), whole, ← split]
    exact pow2_floorLog2_le positive
  have rounded : pow2 1024 ≤
      nearestEven (q / pow2 (floorLog2 q - 52)) * pow2 (floorLog2 q - 52) := by
    calc pow2 1024 ≤ pow2 (52 + (floorLog2 q - 52)) := pow2_le (by omega)
      _ = pow2 52 * pow2 (floorLog2 q - 52) := pow2_add _ _
      _ ≤ _ := by
        have counted : pow2 52 ≤ (nearestEven (q / pow2 (floorLog2 q - 52)) : Rat) := by
          have whole : pow2 52 = ((2 ^ 52 : Int) : Rat) := by norm_num [pow2]
          rw [whole]
          exact_mod_cast le_nearestEven many
        exact mul_le_mul_of_nonneg_right counted (pow2_pos _).le
  unfold roundMagnitude
  rw [if_neg (not_le.mpr positive)]
  dsimp only
  rw [spacing, if_neg (not_lt.mpr rounded)]

theorem roundMagnitude_tiny {q : Rat} (nonnegative : 0 ≤ q) (tiny : q < pow2 (-1075)) :
    roundMagnitude q = some 0 := by
  have half : q / pow2 (spacingExponent q) < 1 / 2 := by
    have coarse : pow2 (-1074) ≤ pow2 (spacingExponent q) := pow2_le (le_max_left _ _)
    have twice : pow2 (-1074) = 2 * pow2 (-1075) := by
      rw [show (-1074 : Int) = 1 + -1075 from rfl, pow2_add]
      norm_num [pow2]
    rw [div_lt_iff₀ (pow2_pos _)]
    linarith
  have nearest : nearestEven (q / pow2 (spacingExponent q)) = 0 := by
    have above := div_nonneg nonnegative (pow2_pos (spacingExponent q)).le
    refine nearestEven_near (abs_lt.mpr ⟨?_, ?_⟩)
    · rw [Int.cast_zero, sub_zero]
      linarith
    · rw [Int.cast_zero, sub_zero]
      exact half
  unfold roundMagnitude
  split_ifs with zero
  · rfl
  · simp [nearest, pow2_pos]

/-- A decimal is read as the double nearest to its exact value. -/
theorem ofScientific_eq (negative : Bool) {digits : Nat} (nonzero : digits ≠ 0) (exponent : Int) :
    ofScientific negative digits exponent = ofMagnitude negative (digits * pow10 exponent) := by
  have least : (1 : Rat) ≤ digits := by exact_mod_cast Nat.one_le_iff_ne_zero.mpr nonzero
  unfold ofScientific
  dsimp only
  rw [if_neg nonzero]
  split_ifs with huge tiny
  · have large : pow2 1024 ≤ digits * pow10 exponent := by
      calc pow2 1024 ≤ pow2 (3 * 401 : Nat) := pow2_le (by norm_num)
        _ ≤ pow10 401 := pow2_le_pow10 401
        _ ≤ pow10 exponent := pow10_le huge
        _ ≤ digits * pow10 exponent := le_mul_of_one_le_left (pow10_pos _).le least
    rw [ofMagnitude, roundMagnitude_huge large]
  · have below : (digits : Rat) < pow10 (Nat.log2 digits / 3 + 1 : Nat) := by
      calc (digits : Rat) < pow2 (Nat.log2 digits + 1 : Nat) := by
            rw [pow2_nat]
            exact_mod_cast Nat.lt_log2_self
        _ ≤ pow2 (3 * (Nat.log2 digits / 3 + 1) : Nat) := pow2_le (by omega)
        _ ≤ _ := pow2_le_pow10 _
    have small : digits * pow10 exponent < pow2 (-1075) := by
      calc digits * pow10 exponent
          < pow10 (Nat.log2 digits / 3 + 1 : Nat) * pow10 exponent :=
            mul_lt_mul_of_pos_right below (pow10_pos _)
        _ = pow10 ((Nat.log2 digits / 3 + 1 : Nat) + exponent) := (pow10_add _ _).symm
        _ ≤ pow10 (-(400 : Nat)) := pow10_le (by omega)
        _ ≤ pow2 (-(3 * 400 : Nat)) := pow10_neg_le 400
        _ ≤ pow2 (-1075) := pow2_le (by norm_num)
    have nonnegative : 0 ≤ digits * pow10 exponent :=
      mul_nonneg (Nat.cast_nonneg _) (pow10_pos _).le
    rw [ofMagnitude, roundMagnitude_tiny nonnegative small]
  · rfl

/-! ## Magnitudes -/

/-- A magnitude that a double can hold is not negative. -/
theorem Representable.nonnegative {q : Rat} (held : Representable q) : 0 ≤ q := by
  by_contra negative
  have same : some 0 = some q := by
    rw [← held, roundMagnitude, if_pos (not_le.mp negative).le]
  exact negative (Option.some.inj same).le

/-- Its denominator is a power of two. -/
theorem Representable.den {q : Rat} (held : Representable q) : ∃ n, q.den = 2 ^ n := by
  by_cases zero : q ≤ 0
  · have same : q = 0 := le_antisymm zero held.nonnegative
    exact ⟨0, by rw [same]; rfl⟩
  · unfold Representable roundMagnitude at held
    rw [if_neg zero] at held
    dsimp only at held
    split_ifs at held
    have value := Option.some.inj held
    set count := nearestEven (q / pow2 (spacingExponent q))
    set e := spacingExponent q
    have fraction : q = Rat.divInt (count * 2 ^ e.toNat) ((2 ^ (-e).toNat : Nat) : Int) := by
      have cancel : pow2 e = pow2 e.toNat / pow2 (-e).toNat := by
        rw [eq_div_iff (pow2_pos _).ne', ← pow2_add]
        congr 1
        omega
      rw [Rat.divInt_eq_div, ← value, cancel, pow2_nat, pow2_nat]
      push_cast
      exact mul_div_assoc' _ _ _
    have divides : q.den ∣ 2 ^ (-e).toNat := by
      have := Rat.den_dvd (count * 2 ^ e.toNat) ((2 ^ (-e).toNat : Nat) : Int)
      rw [← fraction] at this
      exact_mod_cast this
    obtain ⟨n, -, power⟩ := (Nat.dvd_prime_pow Nat.prime_two).mp divides
    exact ⟨n, power⟩

/-- The exact decimal of a magnitude that a double can hold has its value. -/
theorem Representable.exactDecimal_value {q : Rat} (held : Representable q) :
    (exactDecimal q).value = q := by
  obtain ⟨n, power⟩ := held.den
  have places : Nat.log2 q.den = n := by rw [power, Nat.log2_two_pow]
  have ten : 10 ^ n = 5 ^ n * 2 ^ n := by rw [← Nat.mul_pow]
  have digits : q.num.toNat * Nat.pow 10 n / q.den = q.num.toNat * 5 ^ n := by
    rw [power, Nat.pow_eq, ten, ← mul_assoc, Nat.mul_div_cancel _ (by positivity)]
  have num : (q.num : Rat) = q.num.toNat := by
    exact_mod_cast (Int.toNat_of_nonneg (Rat.num_nonneg.mpr held.nonnegative)).symm
  have whole : (q.num.toNat : Rat) = q * 2 ^ n := by
    have den : (q.den : Rat) = 2 ^ n := by exact_mod_cast power
    rw [← num, ← den]
    exact (Rat.mul_den_eq_num q).symm
  unfold exactDecimal Scientific.value
  dsimp only
  rw [places, digits, pow10, zpow_neg, zpow_natCast]
  push_cast
  rw [whole]
  have split : (10 : Rat) ^ n = 5 ^ n * 2 ^ n := by exact_mod_cast ten
  rw [split]
  field_simp

end Double

namespace Scientific

theorem value_stripZeros (steps : Nat) (s : Scientific) : (stripZeros steps s).value = s.value := by
  induction steps generalizing s with
  | zero => rfl
  | succ steps ih =>
      unfold stripZeros
      split_ifs with zeros
      · rw [ih]
        have digits : (s.digits : Rat) = (s.digits / 10 : Nat) * 10 := by
          have := Nat.div_add_mod s.digits 10
          exact_mod_cast (by omega : s.digits = s.digits / 10 * 10)
        unfold value
        dsimp only
        rw [Double.pow10_add, digits]
        norm_num [Double.pow10]
        ring
      · rfl

end Scientific

namespace Double

/-- The shortest decimal of a magnitude that a double can hold rounds to it. -/
theorem Representable.shortest {q : Rat} (held : Representable q) :
    roundMagnitude (shortest q).value = some q := by
  unfold Double.shortest
  dsimp only
  rw [Scientific.value_stripZeros]
  cases found : (List.range 17).findSome? (fun count => withDigits q (count + 1)) with
  | none =>
      rw [Option.getD_none, held.exactDecimal_value]
      exact held
  | some s =>
      obtain ⟨count, -, given⟩ := List.exists_of_findSome?_eq_some found
      rw [Option.getD_some]
      simpa only [readsBack, beq_iff_eq] using readsBack_of_withDigits given

theorem Representable.shortest_ne_zero {q : Rat} (held : Representable q) (positive : 0 < q) :
    (Double.shortest q).value ≠ 0 := by
  intro zero
  have rounded := held.shortest
  rw [zero, roundMagnitude, if_pos le_rfl] at rounded
  exact positive.ne (Option.some.inj rounded)

/-- The shortest decimal of a positive magnitude has digits. -/
theorem Representable.digits_pos {q : Rat} (held : Representable q) (positive : 0 < q) :
    0 < (Double.shortest q).digits := by
  rw [Nat.pos_iff_ne_zero]
  intro none
  refine held.shortest_ne_zero positive ?_
  rw [Scientific.value, none, Nat.cast_zero, zero_mul]

/-- A decimal with the value of a shortest one is read as the magnitude. -/
theorem Representable.ofScientific {q : Rat} (held : Representable q) (positive : 0 < q)
    (negative : Bool) {digits : Nat} {exponent : Int}
    (value : digits * pow10 exponent = (Double.shortest q).value) :
    Double.ofScientific negative digits exponent = .finite negative q := by
  have nonzero : digits ≠ 0 := by
    rintro rfl
    refine held.shortest_ne_zero positive ?_
    rw [← value, Nat.cast_zero, zero_mul]
  rw [ofScientific_eq negative nonzero, value, ofMagnitude, held.shortest]

end Double

end SearchQuery
