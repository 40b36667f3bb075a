import Mathlib.Data.List.TakeWhile
import SearchQuery.Proofs.JsonGrammar

/-!
# Strings and numbers are recognized

White space, strings and numbers are read exactly where the grammar has them.
A number is read as far as it goes: what follows it must not go on with it.
-/

namespace SearchQuery

namespace Json

/-! ## White space -/

theorem blank_skipSpace (chars : List Char) : Blank chars (skipSpace chars) := by
  induction chars with
  | nil => exact .here []
  | cons c rest ih =>
      cases space : isSpace c with
      | true =>
          have skipped : skipSpace (c :: rest) = skipSpace rest := List.dropWhile_cons_of_pos space
          rw [skipped]
          exact .skip space ih
      | false =>
          rw [skipSpace_cons rest space]
          exact .here _

namespace Blank

variable {chars rest : List Char}

theorem skipSpace (blank : Blank chars rest) : Json.skipSpace chars = Json.skipSpace rest := by
  induction blank with
  | here chars => rfl
  | skip space later ih =>
      rw [← ih]
      exact List.dropWhile_cons_of_pos space

theorem skipSpace_eq {c : Char} (blank : Blank chars (c :: rest)) (solid : isSpace c = false) :
    Json.skipSpace chars = c :: rest :=
  blank.skipSpace.trans (skipSpace_cons rest solid)

theorem skipSpace_opens (blank : Blank chars rest) (opens : Opens rest) :
    Json.skipSpace chars = rest :=
  blank.skipSpace.trans opens.skipSpace

theorem length_le (blank : Blank chars rest) : rest.length ≤ chars.length := by
  induction blank with
  | here chars => exact Nat.le_refl _
  | skip space later ih => exact Nat.le_succ_of_le ih

/-- White space ends a number, and so does a mark that follows it. -/
theorem stops (blank : Blank chars rest) (mark : Stops rest) : Stops chars := by
  cases blank with
  | here => exact mark
  | @skip c _ _ space later =>
      have alone : Stops [c] := stops_blank (List.forall_mem_singleton.mpr space)
      exact alone

end Blank

/-! ## Strings -/

/-- Characters that were read together with those before are dropped. -/
theorem readChars_drop (count : Nat) (chars : List Char) :
    readChars count chars = readChars 0 (chars.drop count) := by
  induction count generalizing chars with
  | zero => rfl
  | succ count ih =>
      cases chars with
      | nil => rfl
      | cons c rest => exact ih rest

theorem readChars_unit {a b c d : Char} {value : Nat} (known : unitValue? a b c d = some value)
    (rest : List Char) :
    readChars 0 ('\\' :: 'u' :: a :: b :: c :: d :: rest) =
      match partner? value rest with
      | some low => (readChars 6 rest).map (fun read => (pairChar value low :: read.1, read.2))
      | none => (readChars 0 rest).map (fun read => (unitChar value :: read.1, read.2)) := by
  cases partnered : partner? value rest <;> simp only [readChars, known, partnered]

/-- The partner of a code unit is the next mark, if the two are halves of a pair. -/
theorem Marks.partner? {chars rest : List Char} {marks : List Mark}
    (marked : Marks chars marks rest) (high : Nat) :
    Json.partner? high chars =
      match marks with
      | .unit low :: _ => if Paired high low then some low else none
      | _ => none := by
  cases marked with
  | close rest => rfl
  | plain visible slash quote later =>
      rw [Json.partner?.eq_def]
      split
      · rename_i same
        exact absurd (List.cons.inj same).1 slash
      · rfl
  | short known later =>
      rw [Json.partner?.eq_def]
      split
      · rename_i same
        obtain ⟨rfl, -⟩ := List.cons.inj (List.cons.inj same).2
        cases known
      · rfl
  | unit known later =>
      simp only [Json.partner?, known]
      rfl

/-- Marks are read as the characters that they stand for. -/
theorem Marks.read {chars rest : List Char} {marks : List Mark} (marked : Marks chars marks rest) :
    readChars 0 chars = some (joined marks, rest) := by
  induction marks using joined.induct generalizing chars with
  | case1 =>
      cases marked
      rfl
  | case2 c marks ih =>
      cases marked with
      | plain visible slash quote later =>
          have seen : ¬ c.toNat < 0x20 := by omega
          simp [readChars, slash, seen, ih later, joined]
      | @short mark _ _ _ _ known later =>
          have other : mark ≠ 'u' := by
            rintro rfl
            cases known
          simp [readChars, other, known, ih later, joined]
  | case3 high low marks paired ih =>
      cases marked with
      | unit known following =>
          rw [readChars_unit known, following.partner?]
          simp only [paired, if_true, joined]
          cases following with
          | unit partner later =>
              rw [readChars_drop]
              simp [ih later]
  | case4 high low marks apart ih =>
      cases marked with
      | unit known following =>
          rw [readChars_unit known, following.partner?]
          simp [apart, joined, ih following]
  | case5 value marks single ih =>
      cases marked with
      | unit known following =>
          rw [readChars_unit known, following.partner?]
          rcases marks with - | ⟨c | low, more⟩
          · simp [joined, ih following]
          · simp [joined, ih following]
          · exact absurd rfl (single low more)

/-- A partner is written as the escape of a second half. -/
theorem exists_of_partner? {high low : Nat} {chars : List Char}
    (partnered : partner? high chars = some low) : ∃ e f g h rest,
      chars = '\\' :: 'u' :: e :: f :: g :: h :: rest ∧ unitValue? e f g h = some low ∧
        Paired high low := by
  rw [partner?.eq_def] at partnered
  split at partnered
  · rename_i e f g h rest
    split at partnered
    · rename_i value known
      obtain ⟨paired, same⟩ := Option.ite_none_right_eq_some.mp partnered
      cases same
      exact ⟨e, f, g, h, rest, rfl, known, paired⟩
    · cases partnered
  · cases partnered

/-- A code unit without a partner stands for a character of its own. -/
theorem joined_alone {chars rest : List Char} {marks : List Mark} (marked : Marks chars marks rest)
    {value : Nat} (alone : partner? value chars = none) :
    joined (.unit value :: marks) = unitChar value :: joined marks := by
  rw [marked.partner?] at alone
  rcases marks with - | ⟨c | low, more⟩
  · rfl
  · rfl
  · have apart : ¬ Paired value low := by
      intro paired
      simp [paired] at alone
    rw [joined, if_neg apart]

/-- What is read as a string is made of marks that stand for it. -/
theorem exists_marks {chars rest s : List Char} (read : readChars 0 chars = some (s, rest)) :
    ∃ marks, Marks chars marks rest ∧ joined marks = s := by
  -- By induction on the length, since a pair of escapes is read in one step.
  induction length : chars.length using Nat.strongRecOn generalizing chars s with
  | ind bound ih =>
  subst length
  rw [readChars.eq_def] at read
  split at read
  · cases read
  · rename_i skip
    cases skip
  · cases read
    exact ⟨[], .close _, rfl⟩
  · rename_i a b c d more _
    split at read
    · cases read
    · rename_i value known
      split at read
      · rename_i low partnered
        obtain ⟨⟨s, after⟩, readMore, same⟩ := Option.map_eq_some_iff.mp read
        cases same
        obtain ⟨e, f, g, h, others, rfl, second, paired⟩ := exists_of_partner? partnered
        rw [readChars_drop] at readMore
        obtain ⟨marks, marked, rfl⟩ :=
          ih others.length (by simp only [List.length_cons]; omega) readMore rfl
        refine ⟨.unit value :: .unit low :: marks, .unit known (.unit second marked), ?_⟩
        rw [joined, if_pos paired]
      · rename_i alone
        obtain ⟨⟨s, after⟩, readMore, same⟩ := Option.map_eq_some_iff.mp read
        cases same
        obtain ⟨marks, marked, rfl⟩ :=
          ih more.length (by simp only [List.length_cons]; omega) readMore rfl
        exact ⟨.unit value :: marks, .unit known marked, joined_alone marked alone⟩
  · rename_i c more _ _
    split at read
    · rename_i plain known
      obtain ⟨⟨s, after⟩, readMore, same⟩ := Option.map_eq_some_iff.mp read
      cases same
      obtain ⟨marks, marked, rfl⟩ :=
        ih more.length (by simp only [List.length_cons]; omega) readMore rfl
      exact ⟨.char plain :: marks, .short known marked, rfl⟩
    · cases read
  · rename_i c more quote _ _ _
    split at read
    · cases read
    · rename_i seen
      obtain ⟨visible, slash⟩ := not_or.mp seen
      obtain ⟨⟨s, after⟩, readMore, same⟩ := Option.map_eq_some_iff.mp read
      cases same
      obtain ⟨marks, marked, rfl⟩ := ih more.length (Nat.lt_succ_self _) readMore rfl
      exact ⟨.char c :: marks, .plain (not_lt.mp visible) slash quote marked, rfl⟩

/-! ## Digits -/

theorem isDigit_range {c : Char} (digit : c.isDigit = true) : 48 ≤ c.toNat ∧ c.toNat ≤ 57 := by
  simp only [Char.isDigit, Bool.and_eq_true, decide_eq_true_eq] at digit
  exact digit

/-- The number that a digit stands for is written as the digit. -/
theorem toDigits_of_isDigit {c : Char} (digit : c.isDigit = true) :
    c.toNat - 48 < 10 ∧ Nat.toDigits 10 (c.toNat - 48) = [c] := by
  have range := isDigit_range digit
  have small : c.toNat - 48 < 10 := by omega
  refine ⟨small, ?_⟩
  rw [Nat.toDigits_of_lt_base small, List.singleton_inj, ← Char.toNat_inj,
    Nat.toNat_digitChar_of_lt_ten small]
  omega

/-- Digits without a leading zero are those of their value. -/
theorem toDigits_digitsValue {digits : List Char} (integral : Integral digits) :
    Nat.toDigits 10 (Decimal.digitsValue digits) = digits := by
  -- By induction from the last digit, before which the value of the others is written.
  induction digits using List.reverseRecOn with
  | nil => exact absurd rfl integral.some
  | append_singleton front c ih =>
      obtain ⟨small, written⟩ := toDigits_of_isDigit (integral.all c (by simp))
      have value : Decimal.digitsValue [c] = c.toNat - 48 := by
        show 0 * 10 + (c.toNat - 48) = _
        omega
      cases front with
      | nil => rw [List.nil_append, value, written]
      | cons d others =>
          have head : d ≠ '0' := by simpa using integral.leading
          have read : Nat.toDigits 10 (Decimal.digitsValue (d :: others)) = d :: others :=
            ih ⟨⟨List.cons_ne_nil d others,
                fun c held => integral.all c (List.mem_append_left _ held)⟩,
              .inr (by simpa using head)⟩
          have positive : 0 < Decimal.digitsValue (d :: others) := by
            refine Nat.pos_of_ne_zero (fun zero => head ?_)
            rw [zero] at read
            exact (List.cons.inj read).1.symm
          rw [Decimal.digitsValue_append, value, List.length_singleton, Nat.pow_one, Nat.mul_comm,
            ← Nat.toDigits_append_toDigits (by decide) positive small, read, written]

/-- Only digits are split off, and nothing is lost. -/
theorem spanDigits_parts {chars digits rest : List Char}
    (split : Decimal.spanDigits chars = (digits, rest)) :
    chars = digits ++ rest ∧ ∀ c ∈ digits, c.isDigit = true := by
  obtain ⟨rfl, rfl⟩ := Prod.mk.inj split
  exact ⟨List.takeWhile_append_dropWhile.symm, fun c held => List.mem_takeWhile_imp held⟩

/-- A text goes on with neither a digit nor a point. -/
def Settled (rest : List Char) : Prop :=
  ∀ c ∈ rest.head?, c.isDigit = false ∧ c ≠ '.'

/-! ## Parts of numbers -/

theorem integral_of_read {chars digits rest : List Char}
    (read : readIntegral chars = some (digits, rest)) :
    chars = digits ++ rest ∧ Integral digits := by
  rw [readIntegral.eq_def] at read
  split at read
  · cases read
    exact ⟨rfl, ⟨List.cons_ne_nil _ _, List.forall_mem_singleton.mpr rfl⟩, .inl rfl⟩
  · rename_i zero
    split at read
    · cases read
    · rename_i nonempty split
      cases read
      obtain ⟨same, all⟩ := spanDigits_parts split
      refine ⟨same, ⟨nonempty, all⟩, .inr (fun first => ?_)⟩
      obtain ⟨others, rfl⟩ := List.head?_eq_some_iff.mp first
      exact zero _ same

theorem Fraction.read {fraction text rest : List Char} (fractional : Fraction fraction text)
    (settled : Settled rest) : readFraction (text ++ rest) = (fraction, rest) := by
  cases fractional with
  | absent => exact readFraction_none (fun c held => (settled c held).2)
  | point given =>
      exact readFraction_digits given.some given.all (fun c held => (settled c held).1)

theorem fraction_of_read {chars fraction rest : List Char}
    (read : readFraction chars = (fraction, rest)) :
    ∃ text, chars = text ++ rest ∧ Fraction fraction text := by
  rw [readFraction.eq_def] at read
  split at read
  · split at read
    · cases read
      exact ⟨[], rfl, .absent⟩
    · rename_i nonempty split
      cases read
      obtain ⟨rfl, all⟩ := spanDigits_parts split
      exact ⟨_, rfl, .point ⟨nonempty, all⟩⟩
  · cases read
    exact ⟨[], rfl, .absent⟩

theorem Sign.read {negative : Bool} {sign digits rest : List Char} (signed : Sign negative sign)
    (given : Digits digits) :
    Decimal.takeSign (sign ++ (digits ++ rest)) = (negative, digits ++ rest) := by
  cases signed with
  | plus => rfl
  | minus => rfl
  | absent =>
      cases digits with
      | nil => exact absurd rfl given.some
      | cons c others =>
          have digit := given.all c List.mem_cons_self
          rw [List.nil_append, Decimal.takeSign.eq_def]
          split
          · rename_i same
            cases same
            cases digit
          · rename_i same
            cases same
            cases digit
          · rfl

theorem exists_sign (chars : List Char) : ∃ sign,
    chars = sign ++ (Decimal.takeSign chars).2 ∧ Sign (Decimal.takeSign chars).1 sign := by
  rw [Decimal.takeSign.eq_def]
  split
  · exact ⟨['-'], rfl, .minus⟩
  · exact ⟨['+'], rfl, .plus⟩
  · exact ⟨[], rfl, .absent⟩

theorem Exponent.read {exponent : Option Int} {text rest : List Char}
    (scaled : Exponent exponent text) (stops : Stops rest) :
    readExponent (text ++ rest) = (exponent, rest) := by
  cases scaled with
  | absent => exact readExponent_none stops
  | marked known signed given =>
      rename_i marker negative sign digits
      have taken : Decimal.takeSign (sign ++ (digits ++ rest)) = (negative, digits ++ rest) :=
        signed.read given
      have split := Decimal.spanDigits_append given.all stops.isDigit
      cases digits with
      | nil => exact absurd rfl given.some
      | cons d others =>
          rw [List.cons_append] at taken split
          simp [readExponent, known, taken, split]

theorem exponent_of_read {chars rest : List Char} {exponent : Option Int}
    (read : readExponent chars = (exponent, rest)) :
    ∃ text, chars = text ++ rest ∧ Exponent exponent text := by
  rw [readExponent.eq_def] at read
  split at read
  · split_ifs at read with known
    · dsimp only at read
      split at read
      · cases read
        exact ⟨[], rfl, .absent⟩
      · rename_i nonempty split
        cases read
        rename_i others _ digits
        obtain ⟨sign, same, signed⟩ := exists_sign others
        obtain ⟨unsigned, all⟩ := spanDigits_parts split
        refine ⟨_, ?_, .marked known signed ⟨nonempty, all⟩⟩
        rw [same, unsigned, List.cons_append, List.append_assoc]
    · cases read
      exact ⟨[], rfl, .absent⟩
  · cases read
    exact ⟨[], rfl, .absent⟩

/-- An exponent goes on with neither a digit nor a point, and neither does what ends a number. -/
theorem Exponent.settled {exponent : Option Int} {text rest : List Char}
    (scaled : Exponent exponent text) (stops : Stops rest) : Settled (text ++ rest) := by
  cases scaled with
  | absent => exact fun c held => ⟨(stops c held).1, (stops c held).2.1⟩
  | marked known signed given =>
      rintro c ⟨⟩
      rcases known with rfl | rfl <;> decide

theorem Fraction.ends {fraction text rest : List Char} (fractional : Fraction fraction text)
    (settled : Settled rest) : ∀ c ∈ (text ++ rest).head?, c.isDigit = false := by
  cases fractional with
  | absent => exact fun c held => (settled c held).1
  | point given =>
      rintro c ⟨⟩
      rfl

/-! ## Numbers -/

section

variable {α ε : Type} {maker : Maker α ε} {a : α} {rest : List Char}

/-- The digits of an integer are counted as they are written. -/
theorem short_whole_iff (negative : Bool) {digits : List Char} (integral : Integral digits) :
    Short (.whole (if negative then -(Decimal.digitsValue digits : Int)
      else Decimal.digitsValue digits)) ↔ digits.length ≤ maxDigits := by
  have magnitude : (if negative then -(Decimal.digitsValue digits : Int)
      else Decimal.digitsValue digits).natAbs = Decimal.digitsValue digits := by
    split_ifs <;> omega
  rw [Short, magnitude, toDigits_digitsValue integral]

/-- A number that is valid is read up to its end. -/
theorem Numeric.read {json : Json} {text : List Char} (numeric : Numeric json text)
    (valid : Valid maker json a) (stops : Stops rest) :
    readNumber maker (text ++ rest) = some (a, rest) := by
  obtain ⟨short, built⟩ := valid
  cases numeric with
  | @whole negative digits integral =>
      cases built
      have few := (short_whole_iff negative integral).mp short
      rw [signed_append, readNumber_signed maker negative (head?_digits integral.some integral.all)
        (readIntegral_digits integral.some integral.all integral.leading stops.isDigit)
        (readFraction_none (fun c held => (stops c held).2.1)) (readExponent_none stops)]
      simp [not_lt.mpr few]
  | double negative integral fractional scaled proper =>
      cases built
      have settled := scaled.settled stops
      rw [signed_append, List.append_assoc, List.append_assoc,
        readNumber_signed maker negative (head?_digits integral.some integral.all)
          (readIntegral_digits integral.some integral.all integral.leading
            (fractional.ends settled))
          (fractional.read settled) (scaled.read stops), proper]
      simp

/-- What is read as a number is one, and valid. -/
theorem exists_numeric {chars : List Char} (read : readNumber maker chars = some (a, rest)) :
    ∃ json text, chars = text ++ rest ∧ Numeric json text ∧ Valid maker json a := by
  unfold readNumber at read
  split at read
  rename_i negative unsigned parted
  have same : chars = signed negative unsigned := by
    split at parted
    · cases parted
      rfl
    · cases parted
      rfl
  subst same
  split at read
  · cases read
  · rename_i digits afterDigits integralRead
    cases fractionRead : readFraction afterDigits with
    | mk fraction afterFraction =>
    cases exponentRead : readExponent afterFraction with
    | mk exponent afterExponent =>
    simp only [fractionRead, exponentRead] at read
    obtain ⟨rfl, integral⟩ := integral_of_read integralRead
    obtain ⟨point, rfl, fractional⟩ := fraction_of_read fractionRead
    obtain ⟨scale, rfl, scaled⟩ := exponent_of_read exponentRead
    split at read
    · rename_i bare
      split at read
      · cases read
      · -- neither a fraction nor an exponent
        rename_i long
        cases read
        rw [Bool.and_eq_true, List.isEmpty_iff, Option.isNone_iff_eq_none] at bare
        obtain ⟨rfl, rfl⟩ := bare
        obtain rfl : point = [] := by
          cases fractional with
          | absent => rfl
          | point given => exact absurd rfl given.some
        cases scaled
        exact ⟨_, signed negative digits, (signed_append _ _ _).symm, .whole negative integral,
          (short_whole_iff negative integral).mpr (not_lt.mp long), rfl⟩
    · rename_i proper
      cases read
      refine ⟨_, signed negative (digits ++ point ++ scale), ?_,
        .double negative integral fractional scaled (Bool.eq_false_of_not_eq_true proper),
        trivial, rfl⟩
      rw [signed_append, List.append_assoc, List.append_assoc]

end

end Json

end SearchQuery
