import Mathlib.Data.List.Chain
import SearchQuery.Json

/-!
# Strings are read back

Every character is written in one of four ways, and reading gives it back from
each of them.  What follows only matters after one half of a surrogate pair:
right before the other half it would be read together with it, so a string is
read back as long as no two halves of a pair stand side by side in it.
-/

namespace SearchQuery

namespace Text

theorem half?_eq_some {c : Char} {unit : Nat} :
    half? c = some unit ↔ 0x10f800 ≤ c.toNat ∧ c.toNat - 0x10f800 + 0xd800 = unit := by
  unfold half? firstHalf
  split_ifs with last
  · simp [last]
  · simp [last]

theorem half?_eq_none {c : Char} : half? c = none ↔ c.toNat < 0x10f800 := by
  unfold half? firstHalf
  split_ifs with last
  · simp [last]
  · simpa using last

/-- Whether a character stands for the first half of a surrogate pair. -/
def isHighHalf (c : Char) : Bool :=
  (half? c).any (fun unit => unit < 0xdc00)

/-- Whether a character stands for the second half of a surrogate pair. -/
def isLowHalf (c : Char) : Bool :=
  (half? c).any (fun unit => 0xdc00 ≤ unit)

/-- The first half of a pair right before the second. -/
def splitPair (a b : Char) : Bool :=
  isHighHalf a && isLowHalf b

/-- No two halves of a surrogate pair stand side by side. -/
def Unsplit (chars : List Char) : Prop :=
  chars.IsChain (fun a b => splitPair a b = false)

/-- Only halves of pairs can be split. -/
theorem Unsplit.of_whole {chars : List Char} (whole : ∀ c ∈ chars, half? c = none) :
    Unsplit chars := by
  induction chars with
  | nil => exact .nil
  | cons c rest ih =>
      rw [List.forall_mem_cons] at whole
      refine List.isChain_cons.mpr ⟨?_, ih whole.2⟩
      intro d _
      simp [splitPair, isHighHalf, whole.1]

instance (chars : List Char) : Decidable (Unsplit chars) :=
  inferInstanceAs (Decidable (chars.IsChain _))

end Text

namespace Json

theorem hexValue?_hexDigit : ∀ d < 16, Text.hexValue? (Text.hexDigit d) = some d := by
  decide

/-- The escape of a code unit, digit by digit. -/
theorem unitEscape_eq (unit : Nat) : unitEscape unit =
    ['\\', 'u', Text.hexDigit (unit / 16 / 16 / 16 % 16), Text.hexDigit (unit / 16 / 16 % 16),
      Text.hexDigit (unit / 16 % 16), Text.hexDigit (unit % 16)] :=
  rfl

theorem unitValue?_hexDigits {unit : Nat} (small : unit < 0x10000) :
    unitValue? (Text.hexDigit (unit / 16 / 16 / 16 % 16)) (Text.hexDigit (unit / 16 / 16 % 16))
      (Text.hexDigit (unit / 16 % 16)) (Text.hexDigit (unit % 16)) = some unit := by
  have digit : ∀ n, Text.hexValue? (Text.hexDigit (n % 16)) = some (n % 16) :=
    fun n => hexValue?_hexDigit _ (Nat.mod_lt _ (by decide))
  have value : ((unit / 16 / 16 / 16 % 16 * 16 + unit / 16 / 16 % 16) * 16 + unit / 16 % 16) * 16 +
      unit % 16 = unit := by omega
  simp only [unitValue?, digit, Option.bind_eq_bind, Option.bind_some, value]

/-- How a character may be written: by a short escape, as itself, by its code
unit, or by a pair of surrogates. -/
inductive Spelled : Char → List Char → Prop where
  | short {c mark : Char} (known : shortEscape? mark = some c) (other : mark ≠ 'u') :
      Spelled c ['\\', mark]
  | plain {c : Char} (visible : 0x20 ≤ c.toNat) (slash : c ≠ '\\') (quote : c ≠ '"') :
      Spelled c [c]
  | unit {unit : Nat} (small : unit < 0x10000) : Spelled (unitChar unit) (unitEscape unit)
  | pair {high low : Nat} (first : 0xd800 ≤ high ∧ high < 0xdc00)
      (second : 0xdc00 ≤ low ∧ low < 0xe000) :
      Spelled (pairChar high low) (unitEscape high ++ unitEscape low)

/-- A character is no half of a surrogate pair. -/
theorem toNat_outside (c : Char) : c.toNat < 0xd800 ∨ 0xdfff < c.toNat ∧ c.toNat < 0x110000 :=
  c.valid

theorem escaped_spelled (c : Char) : Spelled c (escaped c) := by
  unfold escaped
  split_ifs with quote slash line back tab bell form visible small
  · subst quote
    exact .short rfl (by decide)
  · subst slash
    exact .short rfl (by decide)
  · subst line
    exact .short rfl (by decide)
  · subst back
    exact .short rfl (by decide)
  · subst tab
    exact .short rfl (by decide)
  · subst bell
    exact .short rfl (by decide)
  · subst form
    exact .short rfl (by decide)
  · exact .plain visible.1 slash quote
  · have whole : unitChar c.toNat = c := by
      have outside : Text.isHalf c.toNat = false := by
        have range := toNat_outside c
        simp only [Text.isHalf, Bool.and_eq_false_imp, decide_eq_true_eq, decide_eq_false_iff_not]
        omega
      rw [unitChar, outside, if_neg Bool.false_ne_true, Char.ofNat_toNat]
    have spelled : Spelled (unitChar c.toNat) (unitEscape c.toNat) := .unit small
    rwa [whole] at spelled
  · cases half : Text.half? c with
    | some unit =>
        dsimp only
        obtain ⟨last, same⟩ := Text.half?_eq_some.mp half
        have range := toNat_outside c
        have whole : unitChar unit = c := by
          have inside : Text.isHalf unit = true := by
            simp only [Text.isHalf, Bool.and_eq_true, decide_eq_true_eq]
            omega
          have place : Text.firstHalf + (unit - 0xd800) = c.toNat := by
            unfold Text.firstHalf
            omega
          rw [unitChar, inside, if_pos rfl, Text.ofHalf, place, Char.ofNat_toNat]
        have spelled : Spelled (unitChar unit) (unitEscape unit) := .unit (by omega)
        rwa [whole] at spelled
    | none =>
        dsimp only
        have range := toNat_outside c
        have whole : pairChar (0xd800 + (c.toNat - 0x10000) / 0x400)
            (0xdc00 + (c.toNat - 0x10000) % 0x400) = c := by
          have place : 0x10000 + (0xd800 + (c.toNat - 0x10000) / 0x400 - 0xd800) * 0x400 +
              (0xdc00 + (c.toNat - 0x10000) % 0x400 - 0xdc00) = c.toNat := by omega
          rw [pairChar, place, Char.ofNat_toNat]
        have high : 0xd800 ≤ 0xd800 + (c.toNat - 0x10000) / 0x400 ∧
            0xd800 + (c.toNat - 0x10000) / 0x400 < 0xdc00 := by omega
        have low : 0xdc00 ≤ 0xdc00 + (c.toNat - 0x10000) % 0x400 ∧
            0xdc00 + (c.toNat - 0x10000) % 0x400 < 0xe000 := by omega
        have spelled := Spelled.pair high low
        rwa [whole] at spelled

/-- The character of half a surrogate pair is kept at the end of the last plane. -/
theorem half?_unitChar {unit : Nat} (first : 0xd800 ≤ unit) (last : unit < 0xe000) :
    Text.half? (unitChar unit) = some unit := by
  have inside : Text.isHalf unit = true := by
    simp only [Text.isHalf, Bool.and_eq_true, decide_eq_true_eq]
    omega
  have valid : (0x10f800 + (unit - 0xd800)).isValidChar := by
    right
    omega
  have place : (unitChar unit).toNat = 0x10f800 + (unit - 0xd800) := by
    rw [unitChar, inside, if_pos rfl, Text.ofHalf, Text.firstHalf, Char.ofNat, dif_pos valid]
    rfl
  rw [Text.half?_eq_some, place]
  omega

theorem isLowHalf_unitChar {unit : Nat} (first : 0xdc00 ≤ unit) (last : unit < 0xe000) :
    Text.isLowHalf (unitChar unit) = true := by
  rw [Text.isLowHalf, half?_unitChar (by omega) last]
  simpa using first

/-! ## Reading -/

theorem partner?_unitEscape {unit low : Nat} (small : low < 0x10000) (rest : List Char) :
    partner? unit (unitEscape low ++ rest) =
      if 0xd800 ≤ unit ∧ unit < 0xdc00 ∧ 0xdc00 ≤ low ∧ low < 0xe000 then some low else none := by
  rw [unitEscape_eq]
  simp only [List.cons_append, List.nil_append, partner?, unitValue?_hexDigits small]

/-- An escape is skipped when it was read together with the one before. -/
theorem readChars_skip (low : Nat) (rest : List Char) :
    readChars 6 (unitEscape low ++ rest) = readChars 0 rest := by
  rw [unitEscape_eq]
  rfl

theorem readChars_unitEscape {unit : Nat} (small : unit < 0x10000) (rest : List Char) :
    readChars 0 (unitEscape unit ++ rest) =
      match partner? unit rest with
      | some low => (readChars 6 rest).map (fun read => (pairChar unit low :: read.1, read.2))
      | none => (readChars 0 rest).map (fun read => (unitChar unit :: read.1, read.2)) := by
  rw [unitEscape_eq]
  cases partnered : partner? unit rest with
  | some low =>
      simp only [List.cons_append, List.nil_append, readChars, unitValue?_hexDigits small, partnered]
  | none =>
      simp only [List.cons_append, List.nil_append, readChars, unitValue?_hexDigits small, partnered]

/-- Only a first half has a partner. -/
theorem partner?_eq_none {unit : Nat} (other : ¬ (0xd800 ≤ unit ∧ unit < 0xdc00))
    (rest : List Char) : partner? unit rest = none := by
  rw [partner?.eq_def]
  split
  · split
    · exact if_neg (fun all => other ⟨all.1, all.2.1⟩)
    · rfl
  · rfl

/-- What a spelling leaves no partner for: the escape of a first half, unless a second half
follows. -/
theorem Spelled.partner? {c : Char} {spelling : List Char} (spelled : Spelled c spelling)
    {unit : Nat} (single : 0xd800 ≤ unit → unit < 0xdc00 → Text.isLowHalf c = false)
    (rest : List Char) : partner? unit (spelling ++ rest) = none := by
  cases spelled with
  | short known other =>
      rw [Json.partner?.eq_def]
      split
      · rename_i same
        simp only [List.cons_append, List.cons.injEq] at same
        exact absurd same.2.1 other
      · rfl
  | plain visible slash quote =>
      rw [Json.partner?.eq_def]
      split
      · rename_i same
        simp only [List.cons_append, List.cons.injEq] at same
        exact absurd same.1 slash
      · rfl
  | @unit low small =>
      rw [partner?_unitEscape small]
      refine if_neg ?_
      rintro ⟨high, below, first, last⟩
      rw [isLowHalf_unitChar first last] at single
      exact Bool.noConfusion (single high below)
  | @pair high low first second =>
      rw [List.append_assoc, partner?_unitEscape (by omega)]
      refine if_neg ?_
      omega

/-- A spelling is read as its character, unless a second half follows a first one. -/
theorem Spelled.read {c : Char} {spelling : List Char} (spelled : Spelled c spelling)
    {rest : List Char}
    (single : ∀ unit, Text.half? c = some unit → Json.partner? unit rest = none) :
    readChars 0 (spelling ++ rest) =
      (readChars 0 rest).map (fun read => (c :: read.1, read.2)) := by
  cases spelled with
  | @short c mark known other =>
      simp [readChars, other, known]
  | plain visible slash quote =>
      have seen : ¬ c.toNat < 0x20 := by omega
      simp [readChars, slash, seen]
  | @unit low small =>
      rw [readChars_unitEscape small]
      have alone : Json.partner? low rest = none := by
        by_cases high : 0xd800 ≤ low ∧ low < 0xdc00
        · exact single low (half?_unitChar high.1 (by omega))
        · exact partner?_eq_none high rest
      rw [alone]
  | @pair high low first second =>
      rw [List.append_assoc, readChars_unitEscape (by omega), partner?_unitEscape (by omega),
        if_pos ⟨first.1, first.2, second⟩, readChars_skip]

/-- A string without split pairs is read up to its closing quote as it was written. -/
theorem readChars_escaped {chars : List Char} (unsplit : Text.Unsplit chars) (rest : List Char) :
    readChars 0 (chars.flatMap escaped ++ '"' :: rest) = some (chars, rest) := by
  induction chars with
  | nil => rfl
  | cons c tail ih =>
      rw [Text.Unsplit, List.isChain_cons] at unsplit
      have alone : ∀ unit, Text.half? c = some unit →
          partner? unit (tail.flatMap escaped ++ '"' :: rest) = none := by
        intro unit half
        cases tail with
        | nil => rfl
        | cons d others =>
            rw [List.flatMap_cons, List.append_assoc]
            refine (escaped_spelled d).partner? ?_ _
            intro first last
            have apart := unsplit.1 d rfl
            have high : Text.isHighHalf c = true := by
              rw [Text.isHighHalf, half]
              simpa using last
            simpa only [Text.splitPair, high, Bool.true_and] using apart
      rw [List.flatMap_cons, List.append_assoc, (escaped_spelled c).read alone, ih unsplit.2]
      rfl

/-- What is read after the opening quote of a string is the string. -/
theorem readString_written {s : String} (unsplit : Text.Unsplit s.toList) (rest : List Char) :
    readString (s.toList.flatMap escaped ++ ['"'] ++ rest) = some (s.toList, rest) := by
  rw [List.append_assoc]
  exact readChars_escaped unsplit rest

/-- The two halves of a pair side by side are read as one character. -/
example : readString (writeString (String.ofList [Text.ofHalf 0xd83d, Text.ofHalf 0xde00])).tail =
    some (['😀'], []) := by
  decide

end Json

end SearchQuery
