import SearchQuery.Proofs.JsonReading

/-!
# Well-formed JSON text

The grammar of JSON text, told apart from the way in which a text is read: white
space, strings of characters and escapes, numbers in their parts, and lists and
objects of these.  A text is well formed when it is one document with white
space around it.  Besides the standard there are the three words for what is no
finite number.
-/

namespace SearchQuery

namespace Json

/-- White space leads from a text to a later part of it. -/
inductive Blank : List Char → List Char → Prop where
  | here (chars : List Char) : Blank chars chars
  | skip {c : Char} {chars rest : List Char} (space : isSpace c = true) (later : Blank chars rest) :
      Blank (c :: chars) rest

/-! ## Strings -/

/-- What is written in a string: a character, as it is or by a short escape, or a code unit. -/
inductive Mark where
  | char (c : Char)
  | unit (value : Nat)

/-- A text begins with some marks and the quote that closes a string, and goes on with the rest. -/
inductive Marks : List Char → List Mark → List Char → Prop where
  | close (rest : List Char) : Marks ('"' :: rest) [] rest
  | plain {c : Char} {chars rest : List Char} {marks : List Mark} (visible : 0x20 ≤ c.toNat)
      (slash : c ≠ '\\') (quote : c ≠ '"') (later : Marks chars marks rest) :
      Marks (c :: chars) (.char c :: marks) rest
  | short {mark c : Char} {chars rest : List Char} {marks : List Mark}
      (known : shortEscape? mark = some c) (later : Marks chars marks rest) :
      Marks ('\\' :: mark :: chars) (.char c :: marks) rest
  | unit {a b c d : Char} {value : Nat} {chars rest : List Char} {marks : List Mark}
      (known : unitValue? a b c d = some value) (later : Marks chars marks rest) :
      Marks ('\\' :: 'u' :: a :: b :: c :: d :: chars) (.unit value :: marks) rest

/-- Characters that need no escape are marks of their own. -/
theorem Marks.of_plain {chars : List Char} (rest : List Char)
    (plain : ∀ c ∈ chars, 0x20 ≤ c.toNat ∧ c ≠ '\\' ∧ c ≠ '"') :
    Marks (chars ++ '"' :: rest) (chars.map .char) rest := by
  induction chars with
  | nil => exact .close rest
  | cons c more ih =>
      obtain ⟨⟨visible, slash, quote⟩, later⟩ := List.forall_mem_cons.mp plain
      exact .plain visible slash quote (ih later)

/-- A code unit is the first half of a surrogate pair, and another one the second. -/
def Paired (high low : Nat) : Prop :=
  0xd800 ≤ high ∧ high < 0xdc00 ∧ 0xdc00 ≤ low ∧ low < 0xe000

instance (high low : Nat) : Decidable (Paired high low) :=
  inferInstanceAs (Decidable (_ ∧ _))

/-- The characters that marks stand for; the two halves of a surrogate pair stand for one. -/
def joined : List Mark → List Char
  | [] => []
  | .char c :: marks => c :: joined marks
  | .unit high :: .unit low :: marks =>
    if Paired high low then pairChar high low :: joined marks
    else unitChar high :: joined (.unit low :: marks)
  | .unit value :: marks => unitChar value :: joined marks

/-! ## Numbers -/

/-- Decimal digits, at least one. -/
structure Digits (digits : List Char) : Prop where
  some : digits ≠ []
  all : ∀ c ∈ digits, c.isDigit = true

/-- The digits before the point of a number: the first is a zero only when it is the only one. -/
structure Integral (digits : List Char) : Prop extends Digits digits where
  leading : digits = ['0'] ∨ digits.head? ≠ .some '0'

/-- The digits after the point of a number, with the text in which they are written. -/
inductive Fraction : List Char → List Char → Prop where
  | absent : Fraction [] []
  | point {digits : List Char} (given : Digits digits) : Fraction digits ('.' :: digits)

/-- A sign that may be left out, with the text in which it is written. -/
inductive Sign : Bool → List Char → Prop where
  | absent : Sign false []
  | plus : Sign false ['+']
  | minus : Sign true ['-']

/-- The exponent of a number, with the text in which it is written. -/
inductive Exponent : Option Int → List Char → Prop where
  | absent : Exponent none []
  | marked {marker : Char} {negative : Bool} {sign digits : List Char}
      (known : marker = 'e' ∨ marker = 'E') (signed : Sign negative sign) (given : Digits digits) :
      Exponent (some (if negative then -(Decimal.digitsValue digits : Int)
        else Decimal.digitsValue digits)) (marker :: (sign ++ digits))

/-- A number, with the text in which it is written: an integer when it has
neither a fraction nor an exponent, and a double otherwise. -/
inductive Numeric : Json → List Char → Prop where
  | whole (negative : Bool) {digits : List Char} (integral : Integral digits) :
      Numeric (.whole (if negative then -(Decimal.digitsValue digits : Int)
        else Decimal.digitsValue digits)) (signed negative digits)
  | double (negative : Bool) {digits fraction point scale : List Char} {exponent : Option Int}
      (integral : Integral digits) (fractional : Fraction fraction point)
      (scaled : Exponent exponent scale) (proper : (fraction.isEmpty && exponent.isNone) = false) :
      Numeric (.double (Double.ofScientific negative (Decimal.digitsValue (digits ++ fraction))
        (exponent.getD 0 - fraction.length))) (signed negative (digits ++ point ++ scale))

/-! ## Documents -/

/-- A text begins with the key of an entry, the colon after it and white space around that. -/
inductive Named : List Char → String → List Char → Prop where
  | key {chars after more start : List Char} {marks : List Mark} (marked : Marks chars marks after)
      (colon : Blank after (':' :: more)) (opened : Blank more start) :
      Named ('"' :: chars) (String.ofList (joined marks)) start

mutual

/-- A text begins with a document, and goes on with the rest. -/
inductive Formed : List Char → Json → List Char → Prop where
  | null (rest : List Char) : Formed ('n' :: 'u' :: 'l' :: 'l' :: rest) .null rest
  | true (rest : List Char) : Formed ('t' :: 'r' :: 'u' :: 'e' :: rest) (.bool .true) rest
  | false (rest : List Char) : Formed ('f' :: 'a' :: 'l' :: 's' :: 'e' :: rest) (.bool .false) rest
  | notNumber (rest : List Char) : Formed ('N' :: 'a' :: 'N' :: rest) (.double (.nan 0)) rest
  | infinite (negative : Bool) (rest : List Char) :
      Formed (signed negative ('I' :: 'n' :: 'f' :: 'i' :: 'n' :: 'i' :: 't' :: 'y' :: rest))
        (.double (.infinite negative)) rest
  | number {json : Json} {text : List Char} (numeric : Numeric json text) (rest : List Char) :
      Formed (text ++ rest) json rest
  | text {chars rest : List Char} {marks : List Mark} (marked : Marks chars marks rest) :
      Formed ('"' :: chars) (.text (String.ofList (joined marks))) rest
  | emptyArray {chars rest : List Char} (closed : Blank chars (']' :: rest)) :
      Formed ('[' :: chars) (.array []) rest
  | array {chars start rest : List Char} {items : List Json} (opened : Blank chars start)
      (inside : FormedItems start items rest) : Formed ('[' :: chars) (.array items) rest
  | emptyObject {chars rest : List Char} (closed : Blank chars ('\x7d' :: rest)) :
      Formed ('\x7b' :: chars) (.object []) rest
  | object {chars start rest : List Char} {entries : List (String × Json)}
      (opened : Blank chars start) (inside : FormedEntries start entries rest) :
      Formed ('\x7b' :: chars) (.object entries) rest

/-- A text begins with the items of a list and its closing bracket. -/
inductive FormedItems : List Char → List Json → List Char → Prop where
  | last {chars after rest : List Char} {item : Json} (formed : Formed chars item after)
      (closed : Blank after (']' :: rest)) : FormedItems chars [item] rest
  | next {chars after more start rest : List Char} {item : Json} {items : List Json}
      (formed : Formed chars item after) (comma : Blank after (',' :: more))
      (opened : Blank more start) (inside : FormedItems start items rest) :
      FormedItems chars (item :: items) rest

/-- A text begins with the entries of an object and its closing brace. -/
inductive FormedEntries : List Char → List (String × Json) → List Char → Prop where
  | last {chars start after rest : List Char} {key : String} {item : Json}
      (named : Named chars key start) (formed : Formed start item after)
      (closed : Blank after ('\x7d' :: rest)) : FormedEntries chars [(key, item)] rest
  | next {chars start after more other rest : List Char} {key : String} {item : Json}
      {entries : List (String × Json)} (named : Named chars key start)
      (formed : Formed start item after) (comma : Blank after (',' :: more))
      (opened : Blank more other) (inside : FormedEntries other entries rest) :
      FormedEntries chars ((key, item) :: entries) rest

end

/-- A text is one document with white space around it. -/
def WellFormed (s : String) (json : Json) : Prop :=
  ∃ start after, Blank s.toList start ∧ Formed start json after ∧ Blank after []

/-! ## What is made of documents -/

mutual

/-- No integer of a document has too many digits. -/
def Short : Json → Prop
  | .whole n => (Nat.toDigits 10 n.natAbs).length ≤ maxDigits
  | .array items => AllShort items
  | .object entries => EntriesShort entries
  | _ => True

/-- No integer of several documents has too many digits. -/
def AllShort : List Json → Prop
  | [] => True
  | item :: rest => Short item ∧ AllShort rest

/-- No integer of the entries of an object has too many digits. -/
def EntriesShort : List (String × Json) → Prop
  | [] => True
  | (_, item) :: rest => Short item ∧ EntriesShort rest

end

section

variable {α ε : Type} (maker : Maker α ε)

/-- Everything in a document is valid: its integers have not too many digits,
and no object is refused.  Something is then made of it. -/
structure Valid (json : Json) (a : α) : Prop where
  short : json.Short
  built : json.build maker = .ok a

/-- Everything in several documents is valid. -/
structure AllValid (items : List Json) (made : List α) : Prop where
  short : AllShort items
  built : buildItems maker items = .ok made

/-- Everything in the entries of an object is valid. -/
structure EntriesValid (entries : List (String × Json)) (made : List (String × α)) : Prop where
  short : EntriesShort entries
  built : buildEntries maker entries = .ok made

end

section

variable {α ε : Type} {maker : Maker α ε}

theorem valid_array_iff {items : List Json} {a : α} :
    Valid maker (.array items) a ↔ ∃ made, AllValid maker items made ∧ maker.array made = a := by
  constructor
  · rintro ⟨short, built⟩
    obtain ⟨made, found, same⟩ := Outcome.bind_eq_ok.mp built
    exact ⟨made, ⟨short, found⟩, Except.ok.inj same⟩
  · rintro ⟨made, ⟨short, found⟩, rfl⟩
    exact ⟨short, Outcome.bind_eq_ok.mpr ⟨made, found, rfl⟩⟩

theorem valid_object_iff {entries : List (String × Json)} {a : α} :
    Valid maker (.object entries) a ↔
      ∃ made, EntriesValid maker entries made ∧ maker.object made = .ok a := by
  constructor
  · rintro ⟨short, built⟩
    obtain ⟨made, found, kept⟩ := Outcome.bind_eq_ok.mp built
    exact ⟨made, ⟨short, found⟩, kept⟩
  · rintro ⟨made, ⟨short, found⟩, kept⟩
    exact ⟨short, Outcome.bind_eq_ok.mpr ⟨made, found, kept⟩⟩

theorem allValid_nil_iff {made : List α} : AllValid maker [] made ↔ made = [] := by
  constructor
  · rintro ⟨-, ⟨⟩⟩
    rfl
  · rintro rfl
    exact ⟨trivial, rfl⟩

theorem allValid_cons_iff {item : Json} {items : List Json} {made : List α} :
    AllValid maker (item :: items) made ↔
      ∃ a others, Valid maker item a ∧ AllValid maker items others ∧ a :: others = made := by
  constructor
  · rintro ⟨⟨short, shorts⟩, built⟩
    obtain ⟨a, found, more⟩ := Outcome.bind_eq_ok.mp built
    obtain ⟨others, foundAll, same⟩ := Outcome.bind_eq_ok.mp more
    exact ⟨a, others, ⟨short, found⟩, ⟨shorts, foundAll⟩, Except.ok.inj same⟩
  · rintro ⟨a, others, ⟨short, found⟩, ⟨shorts, foundAll⟩, rfl⟩
    exact ⟨⟨short, shorts⟩, Outcome.bind_eq_ok.mpr
      ⟨a, found, Outcome.bind_eq_ok.mpr ⟨others, foundAll, rfl⟩⟩⟩

theorem entriesValid_nil_iff {made : List (String × α)} :
    EntriesValid maker [] made ↔ made = [] := by
  constructor
  · rintro ⟨-, ⟨⟩⟩
    rfl
  · rintro rfl
    exact ⟨trivial, rfl⟩

theorem entriesValid_cons_iff {key : String} {item : Json} {entries : List (String × Json)}
    {made : List (String × α)} :
    EntriesValid maker ((key, item) :: entries) made ↔ ∃ a others, Valid maker item a ∧
      EntriesValid maker entries others ∧ (key, a) :: others = made := by
  constructor
  · rintro ⟨⟨short, shorts⟩, built⟩
    obtain ⟨a, found, more⟩ := Outcome.bind_eq_ok.mp built
    obtain ⟨others, foundAll, same⟩ := Outcome.bind_eq_ok.mp more
    exact ⟨a, others, ⟨short, found⟩, ⟨shorts, foundAll⟩, Except.ok.inj same⟩
  · rintro ⟨a, others, ⟨short, found⟩, ⟨shorts, foundAll⟩, rfl⟩
    exact ⟨⟨short, shorts⟩, Outcome.bind_eq_ok.mpr
      ⟨a, found, Outcome.bind_eq_ok.mpr ⟨others, foundAll, rfl⟩⟩⟩
end

section

variable {α ε : Type} (maker : Maker α ε)

mutual

/-- A text begins with the beginning of a document up to the end of an object
that is refused, while everything that ends before is valid. -/
inductive Refused : List Char → ε → Prop where
  | itself {chars rest : List Char} {entries : List (String × Json)} {made : List (String × α)}
      {e : ε} (formed : Formed chars (.object entries) rest)
      (valid : EntriesValid maker entries made) (refused : maker.object made = .error e) :
      Refused chars e
  | item {chars start : List Char} {e : ε} (opened : Blank chars start)
      (inside : RefusedItem start e) : Refused ('[' :: chars) e
  | entry {chars start : List Char} {e : ε} (opened : Blank chars start)
      (inside : RefusedEntry start e) : Refused ('\x7b' :: chars) e

/-- A text begins with the items of a list up to the end of an object that is refused. -/
inductive RefusedItem : List Char → ε → Prop where
  | here {chars : List Char} {e : ε} (refused : Refused chars e) : RefusedItem chars e
  | later {chars after more start : List Char} {item : Json} {a : α} {e : ε}
      (formed : Formed chars item after) (valid : Valid maker item a)
      (comma : Blank after (',' :: more)) (opened : Blank more start)
      (inside : RefusedItem start e) : RefusedItem chars e

/-- A text begins with the entries of an object up to the end of an object that is refused. -/
inductive RefusedEntry : List Char → ε → Prop where
  | here {chars start : List Char} {key : String} {e : ε} (named : Named chars key start)
      (refused : Refused start e) : RefusedEntry chars e
  | later {chars start after more other : List Char} {key : String} {item : Json} {a : α} {e : ε}
      (named : Named chars key start) (formed : Formed start item after)
      (valid : Valid maker item a) (comma : Blank after (',' :: more)) (opened : Blank more other)
      (inside : RefusedEntry other e) : RefusedEntry chars e

end

variable {maker}

mutual

/-- What a text is refused as is the refusal of one of its objects. -/
theorem Refused.exists_object {chars : List Char} {e : ε} :
    Refused maker chars e → ∃ made, maker.object made = .error e
  | .itself _ _ refused => ⟨_, refused⟩
  | .item _ inside => inside.exists_object
  | .entry _ inside => inside.exists_object

theorem RefusedItem.exists_object {chars : List Char} {e : ε} :
    RefusedItem maker chars e → ∃ made, maker.object made = .error e
  | .here refused => refused.exists_object
  | .later _ _ _ _ inside => inside.exists_object

theorem RefusedEntry.exists_object {chars : List Char} {e : ε} :
    RefusedEntry maker chars e → ∃ made, maker.object made = .error e
  | .here _ refused => refused.exists_object
  | .later _ _ _ _ _ inside => inside.exists_object

end

variable (maker)

/-- Reading a text comes to an object that is refused, with everything before it valid. -/
def MeetsRefusal (s : String) (e : ε) : Prop :=
  ∃ start, Blank s.toList start ∧ Refused maker start e

end

end Json

end SearchQuery
