import SearchQuery.Text

/-!
# Numbers

A number is an integer of one of two kinds, an exact fraction, or a binary64
value.  Decimal numbers are kept apart.  Each has a text of its own, and is read
from the texts that are written by hand.
-/

namespace SearchQuery

/-!
## Binary64 values

A double is kept as what it denotes: a sign with an exact rational magnitude,
an infinity, or a not-a-number.  A not-a-number has no value, so it carries
the tag of the place it came from, and two of them are the same occurrence
only when their tags agree.  Rounding goes to the nearest representable
magnitude, and a tie goes to the even multiple.
-/

/-- A binary64 value. -/
inductive Double where
  | finite (negative : Bool) (magnitude : Rat)
  | infinite (negative : Bool)
  | nan (tag : Nat)
deriving DecidableEq

namespace Double

def pow2 (exponent : Int) : Rat :=
  (2 : Rat) ^ exponent

def pow10 (exponent : Int) : Rat :=
  (10 : Rat) ^ exponent

/-- The exponent of the largest power of two that is at most a positive number. -/
def floorLog2 (q : Rat) : Int :=
  let guess : Int := (Nat.log2 q.num.toNat : Int) - (Nat.log2 q.den : Int)
  if pow2 guess ≤ q then guess else guess - 1

def spacingExponent (q : Rat) : Int :=
  max (-1074) (floorLog2 q - 52)

def nearestEven (q : Rat) : Int :=
  let below := q.floor
  let rest := q - below
  if rest < 1 / 2 then below
  else if 1 / 2 < rest then below + 1
  else if below % 2 = 0 then below
  else below + 1

/-- The representable magnitude nearest to a number, unless it overflows. -/
def roundMagnitude (q : Rat) : Option Rat :=
  if q ≤ 0 then some 0
  else
    let spacing := pow2 (spacingExponent q)
    let rounded := nearestEven (q / spacing) * spacing
    if rounded < pow2 1024 then some rounded else none

def ofMagnitude (negative : Bool) (q : Rat) : Double :=
  match roundMagnitude q with
  | some magnitude => .finite negative magnitude
  | none => .infinite negative

/-- A magnitude that rounding leaves alone is one a double can hold. -/
def Representable (q : Rat) : Prop :=
  roundMagnitude q = some q

/-- The double nearest to `digits * 10 ^ exponent`.  Exponents far outside the
range of doubles are answered without computing the power. -/
def ofScientific (negative : Bool) (digits : Nat) (exponent : Int) : Double :=
  if digits = 0 then .finite negative 0
  else
    let size : Int := (Nat.log2 digits : Int) / 3 + 1
    if 400 < exponent then .infinite negative
    else if exponent + size < -400 then .finite negative 0
    else ofMagnitude negative (digits * pow10 exponent)

end Double

/-- A number that may be infinite or no number at all. -/
inductive Extended where
  | finite (q : Rat)
  | infinite (negative : Bool)
  | nan
deriving DecidableEq

namespace Extended

/-- Strictly less; false as soon as one side is no number. -/
def lt : Extended → Extended → Bool
  | .finite a, .finite b => a < b
  | .finite _, .infinite negative => !negative
  | .infinite negative, .finite _ => negative
  | .infinite a, .infinite b => a && !b
  | .nan, _ => false
  | _, .nan => false

/-- Equal as numbers; false as soon as one side is no number. -/
def same : Extended → Extended → Bool
  | .finite a, .finite b => a == b
  | .infinite a, .infinite b => a == b
  | _, _ => false

/-- Less or equal; false as soon as one side is no number. -/
def le (a b : Extended) : Bool :=
  lt a b || same a b

theorem lt_nan_left (b : Extended) : lt .nan b = false := by
  cases b <;> rfl

theorem lt_nan_right (a : Extended) : lt a .nan = false := by
  cases a <;> rfl

end Extended

def Double.extended : Double → Extended
  | .finite negative magnitude => .finite (if negative then -magnitude else magnitude)
  | .infinite negative => .infinite negative
  | .nan _ => .nan

/-!
## Shortest decimal text

A finite double is written with the fewest significant digits that read back
as the same double; among those, the nearest to its exact value.  Numbers
whose leading digit stands between the fifth place after the point and the
sixteenth before it are written positionally with at least one digit on each
side of the point, the others with an exponent of at least two digits.
-/

/-- The number `digits * 10 ^ exponent`. -/
structure Scientific where
  digits : Nat
  exponent : Int
deriving DecidableEq

namespace Scientific

def value (s : Scientific) : Rat :=
  s.digits * Double.pow10 s.exponent

/-- Trailing zeros of the digits moved into the exponent, at most `steps` of them. -/
def stripZeros : (steps : Nat) → Scientific → Scientific
  | 0, s => s
  | steps + 1, s =>
    if s.digits ≠ 0 ∧ s.digits % 10 = 0 then stripZeros steps ⟨s.digits / 10, s.exponent + 1⟩
    else s

end Scientific

namespace Double

/-- The exponent of the largest power of ten that is at most a positive number. -/
def floorLog10 (q : Rat) : Int :=
  let guess := floorLog2 q * 30103 / 100000
  if pow10 (guess + 1) ≤ q then guess + 1
  else if pow10 guess ≤ q then guess
  else guess - 1

/-- A decimal reads back as a magnitude when it rounds to it. -/
def readsBack (magnitude : Rat) (s : Scientific) : Bool :=
  roundMagnitude s.value == some magnitude

/-- The neighbour of a magnitude with the given count of digits that reads back,
the nearer one when both do. -/
def withDigits (magnitude : Rat) (count : Nat) : Option Scientific :=
  let exponent := floorLog10 magnitude - count + 1
  let below := (magnitude / pow10 exponent).floor.toNat
  let low : Scientific := ⟨below, exponent⟩
  let high : Scientific := ⟨below + 1, exponent⟩
  match readsBack magnitude low, readsBack magnitude high with
  | true, true =>
    let toLow := magnitude - low.value
    let toHigh := high.value - magnitude
    if toLow < toHigh then some low
    else if toHigh < toLow then some high
    else if below % 2 = 0 then some low
    else some high
  | true, false => some low
  | false, true => some high
  | false, false => none

def exactDecimal (magnitude : Rat) : Scientific :=
  let places := Nat.log2 magnitude.den
  ⟨magnitude.num.toNat * Nat.pow 10 places / magnitude.den, -places⟩

/-- The shortest decimal that reads back as a positive magnitude. -/
def shortest (magnitude : Rat) : Scientific :=
  let found := (List.range 17).findSome? (fun count => withDigits magnitude (count + 1))
  (found.getD (exactDecimal magnitude)).stripZeros 400

/-- Digits with a point after the first `before` of them, zeros filled in on
either side so that the point has a digit before and after it. -/
def positional (digits : List Char) (before : Int) : List Char :=
  if before ≤ 0 then '0' :: '.' :: (List.replicate (-before).toNat '0' ++ digits)
  else
    let whole := before.toNat
    if digits.length ≤ whole then
      digits ++ List.replicate (whole - digits.length) '0' ++ ['.', '0']
    else digits.take whole ++ '.' :: digits.drop whole

/-- Digits with a point after the first of them and a signed exponent of at
least two digits. -/
def exponential (digits : List Char) (exponent : Int) : List Char :=
  let mantissa := match digits with
    | first :: second :: rest => first :: '.' :: second :: rest
    | few => few
  let power := (Nat.repr exponent.natAbs).toList
  let padded := if power.length < 2 then '0' :: power else power
  mantissa ++ 'e' :: (if exponent < 0 then '-' else '+') :: padded

def magnitudeText (magnitude : Rat) : List Char :=
  if magnitude = 0 then ['0', '.', '0']
  else
    let s := shortest magnitude
    let digits := (Nat.repr s.digits).toList
    let leading := s.exponent + digits.length - 1
    if -4 ≤ leading ∧ leading < 16 then positional digits (leading + 1)
    else exponential digits leading

def text : Double → String
  | .finite negative magnitude =>
    String.ofList (if negative then '-' :: magnitudeText magnitude else magnitudeText magnitude)
  | .infinite true => "-inf"
  | .infinite false => "inf"
  | .nan _ => "nan"

theorem readsBack_of_withDigits {magnitude : Rat} {count : Nat} {s : Scientific}
    (found : withDigits magnitude count = some s) : readsBack magnitude s = true := by
  simp only [withDigits] at found
  split at found
  · rename_i lowBack highBack
    split at found
    · exact Option.some.inj found ▸ lowBack
    · split at found
      · exact Option.some.inj found ▸ highBack
      · split at found
        · exact Option.some.inj found ▸ lowBack
        · exact Option.some.inj found ▸ highBack
  · rename_i lowBack _
    exact Option.some.inj found ▸ lowBack
  · rename_i _ highBack
    exact Option.some.inj found ▸ highBack
  · cases found

end Double

/-!
## Numbers of several kinds

The numbers a definition may hold: integers, integers marked as 64-bit,
doubles and exact fractions.  They compare by value whatever their kind, and
each kind has its own text.
-/

/-- The most digits with which the host writes or reads an integer. -/
def maxDigits : Nat :=
  4300

/-- Whether an integer has no more digits than may be written. -/
def digitsFit (n : Int) : Bool :=
  (Nat.toDigits 10 n.natAbs).length ≤ maxDigits

/-- An integer, plain or marked as a 64-bit one. -/
inductive Whole where
  | int (value : Int)
  | long (value : Int)
deriving DecidableEq

namespace Whole

def value : Whole → Int
  | .int n => n
  | .long n => n

def text (w : Whole) : String :=
  toString w.value

end Whole

/-- A real number of one of the kinds a definition may hold. -/
inductive Number where
  | whole (w : Whole)
  | double (d : Double)
  | ratio (q : Rat)
deriving DecidableEq

namespace Number

abbrev int (n : Int) : Number :=
  .whole (.int n)

def extended : Number → Extended
  | .whole w => .finite w.value
  | .double d => d.extended
  | .ratio q => .finite q

def lt (a b : Number) : Bool :=
  a.extended.lt b.extended

def le (a b : Number) : Bool :=
  a.extended.le b.extended

def same (a b : Number) : Bool :=
  a.extended.same b.extended

/-- The text of a number: a whole fraction is written without its denominator. -/
def text : Number → String
  | .whole w => w.text
  | .double d => d.text
  | .ratio q => if q.den = 1 then toString q.num else toString q.num ++ "/" ++ toString q.den

/-- Whether a number can be written: the host refuses too many digits, in a fraction too. -/
def isWritable : Number → Bool
  | .whole w => digitsFit w.value
  | .double _ => true
  | .ratio q => digitsFit q.num && digitsFit q.den

/-- The text of a number that also tells a fraction from an integer. -/
def shown : Number → String
  | .ratio q => "Fraction(" ++ toString q.num ++ ", " ++ toString q.den ++ ")"
  | x => x.text

end Number

/-!
## Decimal numbers

A decimal keeps the digits and the exponent it was written with, so that
`1.50` and `1.5` are equal but print differently.  A decimal of the 128-bit
kind holds at most thirty-four digits and refuses to round.
-/

/-- A decimal number as written; a tag tells one occurrence of a not-a-number from another. -/
inductive Decimal where
  | finite (negative : Bool) (digits : Nat) (exponent : Int)
  | infinite (negative : Bool)
  | nan (negative signaling : Bool) (payload tag : Nat)
deriving DecidableEq

/-- Why a text gives no 128-bit decimal. -/
inductive DecimalError where
  | malformed
  | inexact
  | overflow
  | payload
deriving DecidableEq

namespace Decimal

def extended : Decimal → Extended
  | .finite negative digits exponent =>
    let magnitude := (Scientific.mk digits exponent).value
    .finite (if negative then -magnitude else magnitude)
  | .infinite negative => .infinite negative
  | .nan .. => .nan

/-- The text of a finite decimal without its sign: positional unless the
exponent is positive or the number starts beyond the sixth place after the point. -/
def unsignedText (digits : Nat) (exponent : Int) : String :=
  let ds := (Nat.repr digits).toList
  let count : Int := ds.length
  let left := exponent + count
  let place := if exponent ≤ 0 ∧ -6 < left then left else 1
  let body :=
    if place ≤ 0 then '0' :: '.' :: (List.replicate (-place).toNat '0' ++ ds)
    else if count ≤ place then ds ++ List.replicate (place - count).toNat '0'
    else ds.take place.toNat ++ '.' :: ds.drop place.toNat
  let power := left - place
  let tail :=
    if power = 0 then ""
    else if power < 0 then "E" ++ toString power
    else "E+" ++ toString power
  String.ofList body ++ tail

def text : Decimal → String
  | .finite negative digits exponent =>
    (if negative then "-" else "") ++ unsignedText digits exponent
  | .infinite negative => if negative then "-Infinity" else "Infinity"
  | .nan negative signaling payload _ =>
    (if negative then "-" else "") ++ (if signaling then "sNaN" else "NaN") ++
      (if payload = 0 then "" else toString payload)

def digitsValue (chars : List Char) : Nat :=
  chars.foldl (fun total c => total * 10 + (c.toNat - '0'.toNat)) 0

/-- The leading digits of a text and what follows them. -/
def spanDigits (chars : List Char) : List Char × List Char :=
  (chars.takeWhile Char.isDigit, chars.dropWhile Char.isDigit)

def takeSign : List Char → Bool × List Char
  | '-' :: rest => (true, rest)
  | '+' :: rest => (false, rest)
  | rest => (false, rest)

/-- The exponent part of a number: nothing, or a marker with a signed integer. -/
def readExponent? : List Char → Option Int
  | [] => some 0
  | marker :: rest =>
    if marker = 'e' ∨ marker = 'E' then
      let (negative, rest) := takeSign rest
      let (digits, rest) := spanDigits rest
      if digits.isEmpty || !rest.isEmpty then none
      else some (if negative then -(digitsValue digits : Int) else digitsValue digits)
    else none

/-- Reads `digits [. digits] [exponent]` with a digit somewhere before the exponent. -/
def readUnsigned? (chars : List Char) : Option Scientific := do
  let (whole, rest) := spanDigits chars
  let (fraction, rest) := match rest with
    | '.' :: rest => spanDigits rest
    | rest => ([], rest)
  if whole.isEmpty && fraction.isEmpty then none
  else
    let exponent ← readExponent? rest
    some ⟨digitsValue (whole ++ fraction), exponent - fraction.length⟩

def read? (s : String) : Option Decimal :=
  let (negative, rest) := takeSign (s.toList.map Text.plainDigit)
  let lower := rest.map Char.toLower
  if lower = "inf".toList ∨ lower = "infinity".toList then some (.infinite negative)
  else
    let (signaling, named) := match lower with
      | 's' :: tail => (true, tail)
      | tail => (false, tail)
    if named.take 3 = "nan".toList then
      let (payload, after) := spanDigits (named.drop 3)
      if after.isEmpty then some (.nan negative signaling (digitsValue payload) 0) else none
    else (readUnsigned? rest).map (fun n => .finite negative n.digits n.exponent)

def digitCount (n : Nat) : Nat :=
  (Nat.repr n).length

/-- Whether rounding to thirty-four digits, a half to the even neighbour, gives
one more digit. -/
def carries (digits : Nat) (surplus : Nat) : Bool :=
  let unit := Nat.pow 10 surplus
  digits / unit = Nat.pow 10 34 - 1 && unit ≤ 2 * (digits % unit)

/-- Whether a decimal other than zero is beyond the greatest power of ten that
thirty-four digits reach, once it is rounded to them. -/
def tooGreat (digits : Nat) (exponent : Int) : Bool :=
  let count := digitCount digits
  let adjusted := exponent + count - 1
  6144 < adjusted || (adjusted == 6144 && 34 < count && carries digits (count - 34))

/-- Fits a finite decimal into thirty-four digits and the exponents between
-6176 and 6111, without changing its value. -/
def fit128 (negative : Bool) (digits : Nat) (exponent : Int) : Except DecimalError Decimal :=
  if digits = 0 then .ok (.finite negative 0 (max (-6176) (min 6111 exponent)))
  else if tooGreat digits exponent then .error .overflow
  else
    let count : Int := digitCount digits
    let surplus := max (count - 34) (-6176 - exponent)
    if 0 < surplus then
      if count < surplus then .error .inexact
      else
        let unit := Nat.pow 10 surplus.toNat
        if digits % unit ≠ 0 then .error .inexact
        else .ok (.finite negative (digits / unit) (exponent + surplus))
    else if 6111 < exponent then
      .ok (.finite negative (digits * Nat.pow 10 (exponent - 6111).toNat) 6111)
    else .ok (.finite negative digits exponent)

def read128 (s : String) : Except DecimalError Decimal :=
  match read? s with
  | none => .error .malformed
  | some (.finite negative digits exponent) => fit128 negative digits exponent
  | some (.nan negative signaling payload tag) =>
    if payload = 0 then .ok (.nan negative signaling 0 tag)
    else if 33 < digitCount payload then .error .malformed
    else .error .payload
  | some d => .ok d

/-- The text of a 128-bit decimal, which shows every not-a-number alike. -/
def text128 : Decimal → String
  | .nan .. => "NaN"
  | d => d.text

end Decimal

end SearchQuery

namespace SearchQuery.Number

/-!
## Numbers written by hand

Integers and doubles as they are accepted from a text: white space around
them, a sign, digits of any script, and single underscores between digits.
-/

/-- White space that may surround a number: the blank and the characters from
tab to carriage return. -/
def isBlank (c : Char) : Bool :=
  let n := c.toNat
  (0x09 ≤ n && n ≤ 0x0d) || n == 0x20

def isWideBlank (c : Char) : Bool :=
  let n := c.toNat
  n == 0x85 || n == 0xa0 || n == 0x1680 || (0x2000 ≤ n && n ≤ 0x200a) || n == 0x2028 ||
    n == 0x2029 || n == 0x202f || n == 0x205f || n == 0x3000

/-- White space and digits of any script as the plain ones. -/
def plainChar (c : Char) : Char :=
  if isWideBlank c then ' ' else Text.plainDigit c

/-- A text without the white space around it. -/
def trim (chars : List Char) : List Char :=
  ((chars.dropWhile isBlank).reverse.dropWhile isBlank).reverse

def plainChars (s : String) : List Char :=
  trim (s.toList.map plainChar)

/-- A text without the underscores between two digits; none when an underscore
stands elsewhere. -/
def dropUnderscores? (isDigit : Char → Bool) (afterDigit : Bool) :
    List Char → Option (List Char)
  | [] => some []
  | '_' :: next :: rest =>
    if afterDigit && isDigit next then
      (dropUnderscores? isDigit true rest).map (next :: ·)
    else none
  | '_' :: [] => none
  | c :: rest => (dropUnderscores? isDigit (isDigit c) rest).map (c :: ·)

def readInt? (s : String) : Option Int := do
  let (negative, rest) := Decimal.takeSign (plainChars s)
  let digits ← dropUnderscores? Char.isDigit false rest
  if digits.isEmpty || !digits.all Char.isDigit || maxDigits < digits.length then none
  else
    let n : Int := Decimal.digitsValue digits
    some (if negative then -n else n)

def hexNat? (chars : List Char) : Option Nat :=
  if chars.isEmpty then none
  else chars.foldlM (fun total c => (Text.hexValue? c).map (total * 16 + ·)) 0

/-- Hexadecimal digits without a marker in front of them; the marker may end in
an underscore. -/
def dropHexMarker : List Char → List Char
  | '0' :: 'x' :: '_' :: rest => rest
  | '0' :: 'X' :: '_' :: rest => rest
  | '0' :: 'x' :: rest => rest
  | '0' :: 'X' :: rest => rest
  | rest => rest

def readHexInt? (s : String) : Option Int := do
  let (negative, rest) := Decimal.takeSign (plainChars s)
  let digits ← dropUnderscores? (fun c => (Text.hexValue? c).isSome) false (dropHexMarker rest)
  let n ← hexNat? digits
  some (if negative then -(n : Int) else n)

/-- Reads a double; a not-a-number gets the given tag. -/
def readDouble? (tag : Nat) (s : String) : Option Double := do
  let (negative, rest) := Decimal.takeSign (plainChars s)
  let lower := rest.map Char.toLower
  if lower = "inf".toList ∨ lower = "infinity".toList then some (.infinite negative)
  else if lower = "nan".toList then some (.nan tag)
  else
    let plain ← dropUnderscores? Char.isDigit false rest
    let n ← Decimal.readUnsigned? plain
    some (Double.ofScientific negative n.digits n.exponent)

end SearchQuery.Number
