import SearchQuery.Json
import SearchQuery.Build.Guard

/-!
# Writing extended JSON

Values that JSON has no form for are written as objects that name a type.
-/

namespace SearchQuery

/-!
## Dates in extended JSON

A date is written as text with an optional fraction and an optional offset, or
as milliseconds since 1970.  It is read as universal time without an offset.
-/

namespace ExtendedJson

/-- Why a date cannot be read. -/
inductive DateError where
  | malformed
  | outOfRange
deriving DecidableEq

def fromEnd? (chars : List Char) (distance : Nat) : Option Char :=
  chars.reverse[distance - 1]?

def isSign (c : Char) : Bool :=
  c == '+' || c == '-'

/-- The length of the offset that a text ends with: one for the letter of
universal time, six, five or three for a signed offset, zero for none. -/
def offsetLength (chars : List Char) : Except DateError Nat := do
  let some last := fromEnd? chars 1 | throw .malformed
  if last = 'Z' then return 1
  let some sixth := fromEnd? chars 6 | throw .malformed
  if isSign sixth && fromEnd? chars 3 == some ':' then return 6
  let some fifth := fromEnd? chars 5 | throw .malformed
  if isSign fifth then return 5
  let some third := fromEnd? chars 3 | throw .malformed
  if isSign third then return 3
  return 0

def digit? (c : Char) : Option Nat :=
  let plain := Text.plainDigit c
  if plain.isDigit then some (plain.toNat - '0'.toNat) else none

def plainDigit? (low high : Nat) (c : Char) : Option Nat :=
  if c.isDigit && low ≤ c.toNat - '0'.toNat && c.toNat - '0'.toNat ≤ high then
    some (c.toNat - '0'.toNat)
  else none

def readYear? (chars : List Char) : Option Nat := do
  if chars.length ≠ 4 then none
  else
    let digits ← chars.mapM digit?
    some (digits.foldl (fun total d => total * 10 + d) 0)

def readMonth? : List Char → Option Nat
  | [c] => plainDigit? 1 9 c
  | ['0', c] => plainDigit? 1 9 c
  | ['1', c] => (plainDigit? 0 2 c).map (10 + ·)
  | _ => none

/-- A day of the month, with a space or a zero or nothing before a single plain
digit; after a one or a two the digit may be of any script. -/
def readDay? : List Char → Option Nat
  | [c] => plainDigit? 1 9 c
  | [' ', c] => plainDigit? 1 9 c
  | ['0', c] => plainDigit? 1 9 c
  | ['1', c] => (digit? c).map (10 + ·)
  | ['2', c] => (digit? c).map (20 + ·)
  | ['3', c] => (plainDigit? 0 1 c).map (30 + ·)
  | _ => none

/-- An hour: a digit of any script, after a plain zero or one or alone, or a two
and a plain digit. -/
def readHour? : List Char → Option Nat
  | [c] => digit? c
  | ['0', c] => digit? c
  | ['1', c] => (digit? c).map (10 + ·)
  | ['2', c] => (plainDigit? 0 3 c).map (20 + ·)
  | _ => none

/-- Minutes or seconds: a digit of any script, alone or after a plain digit up to five. -/
def readSixty? : List Char → Option Nat
  | [c] => digit? c
  | [a, b] => do some ((← plainDigit? 0 5 a) * 10 + (← digit? b))
  | _ => none

/-- A text cut at the first occurrence of a character, which is dropped. -/
def cut? (c : Char) (chars : List Char) : Option (List Char × List Char) :=
  match chars.dropWhile (· != c) with
  | [] => none
  | _ :: rest => some (chars.takeWhile (· != c), rest)

def readClockDate? (chars : List Char) : Option DateTime := do
  let (year, rest) ← cut? '-' chars
  let (month, rest) ← cut? '-' rest
  let (day, rest) ← cut? 'T' (rest.map (fun c => if c = 't' then 'T' else c))
  let (hour, rest) ← cut? ':' rest
  let (minute, second) ← cut? ':' rest
  let date := Date.mk (← readYear? year) (← readMonth? month) (← readDay? day)
  if !date.valid then none
  else some ⟨date, ← readHour? hour, ← readSixty? minute, ← readSixty? second, 0, none⟩

def cutFraction (chars : List Char) : List Char × Option (List Char) :=
  let digits := (chars.reverse.takeWhile (· != '.')).reverse
  if digits.length = chars.length then (chars, none)
  else (chars.take (chars.length - digits.length - 1), some ('.' :: digits))

/-- Microseconds from a fraction read as a double, scaled and cut off; an
exponent may make them any number. -/
def readMicros (fraction : List Char) : Except DateError Nat := do
  let some d := Number.readDouble? 0 (String.ofList fraction) | throw .malformed
  match d with
  | .finite false magnitude =>
    match Double.ofMagnitude false (magnitude * 1000000) with
    | .finite _ scaled => return scaled.floor.toNat
    | _ => throw .outOfRange
  | .infinite _ => throw .outOfRange
  | _ => throw .malformed

/-- Microseconds that are less than a second; more than thirty-one bits are out of range. -/
def checkMicros (micros : Nat) : Except DateError Nat :=
  if micros < 1000000 then .ok micros
  else if micros < 2147483648 then .error .malformed
  else .error .outOfRange

def readOffset? (chars : List Char) : Option Int := do
  match chars with
  | [] => some 0
  | ['Z'] => some 0
  | sign :: clock => do
    let (hours, minutes) := match clock with
      | [a, b, ':', c, d] => ([a, b], [c, d])
      | a :: b :: rest => ([a, b], rest)
      | short => (short, [])
    let h ← Number.readInt? (String.ofList hours)
    let m ← if minutes.isEmpty then some 0 else Number.readInt? (String.ofList minutes)
    let micros := (h * 3600 + m * 60) * 1000000
    some (if sign = '-' then -micros else micros)

/-- Reads the text of a date as universal time without an offset. -/
def readDate (s : String) : Except DateError DateTime := do
  let chars := s.toList
  let length ← offsetLength chars
  let cutAt := chars.length - length
  let (clock, fraction) := cutFraction (chars.take cutAt)
  let micros ← match fraction with
    | none => pure 0
    | some digits => readMicros digits
  let some t := readClockDate? clock | throw .malformed
  let micros ← checkMicros micros
  let some offset := readOffset? (chars.drop cutAt) | throw .malformed
  match DateTime.ofWall? (t.wall + micros - offset) none with
  | some t => return t
  | none => throw .outOfRange

def dateOfMillis? (millis : Int) : Option DateTime :=
  DateTime.ofWall? (DateTime.epoch + millis * 1000) none

end ExtendedJson

/-!
## Extended JSON of values

Stored documents have types that JSON lacks.  Each of them is written as an
object with one key that names the type.  Dates from 1970 on are written as
text and earlier ones as milliseconds; numbers stay plain as long as they are
finite.  A value is written by its term.
-/

namespace ExtendedJson

def dateText (t : DateTime) : String :=
  let millis := t.microsecond / 1000
  let fraction := if millis = 0 then "" else "." ++ Date.padded 3 millis
  let zone := match t.offset with
    | none => "Z"
    | some 0 => "Z"
    | some offset => DateTime.offsetText "" offset
  t.date.isoText ++ "T" ++ t.clockText ++ fraction ++ zone

def ofDate (t : DateTime) : Checked Json :=
  if DateTime.epoch ≤ t.instant then .ok (.object [("$date", .text (dateText t))])
  else if (DateTime.ofWall? t.instant none).isNone then .error (.refused .overflow)
  else .ok (.object [("$date", .object [("$numberLong", .text (toString t.epochMillis))])])

/-- The object of a double, or the double itself when it is finite. -/
def ofDouble : Double → Json
  | .finite negative magnitude => .double (.finite negative magnitude)
  | .infinite true => .object [("$numberDouble", .text "-Infinity")]
  | .infinite false => .object [("$numberDouble", .text "Infinity")]
  | .nan _ => .object [("$numberDouble", .text "NaN")]

def ofBytes (bytes : List UInt8) (subtype : Nat) : Json :=
  .object [("$binary", .object [("base64", .text (Text.base64 bytes)),
    ("subType", .text (String.ofList (Text.hexDigits 2 subtype)))])]

def flagLetters (flags : Nat) : String :=
  String.ofList ([(2, 'i'), (4, 'l'), (8, 'm'), (16, 's'), (32, 'u'), (64, 'x')].filterMap
    (fun flag => if flags / flag.1 % 2 = 1 then some flag.2 else none))

def ofTick : Tick → Json
  | .whole w => .whole w.value
  | .flag b => .bool b

/-- The text of a pattern; bytes are read as UTF-8. -/
def patternText : Pattern → Checked String
  | .text s => .ok s
  | .bytes b =>
    match String.fromUTF8? (ByteArray.mk b.toArray) with
    | some s => .ok s
    | none => .error (.refused .badBytes)

/-- The object of a value that only stored documents have. -/
def ofSpecial : Special → Checked Json
  | .decimal128 d => .ok (.object [("$numberDecimal", .text d.text128)])
  | .binary bytes subtype => .ok (ofBytes bytes subtype)
  | .timestamp time increment =>
    .ok (.object [("$timestamp", .object [("t", ofTick time), ("i", ofTick increment)])])
  | .regex pattern flags => do
    let text ← patternText pattern
    return .object [("$regularExpression",
      .object [("pattern", .text text), ("options", .text (flagLetters flags))])]
  | .minKey => .ok (.object [("$minKey", .whole 1)])
  | .maxKey => .ok (.object [("$maxKey", .whole 1)])

/-- An integer, unless it has too many digits. -/
def ofWhole (w : Whole) : Checked Json :=
  if digitsFit w.value then .ok (.whole w.value) else .error (.refused .badValue)

/-- The text of a key; only texts, integers, doubles, truth values and null have one. -/
def keyText : Term → Checked String
  | .text s => .ok s
  | .number (.whole w) => if digitsFit w.value then .ok w.text else .error (.refused .badValue)
  | .number (.double d) => .ok (String.ofList (Json.doubleText d))
  | .bool b => .ok (if b then "true" else "false")
  | .null => .ok "null"
  | _ => .error (.refused .wrongType)

/-- Members with one more: one of the same name keeps its place. -/
def setMember (members : List (String × Json)) (member : String × Json) : List (String × Json) :=
  if members.any (fun old => old.1 == member.1) then
    members.map (fun old => if old.1 == member.1 then member else old)
  else members ++ [member]

/-- Whether entries have a name by which an object would be taken for a container. -/
def posesAsContainer (entries : List (Term × Term)) : Bool :=
  entries.any (fun entry => match entry.1 with
    | .text name => name == "items" || name == "__iter__"
    | _ => false)

mutual

def ofTerm : Term → Checked Json
  | .null => .ok .null
  | .bool b => .ok (.bool b)
  | .number (.whole w) => ofWhole w
  | .number (.double d) => .ok (ofDouble d)
  | .text s => .ok (.text s)
  | .bytes b => .ok (ofBytes b 0)
  | .dateTime t => ofDate t
  | .objectId o => .ok (.object [("$oid", .text o.hex)])
  | .special s => ofSpecial s
  | .list items => do
    let items ← ofItems items
    return .array items
  | .tuple items => do
    let items ← ofItems items
    return .array items
  | .set items => do
    let items ← ofItems items
    return .array items
  | .dict entries => do
    let entries ← ofEntries entries
    return .object entries
  | .stream _ items => do
    let items ← ofItems items
    return .array items
  | .code text .null => .ok (.object [("$code", .text text)])
  | .code text scope => do
    let json ← ofTerm scope
    return .object [("$code", .text text), ("$scope", json)]
  | .pointer collection id .null others => do
    let c ← ofTerm collection
    let i ← ofTerm id
    let rest ← ofEntries others
    if posesAsContainer others then throw (.refused .wrongType)
    return .object (rest.foldl setMember [("$ref", c), ("$id", i)])
  | .pointer collection id database others => do
    let c ← ofTerm collection
    let i ← ofTerm id
    let d ← ofTerm database
    let rest ← ofEntries others
    if posesAsContainer others then throw (.refused .wrongType)
    return .object (rest.foldl setMember [("$ref", c), ("$id", i), ("$db", d)])
  | _ => .error (.refused .wrongType)

def ofItems : List Term → Checked (List Json)
  | [] => .ok []
  | t :: rest => do
    let json ← ofTerm t
    let others ← ofItems rest
    return json :: others

def ofEntries : List (Term × Term) → Checked (List (String × Json))
  | [] => .ok []
  | (key, t) :: rest => do
    let json ← ofTerm t
    let name ← keyText key
    let others ← ofEntries rest
    return (name, json) :: others

end

/-- The least number that is more than any count of blanks may be. -/
def blanksLimit : Int :=
  9223372036854775808

/-- The layout that an indentation asks for: a number counts blanks, a text stands
for itself, and null puts all on one line. -/
def layout : Value → Checked Json.Layout
  | .null => .ok .oneLine
  | .bool b => .ok (.blanks (if b then 1 else 0))
  | .text s => .ok ⟨some s⟩
  | .number (.whole w) =>
    if -blanksLimit ≤ w.value ∧ w.value < blanksLimit then .ok (.blanks w.value)
    else .error (.refused .overflow)
  | _ => .error (.refused .wrongType)

/-- The text of a value in extended JSON, on one line or indented. -/
def print (indent v : Value) : Checked String := do
  let shape ← layout indent
  let json ← ofTerm v.toTerm
  return json.print shape

end ExtendedJson

end SearchQuery
