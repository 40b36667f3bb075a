import SearchQuery.Number

/-!
# JSON text

Values of the JSON grammar, their text, and how a text is read.
-/

namespace SearchQuery.Json

/-!
## Strings in JSON text

A string is written in ASCII: quotes, backslashes and the common control
characters have two-character escapes, and every other character outside the
printable ASCII range is written by its UTF-16 code units.  Reading accepts
any character but raw control characters, and joins pairs of surrogates; one
half of a pair alone is read and written as itself.
-/

def unitEscape (unit : Nat) : List Char :=
  '\\' :: 'u' :: Text.hexDigits 4 unit

def escaped (c : Char) : List Char :=
  if c = '"' then ['\\', '"']
  else if c = '\\' then ['\\', '\\']
  else if c = '\n' then ['\\', 'n']
  else if c = '\r' then ['\\', 'r']
  else if c = '\t' then ['\\', 't']
  else if c = '\x08' then ['\\', 'b']
  else if c = '\x0c' then ['\\', 'f']
  else if 0x20 ≤ c.toNat ∧ c.toNat ≤ 0x7e then [c]
  else if c.toNat < 0x10000 then unitEscape c.toNat
  else
    match Text.half? c with
    | some unit => unitEscape unit
    | none =>
      let above := c.toNat - 0x10000
      unitEscape (0xd800 + above / 0x400) ++ unitEscape (0xdc00 + above % 0x400)

def writeString (s : String) : List Char :=
  '"' :: s.toList.flatMap escaped ++ ['"']

def unitValue? (a b c d : Char) : Option Nat := do
  some ((((← Text.hexValue? a) * 16 + (← Text.hexValue? b)) * 16 + (← Text.hexValue? c)) * 16 + (← Text.hexValue? d))

/-- The character that a two-character escape stands for. -/
def shortEscape? : Char → Option Char
  | '"' => some '"'
  | '\\' => some '\\'
  | '/' => some '/'
  | 'b' => some '\x08'
  | 'f' => some '\x0c'
  | 'n' => some '\n'
  | 'r' => some '\r'
  | 't' => some '\t'
  | _ => none

/-- The character of a code unit; a surrogate without its partner has one that
stands for it. -/
def unitChar (unit : Nat) : Char :=
  if Text.isHalf unit then Text.ofHalf unit else Char.ofNat unit

def pairChar (high low : Nat) : Char :=
  Char.ofNat (0x10000 + (high - 0xd800) * 0x400 + (low - 0xdc00))

/-- The low surrogate that a text starts with, if a code unit is a high one. -/
def partner? (unit : Nat) : List Char → Option Nat
  | '\\' :: 'u' :: e :: f :: g :: h :: _ =>
    match unitValue? e f g h with
    | some low =>
      if 0xd800 ≤ unit ∧ unit < 0xdc00 ∧ 0xdc00 ≤ low ∧ low < 0xe000 then some low else none
    | none => none
  | _ => none

/-- Reads the characters of a string up to its closing quote.  The text may
begin with escapes that were already read together with the one before. -/
def readChars : (skip : Nat) → List Char → Option (List Char × List Char)
  | _, [] => none
  | skip + 1, _ :: rest => readChars skip rest
  | 0, '"' :: rest => some ([], rest)
  | 0, '\\' :: 'u' :: a :: b :: c :: d :: rest =>
    match unitValue? a b c d with
    | none => none
    | some unit =>
      match partner? unit rest with
      | some low => (readChars 6 rest).map (fun read => (pairChar unit low :: read.1, read.2))
      | none => (readChars 0 rest).map (fun read => (unitChar unit :: read.1, read.2))
  | 0, '\\' :: c :: rest =>
    match shortEscape? c with
    | some plain => (readChars 0 rest).map (fun read => (plain :: read.1, read.2))
    | none => none
  | 0, c :: rest =>
    if c.toNat < 0x20 ∨ c = '\\' then none
    else (readChars 0 rest).map (fun read => (c :: read.1, read.2))
termination_by structural _ chars => chars

/-- Reads the characters of a string up to its closing quote. -/
def readString (chars : List Char) : Option (List Char × List Char) :=
  readChars 0 chars

/-!
## Reading JSON text

The reader makes values of any type: what to make of a number, a list or an
object is a parameter, and objects may be rejected as soon as they are closed.
Besides the standard it knows the three words for values that are no finite
number.  The fuel is the length of the text, which every step shortens.
-/

/-- What to make of the parts of a text. -/
structure Maker (α ε : Type) where
  null : α
  bool : Bool → α
  whole : Int → α
  double : Double → α
  text : String → α
  array : List α → α
  object : List (String × α) → Except ε α

/-- Why a text cannot be read: it is not well formed, or an object is rejected. -/
inductive ReadError (ε : Type) where
  | malformed
  | rejected (error : ε)

def isSpace (c : Char) : Bool :=
  c == ' ' || c == '\t' || c == '\n' || c == '\r'

/-- A text without its leading white space. -/
def skipSpace (chars : List Char) : List Char :=
  chars.dropWhile isSpace

/-- The digits before the point, which start with zero only when they are zero. -/
def readIntegral : List Char → Option (List Char × List Char)
  | '0' :: rest => some (['0'], rest)
  | chars =>
    match Decimal.spanDigits chars with
    | ([], _) => none
    | (digits, rest) => some (digits, rest)

/-- The digits after the point, if there are any. -/
def readFraction : List Char → List Char × List Char
  | '.' :: rest =>
    match Decimal.spanDigits rest with
    | ([], _) => ([], '.' :: rest)
    | (digits, after) => (digits, after)
  | chars => ([], chars)

/-- The exponent, if there is one with at least one digit. -/
def readExponent (chars : List Char) : Option Int × List Char :=
  match chars with
  | marker :: rest =>
    if marker = 'e' ∨ marker = 'E' then
      let (negative, unsigned) := Decimal.takeSign rest
      match Decimal.spanDigits unsigned with
      | ([], _) => (none, chars)
      | (digits, after) =>
        let n : Int := Decimal.digitsValue digits
        (some (if negative then -n else n), after)
    else (none, chars)
  | [] => (none, chars)

/-- Reads a number: an integer when it has neither fraction nor exponent. -/
def readNumber {α ε : Type} (maker : Maker α ε) (chars : List Char) : Option (α × List Char) :=
  let (negative, unsigned) := match chars with
    | '-' :: rest => (true, rest)
    | rest => (false, rest)
  match readIntegral unsigned with
  | none => none
  | some (whole, rest) =>
    let (fraction, rest) := readFraction rest
    let (exponent, rest) := readExponent rest
    if fraction.isEmpty && exponent.isNone then
      if maxDigits < whole.length then none
      else
        let n : Int := Decimal.digitsValue whole
        some (maker.whole (if negative then -n else n), rest)
    else
      let digits := Decimal.digitsValue (whole ++ fraction)
      let power := exponent.getD 0 - fraction.length
      some (maker.double (Double.ofScientific negative digits power), rest)

def readScalar {α ε : Type} (maker : Maker α ε) : List Char → Option (α × List Char)
  | 'n' :: 'u' :: 'l' :: 'l' :: rest => some (maker.null, rest)
  | 't' :: 'r' :: 'u' :: 'e' :: rest => some (maker.bool true, rest)
  | 'f' :: 'a' :: 'l' :: 's' :: 'e' :: rest => some (maker.bool false, rest)
  | 'N' :: 'a' :: 'N' :: rest => some (maker.double (.nan 0), rest)
  | 'I' :: 'n' :: 'f' :: 'i' :: 'n' :: 'i' :: 't' :: 'y' :: rest =>
    some (maker.double (.infinite false), rest)
  | '-' :: 'I' :: 'n' :: 'f' :: 'i' :: 'n' :: 'i' :: 't' :: 'y' :: rest =>
    some (maker.double (.infinite true), rest)
  | chars => readNumber maker chars

section

variable {α ε : Type} (maker : Maker α ε)

mutual

/-- Reads a value that starts at the first character. -/
def readValue : (fuel : Nat) → List Char → Except (ReadError ε) (α × List Char)
  | 0, _ => .error .malformed
  | fuel + 1, chars =>
    match chars with
    | '"' :: rest =>
      match readString rest with
      | some (s, rest) => .ok (maker.text (String.ofList s), rest)
      | none => .error .malformed
    | '[' :: rest =>
      match skipSpace rest with
      | ']' :: rest => .ok (maker.array [], rest)
      | rest => do
        let (items, rest) ← readItems fuel rest
        return (maker.array items, rest)
    | '\x7b' :: rest =>
      match skipSpace rest with
      | '\x7d' :: rest =>
        match maker.object [] with
        | .ok a => .ok (a, rest)
        | .error e => .error (.rejected e)
      | rest => do
        let (entries, rest) ← readEntries fuel rest
        match maker.object entries with
        | .ok a => return (a, rest)
        | .error e => throw (.rejected e)
    | chars =>
      match readScalar maker chars with
      | some read => .ok read
      | none => .error .malformed

def readItems : (fuel : Nat) → List Char → Except (ReadError ε) (List α × List Char)
  | 0, _ => .error .malformed
  | fuel + 1, chars => do
    let (item, rest) ← readValue fuel chars
    match skipSpace rest with
    | ']' :: rest => return ([item], rest)
    | ',' :: rest =>
      let (items, rest) ← readItems fuel (skipSpace rest)
      return (item :: items, rest)
    | _ => throw .malformed

def readEntries : (fuel : Nat) → List Char → Except (ReadError ε) (List (String × α) × List Char)
  | 0, _ => .error .malformed
  | fuel + 1, chars =>
    match chars with
    | '"' :: rest =>
      match readString rest with
      | none => .error .malformed
      | some (key, rest) =>
        match skipSpace rest with
        | ':' :: rest => do
          let (a, rest) ← readValue fuel (skipSpace rest)
          match skipSpace rest with
          | '\x7d' :: rest => return ([(String.ofList key, a)], rest)
          | ',' :: rest =>
            let (entries, rest) ← readEntries fuel (skipSpace rest)
            return ((String.ofList key, a) :: entries, rest)
          | _ => throw .malformed
        | _ => .error .malformed
    | _ => .error .malformed

end

/-- Reads a whole text: one value with nothing but white space around it. -/
def read (s : String) : Except (ReadError ε) α := do
  let chars := s.toList
  let (a, rest) ← readValue maker (2 * chars.length + 2) (skipSpace chars)
  if (skipSpace rest).isEmpty then return a else throw .malformed

end

end SearchQuery.Json

namespace SearchQuery

/-!
## Printing JSON text

A document is printed on one line, with a space after each comma and colon, or
over several lines with a given indentation.  Empty lists and objects stay
closed.  Doubles are written in their shortest form.
-/

/-- A JSON document. -/
inductive Json where
  | null
  | bool (b : Bool)
  | whole (n : Int)
  | double (d : Double)
  | text (s : String)
  | array (items : List Json)
  | object (entries : List (String × Json))

namespace Json

def maker : Maker Json Empty where
  null := .null
  bool := .bool
  whole := .whole
  double := .double
  text := .text
  array := .array
  object entries := .ok (.object entries)

/-- The text of a double: words for what is no finite number. -/
def doubleText : Double → List Char
  | .nan _ => "NaN".toList
  | .infinite true => "-Infinity".toList
  | .infinite false => "Infinity".toList
  | d => d.text.toList

/-- The text by which each depth is indented; without it all is on one line. -/
structure Layout where
  unit? : Option String

namespace Layout

def oneLine : Layout :=
  ⟨none⟩

def blanks (width : Int) : Layout :=
  ⟨some (String.ofList (List.replicate width.toNat ' '))⟩

/-- A line break with the indentation of a depth; nothing when printing on one line. -/
def line (layout : Layout) (depth : Nat) : List Char :=
  match layout.unit? with
  | none => []
  | some unit => '\n' :: (List.replicate depth unit.toList).flatten

/-- What stands between two items of a list or an object. -/
def comma (layout : Layout) (depth : Nat) : List Char :=
  match layout.unit? with
  | none => [',', ' ']
  | some _ => ',' :: layout.line depth

end Layout

mutual

def write (layout : Layout) (depth : Nat) : Json → List Char
  | .null => "null".toList
  | .bool true => "true".toList
  | .bool false => "false".toList
  | .whole n => (toString n).toList
  | .double d => doubleText d
  | .text s => writeString s
  | .array [] => ['[', ']']
  | .array (item :: rest) =>
    '[' :: (layout.line (depth + 1) ++ write layout (depth + 1) item ++
      writeItems layout (depth + 1) rest ++ layout.line depth ++ [']'])
  | .object [] => ['\x7b', '\x7d']
  | .object ((key, item) :: rest) =>
    '\x7b' :: (layout.line (depth + 1) ++ writeString key ++ ':' :: ' ' ::
      write layout (depth + 1) item ++ writeEntries layout (depth + 1) rest ++
      layout.line depth ++ ['\x7d'])

def writeItems (layout : Layout) (depth : Nat) : List Json → List Char
  | [] => []
  | item :: rest =>
    layout.comma depth ++ write layout depth item ++ writeItems layout depth rest

def writeEntries (layout : Layout) (depth : Nat) : List (String × Json) → List Char
  | [] => []
  | (key, item) :: rest =>
    layout.comma depth ++ writeString key ++ ':' :: ' ' :: write layout depth item ++
      writeEntries layout depth rest

end

def print (layout : Layout) (json : Json) : String :=
  String.ofList (write layout 0 json)

end Json

end SearchQuery
