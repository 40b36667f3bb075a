import SearchQuery.ExtendedJson.Encode
import SearchQuery.Build.Operator

/-!
# Reading extended JSON

An object whose first known key names a type is read as a value of that type,
and must then have no other keys; every other object is read as it is.  Types
are recognized from the inside out, as soon as an object is closed.
-/

namespace SearchQuery

namespace ExtendedJson

def wrongType {α : Type} : Checked α :=
  .error (.refused .wrongType)

/-- A value of the right type that is out of range or not well formed. -/
def badValue {α : Type} : Checked α :=
  .error (.refused .badValue)

def require (key : String) (entries : List (Value × Value)) : Checked Value :=
  match Value.lookup key entries with
  | some v => .ok v
  | none => .error (.noKey (.text key))

def requireEntries (v : Value) : Checked (List (Value × Value)) :=
  match v with
  | .dict entries => .ok entries
  | _ => wrongType

/-- The only value of an object. -/
def alone (key : String) (entries : List (Value × Value)) : Checked Value := do
  let v ← require key entries
  if entries.length ≠ 1 then wrongType else return v

/-- The text that a value is; code counts as one. -/
def asText? (v : Value) : Option String :=
  v.asWords?.map Words.text

/-- The bytes that a value is, whatever their subtype. -/
def asBytes? : Value → Option (List UInt8)
  | .bytes b => some b
  | .special (.binary b _) => some b
  | _ => none

/-- The text of bytes in which a number may be written; bytes beyond ASCII are
part of no number. -/
def asciiText (bytes : List UInt8) : String :=
  String.ofList (bytes.map (fun b => if b < 128 then Char.ofNat b.toNat else '?'))

/-- The text or the bytes that a number is written in. -/
def written? (v : Value) : Option String :=
  (asText? v).orElse (fun _ => (asBytes? v).map asciiText)

/-- The integer that a value stands for: a text or bytes in decimal digits, a
number cut off at the point, or a truth value. -/
def toInt (v : Value) : Checked Int :=
  match v with
  | .number (.whole w) => .ok w.value
  | .bool b => .ok (if b then 1 else 0)
  | .number (.double (.finite negative magnitude)) =>
    .ok (if negative then -magnitude.floor else magnitude.floor)
  | .number (.double (.infinite _)) => .error (.refused .overflow)
  | .number (.double (.nan _)) => badValue
  | v =>
    match written? v with
    | none => wrongType
    | some s =>
      match Number.readInt? s with
      | some n => .ok n
      | none => badValue

/-- Pairs of hexadecimal digits as bytes, with white space allowed between pairs. -/
def hexBytes? : List Char → Option (List UInt8)
  | [] => some []
  | [c] => if Number.isBlank c then some [] else none
  | a :: b :: rest =>
    if Number.isBlank a then hexBytes? (b :: rest)
    else do
      let high ← Text.hexValue? a
      let low ← Text.hexValue? b
      let others ← hexBytes? rest
      some ((high * 16 + low).toUInt8 :: others)

def hexText (bytes : List UInt8) : String :=
  String.ofList (bytes.flatMap (fun b => Text.hexDigits 2 b.toNat))

def newObjectId (tag : Nat) : Value :=
  .objectId ⟨String.ofList (Text.hexDigits 24 tag)⟩

/-- An identifier from a text of twenty-four hexadecimal digits or from twelve bytes; null asks for
a new one. -/
def objectId (tag : Nat) (v : Value) : Checked Value :=
  match v, asText? v, asBytes? v with
  | .null, _, _ => .ok (newObjectId tag)
  | .objectId o, _, _ => .ok (.objectId o)
  | _, some s, _ =>
    match hexBytes? s.toList with
    | some bytes =>
      if bytes.length = 12 ∧ s.length = 24 then .ok (.objectId ⟨hexText bytes⟩)
      else .error (.refused .badObjectId)
    | none => .error (.refused .badObjectId)
  | _, _, some b => if b.length = 12 then .ok (.objectId ⟨hexText b⟩) else wrongType
  | _, _, _ => wrongType

def date (v : Value) : Checked Value :=
  match asText? v with
  | some s =>
    match readDate s with
    | .ok t => .ok (.dateTime t)
    | .error .malformed => badValue
    | .error .outOfRange => .error (.refused .overflow)
  | none => do
    let millis ← toInt v
    match dateOfMillis? millis with
    | some t => return .dateTime t
    | none => throw (.refused .dateOverflow)

/-- The flag of a letter that may follow a regular expression. -/
def flagOf (c : Char) : Nat :=
  match c with
  | 'i' => 2
  | 'l' => 4
  | 'm' => 8
  | 's' => 16
  | 'u' => 32
  | 'x' => 64
  | _ => 0

def flagsOf (letters : List Char) : Nat :=
  letters.foldl (fun flags c => flags ||| flagOf c) 0

/-- The pattern that a value is: a text or bytes. -/
def pattern? (v : Value) : Option Pattern :=
  ((asText? v).map .text).orElse (fun _ => (asBytes? v).map .bytes)

/-- The letter that an option is; options of other kinds have no meaning, as
long as they can be looked up. -/
def optionLetter (v : Value) : Checked (List Char) :=
  if !v.hashable then wrongType
  else
    match v with
    | .text s => .ok (if s.length = 1 then s.toList else [])
    | _ => .ok []

/-- A regular expression with its letters beside it; without a pattern the
object stands for itself. -/
def legacyRegex (entries : List (Value × Value)) : Checked Value := do
  match pattern? (← require "$regex" entries) with
  | some pattern =>
    let options := (Value.lookup "$options" entries).getD (.text "")
    let letters ← Guard.each optionLetter (← options.toItems)
    return .special (.regex pattern (flagsOf letters.flatten))
  | none => return .dict entries

def canonicalRegex (v : Value) : Checked Value :=
  match v with
  | .dict entries =>
    if entries.length ≠ 2 then wrongType
    else do
      let some letters := asText? (← require "options" entries) | wrongType
      let some pattern := pattern? (← require "pattern" entries) | wrongType
      return .special (.regex pattern (flagsOf letters.toList))
  | _ => wrongType

/-- Bytes with a subtype; the subtype zero means plain bytes. -/
def bytesOfSubtype (bytes : List UInt8) (subtype : Int) : Checked Value :=
  if subtype = 0 then .ok (.bytes bytes)
  else if subtype < 0 ∨ 256 ≤ subtype then badValue
  else .ok (.special (.binary bytes subtype.toNat))

/-- Bytes from base64 and a subtype of at most two hexadecimal digits. -/
def canonicalBinary (v : Value) : Checked Value := do
  let entries ← requireEntries v
  let encoded ← require "base64" entries
  let subtype ← require "subType" entries
  match asText? encoded, asText? subtype with
  | some encoded, some subtype =>
    if 2 < subtype.length then wrongType
    else if entries.length ≠ 2 then wrongType
    else
      match Text.readBase64? encoded, Number.readHexInt? subtype with
      | some bytes, some n => bytesOfSubtype bytes n
      | _, _ => badValue
  | _, _ => wrongType

/-- The fault of encoding a value that is no text: it offers no such operation,
or what it has in its place is none. -/
def notEncodable (v : Value) : Fault Value :=
  match v with
  | .node (.pointer _ _ _ others) =>
    if (Value.lookup "encode" others).isSome then .refused .wrongType else v.absence "encode"
  | v => v.absence "encode"

/-- Bytes from base64 with the subtype beside them, as a number or in
hexadecimal digits; numbers that count down from zero are cut to their last byte. -/
def legacyBinary (encoded subtype : Value) : Checked Value := do
  let digits ← match subtype with
    | .number (.whole w) =>
      pure (if w.value < 0 then "-" ++ String.ofList (Nat.toDigits 16 w.value.natAbs)
        else String.ofList (Nat.toDigits 16 w.value.toNat))
    | .bool b => pure (if b then "01" else "00")
    | subtype =>
      match written? subtype with
      | some s => pure s
      | none => wrongType
  let n ← match Number.readHexInt? digits with
    | some n => pure n
    | none => badValue
  let n ← if 0xffffff80 ≤ n then
      match Number.readHexInt? (String.ofList (digits.toList.drop 6)) with
      | some n => pure n
      | none => badValue
    else pure n
  match asText? encoded with
  | some text =>
    match Text.readBase64? text with
    | some bytes => bytesOfSubtype bytes n
    | none => badValue
  | none => .error (notEncodable encoded)

def binary (entries : List (Value × Value)) : Checked Value := do
  match Value.lookup "$type" entries with
  | some subtype => legacyBinary (← require "$binary" entries) subtype
  | none => canonicalBinary (← require "$binary" entries)

/-- A number as a count of bytes, the most significant one first. -/
def bigEndian : (count : Nat) → Nat → List UInt8
  | 0, _ => []
  | count + 1, n => bigEndian count (n / 256) ++ [(n % 256).toUInt8]

/-- A universally unique identifier, as bytes of subtype four. -/
def uuid (v : Value) : Checked Value :=
  match asText? v with
  | some s =>
    let plain := ((s.replace "urn:" "").replace "uuid:" "").toList
    let isBrace := fun c : Char => c == '\x7b' || c == '\x7d'
    let inner := ((plain.dropWhile isBrace).reverse.dropWhile isBrace).reverse
    let digits := inner.filter (· != '-')
    if digits.length ≠ 32 then badValue
    else
      match Number.readHexInt? (String.ofList digits) with
      | some n => if n < 0 then badValue else .ok (.special (.binary (bigEndian 16 n.toNat) 4))
      | none => badValue
  | none => wrongType

def tick (v : Value) : Checked Tick :=
  match v with
  | .number (.whole w) => .ok (.whole w)
  | .bool b => .ok (.flag b)
  | _ => wrongType

/-- The time of a timestamp: seconds since 1970, or a date. -/
def tickOfTime (v : Value) : Checked Tick :=
  match v with
  | .dateTime t => .ok (.whole (.int ((t.instant - DateTime.epoch).fdiv 1000000)))
  | v => tick v

/-- Whether a part of a timestamp is below two to the thirty-second and not negative. -/
def tickFits (t : Tick) : Bool :=
  0 ≤ t.value && t.value < 4294967296

/-- A timestamp: a time and an increment, and nothing else. -/
def timestamp (v : Value) : Checked Value := do
  let entries ← requireEntries v
  match entries.length, Value.lookup "t" entries, Value.lookup "i" entries with
  | 2, some time, some increment =>
    let t ← tickOfTime time
    let i ← tick increment
    if tickFits t && tickFits i then return .special (.timestamp t i) else badValue
  | _, _, _ => wrongType

def double (tag : Nat) (v : Value) : Checked Value :=
  match asText? v with
  | some s =>
    match Number.readDouble? tag s with
    | some d => .ok (.number (.double d))
    | none => badValue
  | none => wrongType

def decimal128 (v : Value) : Checked Value :=
  match asText? v with
  | some s =>
    match Decimal.read128 s with
    | .ok d => .ok (.special (.decimal128 d))
    | .error .malformed => .error (.refused .decimalMalformed)
    | .error .inexact => .error (.refused .decimalInexact)
    | .error .overflow => .error (.refused .decimalOverflow)
    | .error .payload => badValue
  | none => wrongType

def extremeKey (key : Special) (v : Value) (entries : List (Value × Value)) : Checked Value :=
  match v with
  | .number (.whole (.int 1)) => if entries.length ≠ 1 then wrongType else .ok (.special key)
  | _ => wrongType

/-- The scope of code: that of the code it is made of, with the names of
another one, which replace equal ones. -/
def mergeScopes (inner outer : Value) : Checked Value :=
  match inner, outer with
  | inner, .null => .ok inner
  | .dict inner, .dict outer =>
    .ok (.dict (outer.foldl (fun entries entry => Value.insert entry.1 entry.2 entries) inner))
  | _, .dict outer => .ok (.dict outer)
  | _, _ => wrongType

/-- Code from its text, with a scope or without one. -/
def code (entries : List (Value × Value)) : Checked Value := do
  let known := entries.all (fun entry => match entry.1 with
    | .text key => key == "$code" || key == "$scope"
    | _ => false)
  if !known then wrongType
  else
    let outer := (Value.lookup "$scope" entries).getD .null
    match ← require "$code" entries with
    | .text s => return .node (.code s (← mergeScopes .null outer))
    | .node (.code s inner) => return .node (.code s (← mergeScopes inner outer))
    | _ => wrongType

/-- The entries of a pointer that have no meaning of their own; those that one
of them holds for them all come last and replace equal ones. -/
def pointerOthers (entries : List (Value × Value)) : Checked (List (Value × Value)) := do
  let others := entries.filter (fun entry => match entry.1 with
    | .text key => !(["$ref", "$id", "$db", "_extra"] : List String).contains key
    | _ => true)
  match Value.lookup "_extra" entries with
  | none => return others
  | some extra =>
    if extra.truth then
      return (← extra.toEntries).foldl
        (fun entries entry => Value.insert entry.1 entry.2 entries) others
    else return others

/-- Names that an entry of a pointer cannot have, since its own parts have them. -/
def reservedNames : List String :=
  ["self", "collection", "id", "database"]

/-- A pointer to a document of a collection; without the texts it needs the
object stands for itself. -/
def pointer (entries : List (Value × Value)) : Checked Value :=
  let make := fun (collection : Words) (id : Value) (database : Option Words) => do
    if reservedNames.any (fun name => (Value.lookup name entries).isSome) then wrongType
    else return .node (.pointer collection id database (← pointerOthers entries))
  match (Value.lookup "$ref" entries).bind Value.asWords?, Value.lookup "$id" entries,
      (Value.lookup "$db" entries).getD .null with
  | some collection, some id, .null => make collection id none
  | some collection, some id, database =>
    match database.asWords? with
    | some name => make collection id (some name)
    | none => .ok (.dict entries)
  | _, _, _ => .ok (.dict entries)

/-- A pointer in an object of its own, which names a collection and an identifier alone. -/
def lonePointer (v : Value) : Checked Value :=
  match v with
  | .node (.pointer collection (.objectId o) none others) =>
    if others.all (fun entry => entry.1.equal (.text "$ref") || entry.1.equal (.text "$id")) then
      .ok (.node (.pointer collection (.objectId o) none others))
    else wrongType
  | _ => wrongType

def typeKeys : List String :=
  ["$oid", "$ref", "$date", "$regex", "$minKey", "$maxKey", "$binary", "$code", "$uuid",
    "$undefined", "$numberLong", "$timestamp", "$numberDecimal", "$dbPointer",
    "$regularExpression", "$symbol", "$numberInt", "$numberDouble"]

def typeKey? (entries : List (Value × Value)) : Option String :=
  entries.findSome? (fun entry =>
    match entry.1 with
    | .text s => if typeKeys.contains s then some s else none
    | _ => none)

def typed (tag : Nat) (key : String) (entries : List (Value × Value)) : Checked Value :=
  match key with
  | "$oid" => do objectId tag (← alone key entries)
  | "$ref" => pointer entries
  | "$date" => do date (← alone key entries)
  | "$regex" => legacyRegex entries
  | "$minKey" => do extremeKey .minKey (← require key entries) entries
  | "$maxKey" => do extremeKey .maxKey (← require key entries) entries
  | "$binary" => binary entries
  | "$code" => code entries
  | "$uuid" => do uuid (← alone key entries)
  | "$undefined" => .ok .null
  | "$numberLong" => do
    let n ← toInt (← alone key entries)
    return .number (.whole (.long n))
  | "$timestamp" => do timestamp (← alone key entries)
  | "$numberDecimal" => do decimal128 (← alone key entries)
  | "$dbPointer" => do lonePointer (← alone key entries)
  | "$regularExpression" => do canonicalRegex (← alone key entries)
  | "$symbol" => do
    let v ← alone key entries
    return .text v.plain
  | "$numberInt" => do
    match asText? (← alone key entries) with
    | some s =>
      match Number.readInt? s with
      | some n => return .int n
      | none => badValue
    | none => wrongType
  | "$numberDouble" => do double tag (← alone key entries)
  | _ => .ok (.dict entries)

/-- A dictionary of the entries of an object; of equal keys the last counts. -/
def dictionary (pairs : List (String × Value)) : List (Value × Value) :=
  pairs.foldl (fun entries pair => Value.insert (.text pair.1) pair.2 entries) []

/-- The value that an object of extended JSON stands for. -/
def ofObject (tag : Nat) (pairs : List (String × Value)) : Checked Value :=
  let entries := dictionary pairs
  match typeKey? entries with
  | some key => typed tag key entries
  | none => .ok (.dict entries)

/-- Makes values of the parts of a text, given how objects are read. -/
def maker (object : List (String × Value) → Checked Value) : Json.Maker Value (Fault Value) where
  null := .null
  bool := .bool
  whole := .int
  double d := .number (.double d)
  text := .text
  array := .list
  object := object

/-- Reads extended JSON from a value's text, given how objects are read.  What is not well formed
or out of range is reported as a bad document; other refusals are raised as they are. -/
def read (object : List (String × Value) → Checked Value) (given : Value) (s : String) :
    Checked Value :=
  match Json.read (maker object) s with
  | .ok v => .ok v
  | .error .malformed => .error (.invalid "document" given .notJson)
  | .error (.rejected (.refused .badValue)) => .error (.invalid "document" given .notJson)
  | .error (.rejected fault) => .error fault

end ExtendedJson

/-- A hand-written document, from a dictionary or from its extended JSON text, given how the
objects of a text are read. -/
def Operator.rawBy (object : List (String × Value) → Checked Value) (document : Value) :
    Checked (Operator Value) :=
  match ExtendedJson.asText? document with
  | some s => do
    let v ← ExtendedJson.read object document s
    ofRaw v
  | none => ofRaw document

/-- A hand-written document, from a dictionary or from its extended JSON text. -/
def Operator.makeRaw (tag : Nat) (document : Value) : Checked (Operator Value) :=
  rawBy (ExtendedJson.ofObject tag) document

end SearchQuery
