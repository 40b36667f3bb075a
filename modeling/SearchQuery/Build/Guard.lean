import SearchQuery.Document
import SearchQuery.Value.Attribute

/-!
# Checked arguments

Arguments are checked before a node is made of them, and coerced where several
kinds of values are accepted.
-/

namespace SearchQuery

/-!
## Guards

Each guard accepts a value of any kind and either gives back what it was
looking for or reports the argument, its value and the reason.  Truth values
are never numbers here.
-/

/-- The outcome of a guard or a constructor. -/
abbrev Checked (α : Type) := Except (Fault Value) α

namespace Value

def asNumber? : Value → Option Number
  | .number x => some x
  | _ => none

def asWhole? : Value → Option Whole
  | .number (.whole w) => some w
  | _ => none

/-- The words a value is: a text or code. -/
def asWords? : Value → Option Words
  | .text s => some (.plain s)
  | .node (.code s scope) => some ⟨s, some scope.toTerm⟩
  | _ => none

def isNumber (v : Value) : Bool :=
  v.asNumber?.isSome

def isDate : Value → Bool
  | .dateTime _ => true
  | _ => false

end Value

namespace Guard

/-- Any value but null. -/
def notNull (argument : String) (v : Value) : Checked Value :=
  match v with
  | .null => .error (.invalid argument v .missing)
  | _ => .ok v

def number (argument : String) (v : Value) : Checked Number :=
  match v.asNumber? with
  | some x => .ok x
  | none => .error (.invalid argument v (.expectedNumber v.kind))

def integer (argument : String) (v : Value) : Checked Whole :=
  match v.asWhole? with
  | some w => .ok w
  | none => .error (.invalid argument v (.expectedInt v.kind))

def outside (argument : String) (v : Value) (x : Number) (reason : String → Reason) :
    Fault Value :=
  .worded x.isWritable (.outOfRange argument v (reason x.text))

def positive (argument : String) (v : Value) : Checked Number := do
  let x ← number argument v
  if x.le (.int 0) then throw (outside argument v x .notPositive) else return x

/-- A number that is not known to be less than zero. -/
def notNegative (argument : String) (v : Value) : Checked Number := do
  let x ← number argument v
  if x.lt (.int 0) then throw (outside argument v x .negative) else return x

def between (low high : Number) (argument : String) (v : Value) : Checked Number := do
  let x ← number argument v
  if low.le x && x.le high then return x
  else throw (outside argument v x (.outside low.text high.text))

def positiveInteger (argument : String) (v : Value) : Checked Whole := do
  let w ← integer argument v
  let _ ← positive argument v
  return w

def naturalInteger (argument : String) (v : Value) : Checked Whole := do
  let w ← integer argument v
  let _ ← notNegative argument v
  return w

def integerBetween (low high : Int) (argument : String) (v : Value) : Checked Whole := do
  let w ← integer argument v
  let _ ← between (.int low) (.int high) argument v
  return w

def text (argument : String) (v : Value) : Checked Words :=
  match v.asWords? with
  | some w => if w.text = "" then .error (.invalid argument v .empty) else .ok w
  | none => .error (.invalid argument v (.expectedString v.kind))

def expect {α : Type} (kinds : List String) (select : Value → Option α) (argument : String)
    (v : Value) : Checked α :=
  match v with
  | .null => .error (.invalid argument v .missing)
  | _ =>
    match select v with
    | some a => .ok a
    | none => .error (.invalid argument v (.expectedKind kinds v.kind))

def optional {α : Type} (guard : String → Value → Checked α) (argument : String) (v : Value) :
    Checked (Option α) :=
  match v with
  | .null => .ok none
  | _ => do
    let a ← guard argument v
    return some a

def each {α : Type} (guard : Value → Checked α) : List Value → Checked (List α)
  | [] => .ok []
  | v :: rest => do
    let a ← guard v
    let others ← each guard rest
    return a :: others

def anyText : String → Value → Checked Words :=
  expect ["str"] Value.asWords?

def flag : String → Value → Checked Bool :=
  expect ["bool"] (fun v => match v with | .bool b => some b | _ => none)

def tuple : String → Value → Checked (List Value) :=
  expect ["tuple"] (fun v => match v with | .tuple items => some items | _ => none)

def path : String → Value → Checked Path :=
  expect ["PathDefinition"] (fun v => match v with | .node (.path p) => some p | _ => none)

def query : String → Value → Checked Query :=
  expect ["QueryDefinition"] (fun v => match v with | .node (.query q) => some q | _ => none)

def score : Value → Checked (Option Score) :=
  optional (expect ["ScoreDefinition"]
    (fun v => match v with | .node (.score s) => some s | _ => none)) "score"

def fuzzy : Value → Checked (Option Fuzzy) :=
  optional (expect ["FuzzyOptions"]
    (fun v => match v with | .node (.fuzzy f) => some f | _ => none)) "fuzzy"

def operator : String → Value → Checked (Operator Value) :=
  expect ["SearchDefinition"]
    (fun v => match v with | .node (.operator op) => some op | _ => none)

/-- A field: a reference, or a name that is not empty. -/
def field (argument : String) (v : Value) : Checked Field :=
  match v with
  | .node (.field r) => .ok (.ref r)
  | .node (.looseField owner parts) => .ok (.ofTerms owner.toTerm parts.toTerm)
  | v => do
    let v ← notNull argument v
    let s ← text argument v
    return .name s

end Guard

/-!
## Building queries and paths

A query is made from a text or from anything that texts can be taken from, and
a path from a field or from anything that fields can be taken from.
-/

namespace Query

def ofText (text : Value) : Checked Query := do
  let s ← Guard.anyText "query" text
  return .single s

def ofTexts (texts : Value) : Checked Query := do
  let items ← Guard.tuple "queries" texts
  let texts ← Guard.each (Guard.anyText "queries") items
  return .many texts

def coerce (v : Value) : Checked Query :=
  match v with
  | .node (.query q) => .ok q
  | .text s => .ok (.single s)
  | .node (.code ..) => ofText v
  | .null => .error (.invalid "query" v .missing)
  | v =>
    match v.elements? with
    | some items => ofTexts (.tuple items)
    | none => .error (.invalid "query" v (.expectedTexts v.kind))

end Query

namespace Path

def ofField (field : Value) : Checked Path := do
  let f ← Guard.field "field" field
  return .single f

def ofFields (fields : Value) : Checked Path := do
  let items ← Guard.tuple "fields" fields
  if items.isEmpty then throw (.invalid "fields" fields .empty)
  let fields ← Guard.each (Guard.field "fields") items
  return .many fields

def ofAnalyzer (field analyzer : Value) : Checked Path := do
  let f ← Guard.field "field" field
  let a ← Guard.text "analyzer" analyzer
  return .analyzed f a

def ofPattern (pattern : Value) : Checked Path := do
  let s ← Guard.text "pattern" pattern
  return .wildcard s

def coerce (v : Value) : Checked Path :=
  match v with
  | .node (.path p) => .ok p
  | .text _ => ofField v
  | .node (.code ..) => ofField v
  | .node (.field _) => ofField v
  | .node (.looseField ..) => ofField v
  | .null => .error (.invalid "path" v .missing)
  | v =>
    match v.elements? with
    | some items => ofFields (.tuple items)
    | none => .error (.invalid "path" v (.expectedField v.kind))

end Path

/-!
## Building and using schemas
-/

namespace Schema

def model (v : Value) : Checked ModelName :=
  match v with
  | .node (.model m) => .ok m
  | v => .error (.invalid "model" v .expectedModel)

/-- The schema a value stands for: none given means names as they are, and a
model means its members.  Other values that count as schemas are of no use. -/
def coerce (c : Catalog) (v : Value) : Checked Schema :=
  match v with
  | .null => .ok .untyped
  | .node (.model m) => .ok (.modelled m)
  | .node (.schema s _) => .ok s
  | v => do
    if ← v.isSchema c then return .unusable
    else throw (.invalid "schema" v .expectedSchema)

/-- The stored name of a value that should be a field. -/
def resolve (c : Catalog) (s : Schema) (v : Value) : Checked Words :=
  match v.asWords?, v with
  | some name, _ => s.resolver c (.name name)
  | none, .node (.field r) => s.resolver c (.ref r)
  | none, .node (.looseField owner parts) => s.resolver c (.ofTerms owner.toTerm parts.toTerm)
  | none, v =>
    match s with
    | .untyped => .error (.mismatch v .notText)
    | .modelled _ => .error (.mismatch v .notField)
    | .prepending text => .ok (.plain (text ++ v.plain))
    | .unusable => .error (.refused .wrongType)

/-- How a value resolves fields that is used as a schema without being made one. -/
def direct (c : Catalog) (schema : Value) : Resolver := fun field => do
  match ← schema.part c "resolve", schema with
  | .method _, .node (.schema s _) => s.resolver c field
  | _, _ => throw (.refused .wrongType)

def coerced (c : Catalog) (schema : Value) : Resolver := fun field => do
  let s ← coerce c schema
  s.resolver c field

end Schema

end SearchQuery
