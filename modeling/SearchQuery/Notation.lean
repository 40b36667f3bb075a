import SearchQuery.Workspace

/-!
# The notation of questions

Questions to the library, and what they are about, are written in JSON.
-/

namespace SearchQuery

/-!
## The notation of values

Values are written as JSON in the notation of expressions as far as it has
one.  Nodes are written as the texts that show them, and objects that have
neither a value nor a text of their own by the name of their kind.
-/

namespace Notation

def tag (name : String) (json : Json) : Json :=
  .object [(name, json)]

def hexJson (bytes : List UInt8) : Json :=
  .text (ExtendedJson.hexText bytes)

/-- A value that only stored documents have. -/
def ofSpecial : Special → Json
  | .decimal128 d => tag "~decimal128" (.text d.text128)
  | .binary bytes subtype => tag "~binary" (.array [hexJson bytes, .whole subtype])
  | .timestamp time increment =>
    tag "~timestamp" (.array [ExtendedJson.ofTick time, ExtendedJson.ofTick increment])
  | .regex (.text pattern) flags => tag "~regex" (.array [.text pattern, .whole flags])
  | .regex (.bytes pattern) flags =>
    tag "~regex" (.array [tag "~bytes" (hexJson pattern), .whole flags])
  | .minKey => tag "~key" (.text "MinKey")
  | .maxKey => tag "~key" (.text "MaxKey")

def ofNumber : Number → Json
  | .whole (.int n) => .whole n
  | .whole (.long n) => tag "~int64" (.text (toString n))
  | .double d => tag "~float" (.text d.text)
  | .ratio q => tag "~frac" (.array [.whole q.num, .whole q.den])

/-- A reason as an answer gives it: what a reader of JSON had to say is left out. -/
def reasonText (reason : String) : String :=
  if reason.startsWith (Reason.notJson.text ++ ": ") then Reason.notJson.text else reason

/-- A part of a fault made by hand, as an answer gives it. -/
def toldMember : String × Json → String × Json
  | ("reason", .text reason) => ("reason", .text (reasonText reason))
  | part => part

/-- The message of a fault made by hand, as an answer gives it. -/
def toldMessage (parts : List (String × Value)) (message : String) : String :=
  match Value.named? "reason" parts, Value.named? "argument" parts with
  | some (.text reason), some argument =>
    if reasonText reason = reason then message
    else "Invalid " ++ argument.plain ++ ": " ++ reasonText reason
  | _, _ => message

def refusalMembers (argument : String) (reason : Reason) : List (String × Json) :=
  [("message", .text ("Invalid " ++ argument ++ ": " ++ reasonText reason.text)),
    ("argument", .text argument), ("reason", .text (reasonText reason.text))]

mutual

/-- The value of JSON in which every object is a dictionary. -/
def plainValue : Json → Value
  | .null => .null
  | .bool b => .bool b
  | .whole n => .int n
  | .double d => .number (.double d)
  | .text s => .text s
  | .array items => .list (plainValues items)
  | .object entries => .dict (plainEntries entries)

def plainValues : List Json → List Value
  | [] => []
  | json :: rest => plainValue json :: plainValues rest

def plainEntries : List (String × Json) → List (Value × Value)
  | [] => []
  | (name, json) :: rest => (.text name, plainValue json) :: plainEntries rest

end

def plainKey? : Value → Option String
  | .text s => if s.startsWith "~" then none else some s
  | _ => none

mutual

def ofValue : Value → Json
  | .null => .null
  | .bool b => .bool b
  | .number x => ofNumber x
  | .decimal d => tag "~decimal" (.text d.text)
  | .text s => .text s
  | .bytes b => tag "~bytes" (hexJson b)
  | .dateTime t => tag "~date" (.text t.isoText)
  | .day d => tag "~day" (.text d.isoText)
  | .objectId o => tag "~oid" (.text o.hex)
  | .special s => ofSpecial s
  | .list items => .array (ofValues items)
  | .tuple items => tag "~tuple" (.array (ofValues items))
  | .set items => tag "~frozenset" (.array (ofValues items))
  | .dict entries =>
    match entries.mapM (fun entry => plainKey? entry.1) with
    | some names => .object (names.zip (ofSeconds entries))
    | none => tag "~dict" (.array (ofPairs entries))
  | .stream .. => tag "~iter" .null
  | .shape _ outline => tag "~geo" (ofValue outline)
  | .blank _ => tag "~opaque" .null
  | .node n => ofNode n

def ofValues : List Value → List Json
  | [] => []
  | v :: rest => ofValue v :: ofValues rest

def ofSeconds : List (Value × Value) → List Json
  | [] => []
  | (_, v) :: rest => ofValue v :: ofSeconds rest

def ofPairs : List (Value × Value) → List Json
  | [] => []
  | (key, v) :: rest => .array [ofValue key, ofValue v] :: ofPairs rest

def ofNode : Node Value → Json
  | .choice c => tag "~enum" (.text c.text)
  | .classNamed _ name => tag "~class" (.text name)
  | .operation _ => tag "~other" (.text "function")
  | .model m => tag "~class" (.text m.name)
  | .schema (.prepending text) _ => tag "~prefix" (.text text)
  | .fault f _ => tag "~exception" (.object (ofFault f))
  | .bundle entries => tag "~ns" (.object (ofNamed entries))
  | .code text _ => .text text
  | .pointer .. => tag "~other" (.text "DBRef")
  | .memberInfo _ => tag "~other" (.text "FieldInfo")
  | .generic a unpacked _ => tag "~other" (.text (a.kind unpacked))
  | .module _ => tag "~other" (.text "module")
  | .other kind _ => tag "~other" (.text kind)
  | n => tag "~node" (.text (Node.toTerm n).shown)

def ofNamed : List (String × Value) → List (String × Json)
  | [] => []
  | (name, v) :: rest => (name, ofValue v) :: ofNamed rest

def ofFault (f : Fault Value) : List (String × Json) :=
  ("error", .text f.kind) ::
    match f with
    | .invalid argument v reason => refusalMembers argument reason ++ [("value", ofValue v)]
    | .outOfRange argument v reason => refusalMembers argument reason ++ [("value", ofValue v)]
    | .unresolved field reason =>
      [("message", .text f.message), ("reason", .text reason.text), ("field", ofValue field)]
    | .told _ parts message =>
      ("message", .text (toldMessage parts message)) :: (ofNamed parts).map toldMember
    | .refused _ => []
    | .unbound _ => []
    | _ => [("message", .text f.message)]

end

end Notation

/-!
## The notation of expressions

Expressions are written as JSON.  Null, truth values, integers, texts, lists
and objects stand for themselves; an object with a key that starts with a
tilde stands for something else, named by that key.
-/

namespace Notation

abbrev ModelNames := List ModelName

def modelName? (models : ModelNames) (name : String) : Option ModelName :=
  models.find? (fun m => m.name == name)

def under? (key : String) (entries : List (String × Expr)) : Option Expr :=
  (entries.find? (fun entry => entry.1 == key)).map Prod.snd

def asText? : Expr → Option String
  | .literal (.text s) => some s
  | _ => none

def asInt? : Expr → Option Int
  | .literal (.number (.whole (.int n))) => some n
  | _ => none

def asList? : Expr → Option (List Expr)
  | .list items => some items
  | _ => none

def asPair? : Expr → Option (Expr × Expr)
  | .list [key, e] => some (key, e)
  | _ => none

def asNamed? : Expr → Option (List (String × Expr))
  | .dict entries => entries.mapM (fun entry => do some (← asText? entry.1, entry.2))
  | _ => none

/-- The arguments of a call, by position and by name; either may be left out. -/
def arguments? (entries : List (String × Expr)) :
    Option (List Expr × List (String × Expr)) := do
  let args ← match under? "args" entries with
    | some e => asList? e
    | none => some []
  let named ← match under? "kw" entries with
    | some e => asNamed? e
    | none => some []
  some (args, named)

def double? (s : String) : Option Expr := do
  match ← Number.readDouble? 0 s with
  | .nan _ => some .notANumber
  | d => some (.literal (.number (.double d)))

def decimal? (s : String) : Option Expr := do
  match ← Decimal.read? s with
  | .nan negative signaling payload _ => some (.notADecimal negative signaling payload)
  | d => some (.literal (.decimal d))

/-- A fraction from its numerator and its denominator. -/
def ratio? : List Expr → Option Expr
  | [n, d] => do
    let den ← asInt? d
    if den = 0 then none
    else some (.literal (.number (.ratio ((← asInt? n : Rat) / (den : Rat)))))
  | _ => none

/-- A step of a chain of members: a name after a point, or a name in brackets. -/
def step? (start : Expr) (step : String) : Option Expr :=
  match step.toList with
  | '.' :: name => some (.part (String.ofList name) start)
  | '[' :: rest =>
    match rest.reverse with
    | ']' :: name => some (.item (.literal (.text (String.ofList name.reverse))) start)
    | _ => none
  | _ => none

/-- A reference from the name of a model and the steps of a chain of members. -/
def reference? (models : ModelNames) (items : List Expr) : Option Expr := do
  match ← items.mapM asText? with
  | [] => none
  | model :: steps =>
    let m ← modelName? models model
    steps.foldlM step? (.call "fields_of" [.literal (.node (.model m))] [])

/-- The member of an enumeration from the names of both. -/
def choice? (s : String) : Option Expr :=
  (Choice.all.find? (fun c => c.text == s)).map (fun c => .literal (.node (.choice c)))

def tags : List String :=
  ["~float", "~int64", "~frac", "~decimal", "~date", "~day", "~oid", "~bytes", "~tuple",
    "~frozenset", "~iter", "~dict", "~geo", "~opaque", "~prefix", "~enum", "~model", "~name",
    "~ref", "~call", "~method", "~attr", "~item", "~var", "~ns"]

/-- What an object with a tag stands for; `e` is what stands under the tag. -/
def tagged? (models : ModelNames) (tag : String) (e : Expr) (entries : List (String × Expr)) :
    Option Expr := do
  match tag with
  | "~float" => double? (← asText? e)
  | "~int64" => some (.literal (.number (.whole (.long (← Number.readInt? (← asText? e))))))
  | "~frac" => ratio? (← asList? e)
  | "~decimal" => decimal? (← asText? e)
  | "~date" => some (.literal (.dateTime (← DateTime.ofIso? (← asText? e))))
  | "~day" => some (.literal (.day (← Date.ofChars? (← asText? e).toList)))
  | "~oid" =>
    let bytes ← ExtendedJson.hexBytes? (← asText? e).toList
    some (.literal (.objectId ⟨ExtendedJson.hexText bytes⟩))
  | "~bytes" => some (.literal (.bytes (← ExtendedJson.hexBytes? (← asText? e).toList)))
  | "~tuple" => some (.tuple (← asList? e))
  | "~frozenset" => some (.set (← asList? e))
  | "~iter" => some (.stream (← asList? e))
  | "~dict" => some (.dict (← (← asList? e).mapM asPair?))
  | "~geo" => some (.shape e)
  | "~opaque" => some .blank
  | "~prefix" => some (.prepending (← asText? e))
  | "~enum" => choice? (← asText? e)
  | "~model" => some (.literal (.node (.model (← modelName? models (← asText? e)))))
  | "~name" => some (.global (← asText? e))
  | "~ref" => reference? models (← asList? e)
  | "~call" =>
    let (args, named) ← arguments? entries
    some (.call (← asText? e) args named)
  | "~method" =>
    let (args, named) ← arguments? entries
    some (.method (← asText? e) (← under? "on" entries) args named)
  | "~attr" => some (.part (← asText? e) (← under? "of" entries))
  | "~item" => some (.item e (← under? "of" entries))
  | "~var" => some (.bound (← asText? e))
  | "~ns" => some (.bundle (← asNamed? e))
  | _ => none

/-- What an object stands for, given what its members stand for. -/
def object? (models : ModelNames) (entries : List (String × Expr)) : Option Expr :=
  match entries.find? (fun entry => tags.contains entry.1) with
  | some (tag, e) => tagged? models tag e entries
  | none => some (.dict (entries.map (fun entry => (.literal (.text entry.1), entry.2))))

mutual

/-- Reads an expression; none when it is not well formed. -/
def expr? (models : ModelNames) : Json → Option Expr
  | .null => some (.literal .null)
  | .bool b => some (.literal (.bool b))
  | .whole n => some (.literal (.int n))
  | .double d => some (.literal (.number (.double d)))
  | .text s => some (.literal (.text s))
  | .array items => do some (.list (← exprs? models items))
  | .object entries => do object? models (← named? models entries)

def exprs? (models : ModelNames) : List Json → Option (List Expr)
  | [] => some []
  | json :: rest => do some ((← expr? models json) :: (← exprs? models rest))

def named? (models : ModelNames) : List (String × Json) → Option (List (String × Expr))
  | [] => some []
  | (name, json) :: rest => do some ((name, ← expr? models json) :: (← named? models rest))

end

end Notation

/-!
## The notation of models

Models are declared as JSON objects with a name, an optional parent, an
optional rule for undeclared members, and a list of members with their types.
-/

namespace Json

def member? (key : String) : Json → Option Json
  | .object entries => (entries.find? (fun entry => entry.1 == key)).map Prod.snd
  | _ => none

def text? : Json → Option String
  | .text s => some s
  | _ => none

def whole? : Json → Option Int
  | .whole n => some n
  | _ => none

def items? : Json → Option (List Json)
  | .array items => some items
  | _ => none

def textUnder? (key : String) (json : Json) : Option String :=
  (json.member? key).bind text?

end Json

namespace Notation

/-- The kind of the values of a member whose type is a word. -/
def scalarKind : String → String
  | "any" => "Any"
  | "bare_list" => "list"
  | "bare_dict" => "dict"
  | "none" => "NoneType"
  | word => word

def literalValue : Json → String
  | .null => "None"
  | .bool b => if b then "True" else "False"
  | .text s => Text.quoted s
  | json => json.print .oneLine

def remark : Annotation :=
  .constant "'remark'"

mutual

def content? (models : ModelNames) : Json → Option Annotation
  | .text word => some (.scalar (scalarKind word))
  | .object [("model", .text name)] => (modelName? models name).map .model
  | .object [("list", t)] => (content? models t).map .list
  | .object [("optional", t)] => (content? models t).map .optional
  | .object [("dict", .array [key, t])] => do
    some (.dict (← content? models key) (← content? models t))
  | .object [("tuple", .array ts)] => (contents? models ts).map .tuple
  | .object [("vartuple", t)] => (content? models t).map .sequence
  | .object [("union", .array ts)] => (contents? models ts).map .union
  | .object [("type", t)] => (content? models t).map .classOf
  | .object [("annotated", t)] => (content? models t).map (fun a => .annotated a [remark])
  | .object [("literal", .array values)] => some (.literal (values.map literalValue))
  | _ => none

def contents? (models : ModelNames) : List Json → Option (List Annotation)
  | [] => some []
  | t :: rest => do some ((← content? models t) :: (← contents? models rest))

end

/-- Reads a member; one without a type holds anything. -/
def member? (models : ModelNames) (json : Json) : Option Member := do
  let name ← json.textUnder? "name"
  let content ← match json.member? "type" with
    | some t => content? models t
    | none => some (.scalar "Any")
  some ⟨name, content, json.textUnder? "alias", json.textUnder? "serialization_alias",
    json.textUnder? "validation_alias"⟩

/-- Reads what a model does with members it does not declare. -/
def extra? : String → Option Extra
  | "allow" => some .allow
  | "ignore" => some .ignore
  | "forbid" => some .forbid
  | _ => none

def declaration? (home : String) (models : ModelNames) (json : Json) : Option Declaration := do
  let name ← json.textUnder? "name"
  let parent ← match json.textUnder? "base" with
    | some base => (modelName? models base).map some
    | none => some none
  let extra ← match json.textUnder? "extra" with
    | some rule => (extra? rule).map some
    | none => some none
  let members ← (← (← json.member? "fields").items?).mapM (member? models)
  some ⟨⟨home, name⟩, parent, extra, members⟩

/-- Reads declarations in a module; each may use those before it and itself. -/
def declarations? (home : String) (models : ModelNames) : List Json → Option (List Declaration)
  | [] => some []
  | json :: rest => do
    let models := ⟨home, ← json.textUnder? "name"⟩ :: models
    some ((← declaration? home models json) :: (← declarations? home models rest))

end Notation

/-!
## The notation of questions and definitions

A question is an object whose operation says what is asked; its answer is an
object that holds the answer or the fault that stands in its place.
-/

namespace Notation

section

variable (models : ModelNames) (json : Json)

def exprUnder? (key : String) : Option Expr := do
  expr? models (← json.member? key)

/-- The expression under a key that may be left out. -/
def exprUnderOptional? (key : String) : Option (Option Expr) :=
  match json.member? key with
  | none => some none
  | some e => (expr? models e).map some

/-- The indentation of a text, null when it is left out. -/
def indent : Value :=
  Value.ofOption plainValue (json.member? "indent")

def question? : Option Question := do
  let subject := exprUnder? models json "expr"
  match ← json.textUnder? "op" with
  | "eval" => some (.value (← subject))
  | "render" => some (.document (← subject) (← exprUnderOptional? models json "schema"))
  | "json" =>
    some (.documentText (← subject) (← exprUnderOptional? models json "schema") (indent json))
  | "dump" => some (.text (← subject) (indent json))
  | "repr" => some (.shown (← subject))
  | "str" => some (.plain (← subject))
  | "type" => some (.kind (← subject))
  | "isa" =>
    some (.kindsAmong (← subject) (← (← (← json.member? "classes").items?).mapM Json.text?))
  | "eq" => some (.equal (← exprUnder? models json "a") (← exprUnder? models json "b"))
  | "distinct" => some (.distinct (← exprs? models (← (← json.member? "items").items?)))
  | "let" => some (.bind (← json.textUnder? "name") (← subject))
  | _ => none

def definition? : Option (Expr × Bool) :=
  match json.member? "factory" with
  | some e => (expr? models e).map (·, true)
  | none => (exprUnder? models json "value").map (·, false)

end

/-- The definitions of a module, evaluated in order unless they are factories. -/
def define : List (String × Expr × Bool) → Action (List (String × Definition))
  | [] => pure []
  | (name, e, isFactory) :: rest => do
    let d ← if isFactory then pure (Definition.factory e) else do pure (.value (← e.eval))
    let others ← define rest
    return (name, d) :: others

def ofAnswer : Answer → Json
  | .value v => ofValue v
  | .text s => .text s
  | .flag b => .bool b
  | .names names => .array (names.map .text)
  | .count n => .whole n

def ofOutcome : Except (Fault Value) Answer → Json
  | .ok a => tag "ok" (ofAnswer a)
  | .error f => .object (ofFault f)

end Notation

/-!
## Sources of modules

A module can be written as one JSON object: the models that it declares, in
order, and the values and factories that it defines.  A value is evaluated
when its module is loaded, a factory whenever it is called.
-/

/-- A module as it is written. -/
structure Source where
  declarations : List Declaration
  definitions : List (String × Expr × Bool)

namespace Source

/-- The source that an object holds; it can name its own models before the others. -/
def ofJson? (home : String) (models : Notation.ModelNames) (json : Json) : Option Source := do
  let declarations ← match json.member? "models" with
    | some list => Notation.declarations? home models (← list.items?)
    | none => some []
  let known := (declarations.map Declaration.name).reverse ++ models
  let definitions ← match json.member? "definitions" with
    | some (.object entries) =>
      entries.mapM (fun entry => do some (entry.1, ← Notation.definition? known entry.2))
    | some _ => none
    | none => some []
  some ⟨declarations, definitions⟩

def ofText? (home : String) (models : Notation.ModelNames) (text : String) : Option Source :=
  let read : Except (Json.ReadError Empty) Json := Json.read Json.maker text
  match read with
  | .ok json => ofJson? home models json
  | .error _ => none

def modelDefinitions (source : Source) : List (String × Definition) :=
  source.declarations.map (fun d => (d.name.name, .value (.node (.model d.name))))

def toModule (source : Source) (home : String) : Action Module := do
  modify (fun s => { s with catalog := source.declarations.foldl Catalog.declare s.catalog })
  let definitions ← Notation.define source.definitions
  return ⟨home, definitions ++ source.modelDefinitions⟩

end Source

end SearchQuery
