import SearchQuery.Script.Library.Operators

/-!
# The library of scripts

All callables by their names, and the operations of the values they make.
-/

namespace SearchQuery

/-!
## All callables

Everything a script can name and call.  One function is called through
another: a check that applies only when a value is given.
-/

namespace Library

/-- Everything that can be called, except through another function. -/
def callables : List Callable :=
  checks ++ fields ++ scores ++ places ++ operators ++ spans ++ facets ++ options ++ stages ++
    faults ++ targets

def callable? (name : String) : Option Callable :=
  callables.find? (fun f => f.name == name)

/-- The function that applies another one only when a value is given. -/
def conditional : String :=
  "optional"

def conditionalSignature : Signature :=
  .gathering [.required "value", .required "check"]

def plainKinds : List String :=
  ["str", "int", "float", "bool", "list", "dict", "tuple", "datetime", "object", "Int64",
    "ObjectId", "ValueError", "Exception"]

/-- The value of a name, with the modules that define the kinds that can be called. -/
def global? (homes : String → String) (name : String) : Option Value :=
  if name = conditional then some (.node (.operation name))
  else
    match callable? name with
    | some f => some (.node (if f.isKind then .classNamed (homes name) name else .operation name))
    | none =>
      match name with
      | "UNTYPED" => some (.node (.schema .untyped 0))
      | "POLYGONS" => some (typeSet polygonTypes)
      | "SHAPES" => some (typeSet shapeTypes)
      | "BaseModel" => some (.node (.model .base))
      | name =>
        if plainKinds.contains name then some (.node (.classNamed (Kind.home name) name)) else none

def calledName? : Value → Option String
  | .node (.operation name) => some name
  | .node (.classNamed _ name) => some name
  | _ => none

/-- Calls by name.  Each conditional call uses up one argument, so the fuel is
their number. -/
def callWith : (fuel : Nat) → String → List Value → List (String × Value) → Action Value
  | 0, _, _, _ => throw (.refused .wrongType)
  | fuel + 1, name, args, named =>
    if name = conditional then
      match conditionalSignature.bind? args named with
      | none => throw (.refused .wrongType)
      | some a =>
        match a.get "value", calledName? (a.get "check") with
        | .null, _ => pure .null
        | v, some check => callWith fuel check (v :: a.rest) []
        | _, none => throw (.refused .wrongType)
    else
      match callable? name with
      | some f => f.call args named
      | none =>
        if plainKinds.contains name && named.isEmpty then callPlain name args
        else throw (.refused .wrongType)

def classOf (homes : String → String) (v : Value) : Value :=
  let home := if (callable? v.kind).isSome then homes v.kind else Kind.home v.kind
  .node (.classNamed home v.kind)

/-- What a part of the values of a kind is when it is left out, if it may be;
the kind itself has it under the name of the part. -/
def absentPart? (kind name : String) : Option Value :=
  if (Choice.membersOf kind).isEmpty then do
    let f ← callable? kind
    let p ← if f.isKind then f.signature.parameters.find? (fun p => p.name == name) else none
    p.absent
  else none

/-- What a class or a function tells of itself under a name; a value knows the
module of its kind. -/
def selfPart? (homes : String → String) (v : Value) (name : String) : Option Value :=
  match v with
  | .node (.classNamed home kind) =>
    match name with
    | "__qualname__" => some (.text kind)
    | "__module__" => some (.text (if home = "" then "builtins" else home))
    | name => absentPart? kind name
  | .node (.model m) =>
    match name with
    | "__qualname__" => some (.text m.name)
    | "__module__" => some (.text m.home)
    | _ => none
  | .node (.operation operation) =>
    match name with
    | "__qualname__" => some (.text operation)
    | "__module__" => some (.text (homes operation))
    | _ => none
  | v => if name = "__module__" && (callable? v.kind).isSome then some (.text (homes v.kind)) else none

/-- An attribute of a value; every value has a class. -/
def attributeOf (v : Value) (name : String) : Action Value := do
  let s ← get
  if name = "__class__" then return classOf s.host.homes v
  match attributeValue s.catalog v name, selfPart? s.host.homes v name with
  | .error (.noAttribute _), some found => return found
  | outcome, _ => Action.ofChecked outcome

def call (name : String) (args : List Value) (named : List (String × Value)) : Action Value :=
  callWith (args.length + named.length + 1) name args named

end Library

/-!
## Methods

What a script does with a value: it asks for its document or for the body of
it, resolves a field against it, adds clauses or bounds to it, or calls what it
has under a name.  An operation that a class offers is given the value to apply
it to as its first argument.
-/

namespace Method

def signature (v : Value) (name : String) : Signature :=
  match name with
  | "render" =>
    match v with
    | .node n => .plain (if n.takesSchema then [.nullable "schema"] else [])
    | _ => .plain []
  | "_render_body" => .plain [.required "schema"]
  | "resolve" => .plain [.required "field"]
  | "_serialize" => .plain [.required "parts", .required "field"]
  | "_member" => .plain [.required "name"]
  | "as_doc" => .plain []
  | "minimum_should_match" => .plain [.required "value"]
  | name =>
    if (Compound.Role.ofMethod? name).isSome then .gathering []
    else .plain [.required "value"]

/-- The arguments of a call that adds clauses; the only one may be a stream. -/
def clauseArguments (args : List Value) : Action (List Value) := do
  match args with
  | [only] => return [← Action.drain only]
  | several => return several

def ofOperator (op : Operator Value) (name : String) (a : Arguments) : Action Value := do
  match Compound.Role.ofMethod? name, Range.Side.ofMethod? name, op with
  | some role, _, op => do
    let given ← clauseArguments a.rest
    Action.wrapped .ofOperator (Compound.add role given op)
  | none, some side, .range form path lower upper score =>
    match Range.second? form path lower upper score side (a.get "value") with
    | some outcome => Action.wrapped .ofOperator outcome
    | none => throw (.refused .wrongType)
  | _, _, op => Action.wrapped .ofOperator (Compound.atLeast (a.get "value") op)

def pointerDocument (collection : Words) (id : Value) (database : Option Words)
    (others : List (Value × Value)) : Value :=
  let own := [(Value.text "$ref", Value.ofWords collection), (.text "$id", id)] ++
    (database.map (fun name => (Value.text "$db", Value.ofWords name))).toList
  .dict (others.foldl (fun entries entry => Value.insert entry.1 entry.2 entries) own)

def ofNode (c : Catalog) (n : Node Value) (name : String) (a : Arguments) : Action Value := do
  match name, n with
  | "render", n => Action.ofChecked (n.documentWith c (a.get "schema"))
  | "_render_body", .operator op => Action.ofChecked (op.body c (a.get "schema"))
  | "_is_boundary", .facet (.number ..) => return .bool (a.get "value").isNumber
  | "_is_boundary", .facet (.date ..) => return .bool (a.get "value").isDate
  | "_member", .field r =>
    Action.ofChecked (Reference.member c (.node (.model r.owner)) (.tuple (r.parts.map .text))
      (a.get "name"))
  | "_member", .looseField owner parts =>
    Action.ofChecked (Reference.member c owner parts (a.get "name"))
  | "resolve", .schema s _ => Action.wrapped .ofWords (s.resolve c (a.get "field"))
  | "_serialize", .schema (.modelled m) _ =>
    Action.wrapped .text (Reference.serialize c m (a.get "field") (a.get "parts"))
  | "as_doc", .pointer collection id database others =>
    return pointerDocument collection id database others
  | name, .rangeStart path score =>
    match Range.Side.ofMethod? name with
    | some side => Action.wrapped .ofOperator (Range.first ⟨path, score⟩ side (a.get "value"))
    | none => throw (.refused .wrongType)
  | name, .operator op => ofOperator op name a
  | _, _ => throw (.refused .wrongType)

def apply (v : Value) (name : String) (args : List Value) (named : List (String × Value)) :
    Action Value := do
  match (signature v name).bind? args named, v with
  | some a, .node n => ofNode (← Action.catalog) n name a
  | _, _ => throw (.refused .wrongType)

/-- The name of the member that a part of a chain means in a model, or null. -/
def lookup (c : Catalog) (model part : Value) : Checked Value :=
  match model with
  | .node (.model m) =>
    if !part.hashable then .error (.refused .wrongType)
    else .ok (.ofOption (fun member => .text member.name) (Reference.find? c m part))
  | model => .error (model.absence "model_fields")

/-- Calls an operation that a class offers; its first argument is what it is applied to. -/
def applyFirst (name : String) (args : List Value) (named : List (String × Value)) :
    Action Value := do
  let c ← Action.catalog
  if Kind.free.contains name then
    match (Signature.plain [.required "model", .required "part"]).bind? args named with
    | some a => Action.ofChecked (lookup c (a.get "model") (a.get "part"))
    | none => throw (.refused .wrongType)
  else
    match args with
    | [] => throw (.refused .wrongType)
    | receiver :: rest =>
      match ← Action.ofChecked (receiver.part c name) with
      | .method name => apply receiver name rest named
      | _ => throw (.refused .wrongType)

/-- Whether a value is a reference or a table of members. -/
def hasMembers : Value → Bool
  | .node (.field _) => true
  | .node (.looseField ..) => true
  | .node (.members ..) => true
  | .node (.looseMembers ..) => true
  | _ => false

/-- Operations that values have without being asked for them by name elsewhere:
their texts, their equality, and the look-up of members. -/
def hidden (v : Value) : List String :=
  match v with
  | .node (.classNamed ..) => []
  | .node (.model _) => []
  | v => ["__str__", "__repr__", "__eq__"] ++
      (if hasMembers v then ["__getattr__", "__getitem__"] else [])

def applyHidden (v : Value) (name : String) (args : List Value) : Action Value := do
  match name, args with
  | "__str__", [] => return .text (← Library.plainText v)
  | "__repr__", [] => do
    return .text (← Action.ofChecked v.shownText)
  | "__eq__", [other] =>
    return if v.kind = other.kind then .bool (v.equal other) else .node (.other "NotImplementedType" [])
  | "__getitem__", [key] => Action.ofChecked (v.item (← Action.catalog) key)
  | "__getattr__", [.text member] =>
    if member.startsWith "_" || (v.kind = "FieldRef" && ["model", "parts"].contains member) then
      throw (.noAttribute (.withheld member))
    else Action.ofChecked (Library.attributeValue (← Action.catalog) v member)
  | "__getattr__", [member] => throw (member.absence "startswith")
  | _, _ => throw (.refused .wrongType)

def find (v : Value) (name : String) : Action Attribute := do
  if (hidden v).contains name then return .method name
  else Action.ofChecked (v.part (← Action.catalog) name)

def call (v : Value) (part : Attribute) (args : List Value) (named : List (String × Value)) :
    Action Value := do
  match part with
  | .value f =>
    match Library.calledName? f with
    | some name => Library.call name args named
    | none => throw (.refused .wrongType)
  | .method name =>
    if (hidden v).contains name && named.isEmpty then applyHidden v name args
    else apply v name args named
  | .unapplied name => applyFirst name args named

end Method

end SearchQuery
